import CompilerLog.Host.Yaml.Node
import CompilerLog.Host.Yaml.Plain
/-!
# Reading nodes of known types

A text is a scalar, however it is written; a record is a mapping with texts as keys, and what is
left out is an empty record or an empty list. Everything is read in the order of the document, so
that of two faults the first one is found.
-/

namespace CompilerLog.Yaml

namespace Node

def asText? : Node → Option String
  | scalar _ _ text => some text
  | _ => none

def truthTag : String := "tag:yaml.org,2002:bool"

/-- A truth value: a plain word, or a literal block that is tagged as one. -/
def asTruth? : Node → Option Bool
  | scalar _ .plain text => Plain.truth? text
  | scalar (some tag) .literal text => if tag = truthTag then Plain.truth? text else none
  | _ => none

def localTag? (tag : Option String) : Option String :=
  match tag.map String.toList with
  | some ('!' :: c :: rest) => some (String.ofList (c :: rest))
  | _ => none

/-- The name of a case without values: a text, or a tag on nothing. -/
def asCase? : Node → Option String
  | scalar tag style text =>
    match localTag? tag with
    | none => some text
    | some name =>
      if style = .plain ∧ Plain.ofText text = .null then some name else none
  | _ => none

def asItems? : Node → Option (List Node)
  | sequence _ items => some items
  | node => if node.isEmpty then some [] else none

def asEntries? : Node → Option (List (Node × Node))
  | mapping _ entries => some entries
  | node => if node.isEmpty then some [] else none

def asTexts? (node : Node) : Option (List String) :=
  node.asItems?.bind fun items => items.mapM asText?

end Node

/-- Reads the fields of a record in order, each with what is read before it. A field that is not
declared is passed over; one that is declared must not occur twice. -/
def readFields {ε α : Type} (malformed : ε) (declared : List String)
    (read : α → String → Node → Except ε α) :
    List String → α → List (Node × Node) → Except ε α
  | _, found, [] => .ok found
  | seen, found, (key, value) :: rest =>
    match key.asText? with
    | none => .error malformed
    | some name =>
      if name ∈ declared then
        if name ∈ seen then .error malformed
        else match read found name value with
          | .error error => .error error
          | .ok found => readFields malformed declared read (name :: seen) found rest
      else if value.isWhole then readFields malformed declared read seen found rest
      else .error malformed

/-! ### Nodes of unknown type -/

/-- What is kept of a node whose type does not show. -/
inductive Held where
  | string (value : String)
  | natural (value : Nat)
  | other
  deriving DecidableEq, Repr

namespace Held

/-- What a plain scalar is held as. Integers have to fit into 64 bits. -/
def ofPlain? (text : String) : Option Held :=
  match Plain.ofText text with
  | .text => some (.string text)
  | .integer value =>
    if value < -(Nat.pow 2 63 : Int) ∨ (Nat.pow 2 64 : Int) ≤ value then none
    else if value < 0 then some .other
    else some (.natural value.toNat)
  | _ => some .other

def yamlTag (name : String) : String := "tag:yaml.org,2002:" ++ name

/-- What a scalar is held as. A tag for a type has to fit, and one that has a meaning only in the
document does not. -/
def ofScalar? (tag : Option String) (style : Style) (text : String) : Option Held :=
  match tag with
  | none => if style = .plain then ofPlain? text else some (.string text)
  | some tag =>
    if (Node.localTag? (some tag)).isSome then none
    else if tag = yamlTag "bool" then (Plain.truth? text).map fun _ => .other
    else if tag = yamlTag "int" then
      match Plain.integer? text.toList with
      | some _ => ofPlain? text
      | none => none
    else if tag = yamlTag "float" then
      if Plain.isReal text.toList then some .other else none
    else if tag = yamlTag "null" then
      if text ∈ Plain.nullWords then some .other else none
    else some (.string text)

mutual

def canHold : Node → Bool
  | .scalar tag style text => (ofScalar? tag style text).isSome
  | .sequence tag items => (Node.localTag? tag).isNone && canHoldAll items
  | .mapping tag entries => (Node.localTag? tag).isNone && canHoldEntries entries
  | .broken => false

def canHoldAll : List Node → Bool
  | [] => true
  | item :: rest => canHold item && canHoldAll rest

def canHoldEntries : List (Node × Node) → Bool
  | [] => true
  | (key, value) :: rest => canHold key && canHold value && canHoldEntries rest

end

def ofNode : Node → Held
  | .scalar tag style text => (ofScalar? tag style text).getD .other
  | _ => .other

/-- The values of the only field that is declared; none when a key cannot be the key of a record.
A key may also be the place of the field. -/
def valuesOf? (name : String) : List (Node × Node) → Option (List Held)
  | [] => some []
  | (key, value) :: rest =>
    match ofNode key with
    | .string text => do
      let values ← valuesOf? name rest
      pure (if text = name then ofNode value :: values else values)
    | .natural place => do
      let values ← valuesOf? name rest
      pure (if place = 0 then ofNode value :: values else values)
    | .other => none

def textOf? (name : String) (entries : List (Node × Node)) : Option String :=
  match valuesOf? name entries with
  | some [.string text] => some text
  | _ => none

end Held

end CompilerLog.Yaml
