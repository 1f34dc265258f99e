import CompilerLog.Json.Token
import CompilerLog.Json.Value
/-!
# Reading JSON

Tokens are read one by one with a stack of the arrays and objects that are still open. A value is
accepted when the stack is empty and no token is left.
-/

namespace CompilerLog.Json

/-- An array or object that is still open, its members so far in reverse. -/
inductive Frame where
  | array (items : List Json)
  /-- An object at the value of the field with the given name. -/
  | object (fields : List (Option String × Json)) (name : Option String)

/-- What may come next. -/
inductive Expected where
  | value
  | firstItem
  | separator
  | firstName (fields : List (Option String × Json))
  | name (fields : List (Option String × Json))
  | colon (fields : List (Option String × Json)) (name : Option String)
  | done (value : Json)

/-- The state of reading: what may come next, and what is open. -/
structure Parse where
  expected : Expected
  opened : List Frame

namespace Parse

/-- A value is complete: it is the whole text, or the next member of what is open. -/
def close (value : Json) : List Frame → Parse
  | [] => ⟨.done value, []⟩
  | .array items :: opened => ⟨.separator, .array (value :: items) :: opened⟩
  | .object fields name :: opened => ⟨.separator, .object ((name, value) :: fields) name :: opened⟩

def beginValue (opened : List Frame) : Token → Option Parse
  | .null => some (close .null opened)
  | .bool value => some (close (.bool value) opened)
  | .number text => some (close (.number (String.ofList text)) opened)
  | .string text => some (close (.string (text.map String.ofList)) opened)
  | .openArray => some ⟨.firstItem, .array [] :: opened⟩
  | .openObject => some ⟨.firstName [], opened⟩
  | _ => none

def step (p : Parse) (token : Token) : Option Parse :=
  match p.expected, token with
  | .value, token => beginValue p.opened token
  | .firstItem, .closeArray => some (close (.array []) p.opened.tail)
  | .firstItem, token => beginValue p.opened token
  | .separator, token =>
    match p.opened, token with
    | .array _ :: _, .comma => some ⟨.value, p.opened⟩
    | .array items :: opened, .closeArray => some (close (.array items.reverse) opened)
    | .object fields _ :: opened, .comma => some ⟨.name fields, opened⟩
    | .object fields _ :: opened, .closeObject => some (close (.object fields.reverse) opened)
    | _, _ => none
  | .firstName _, .closeObject => some (close (.object []) p.opened)
  | .firstName fields, .string name => some ⟨.colon fields (name.map String.ofList), p.opened⟩
  | .name fields, .string name => some ⟨.colon fields (name.map String.ofList), p.opened⟩
  | .colon fields name, .colon => some ⟨.value, .object fields name :: p.opened⟩
  | _, _ => none

def run (p : Parse) (tokens : List Token) : Option Parse := tokens.foldlM step p

end Parse

def ofTokens? (tokens : List Token) : Option Json :=
  ((Parse.run ⟨.value, []⟩ tokens).map Parse.expected).bind fun
    | .done value => some value
    | _ => none

def parse? (text : String) : Option Json :=
  (tokens? text.toList).bind ofTokens?

end CompilerLog.Json
