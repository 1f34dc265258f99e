import CompilerLog.Json.Value
/-!
# Reading values of known types

A record is an object with the declared fields, or an array of them in the order of declaration.
Fields that are not declared are passed over; one that is declared must not occur twice.
-/

namespace CompilerLog.Json

def asString? : Json → Option String
  | string text => text
  | _ => none

def asBool? : Json → Option Bool
  | bool value => some value
  | _ => none

def asArray? : Json → Option (List Json)
  | array items => some items
  | _ => none

def asList? {α : Type} (item? : Json → Option α) : Json → Option (List α)
  | array items => items.mapM item?
  | _ => none

def asStrings? : Json → Option (List String) := asList? asString?

def decimal (digits : List Char) : Nat :=
  digits.foldl (fun n c => n * 10 + (c.toNat - '0'.toNat)) 0

/-- A whole number below 2 ^ 32, written without sign, fraction and exponent. -/
def asUInt32? : Json → Option UInt32
  | number text =>
    let digits := text.toList
    if digits.all Char.isDigit ∧ decimal digits < Nat.pow 2 32 then
      some (UInt32.ofNat (decimal digits))
    else none
  | _ => none

/-- The name of a case without values: the string itself, or an object whose only field has that
name and the value `null`. -/
def asCase? : Json → Option String
  | string text => text
  | object [(name, null)] => name
  | _ => none

def valuesOf (name : String) (fields : List (Option String × Json)) : List Json :=
  fields.filterMap fun (key, value) => if key = some name then some value else none

/-- The value of a field that may be missing, but must not occur twice. -/
def atMostOne? (name : String) (fields : List (Option String × Json)) : Option (Option Json) :=
  match valuesOf name fields with
  | [] => some none
  | [value] => some (some value)
  | _ => none

/-- The declared fields of an object, missing ones included, in the order of declaration. -/
def namedFields? (names : List String) (fields : List (Option String × Json)) :
    Option (List (Option Json)) :=
  if fields.all (·.1.isSome) then names.mapM fun name => atMostOne? name fields else none

/-- The declared fields of a record, missing ones included, in the order of declaration. -/
def asRecord? (names : List String) : Json → Option (List (Option Json))
  | object fields => namedFields? names fields
  | array items =>
    if items.length ≤ names.length then
      some (items.map some ++ List.replicate (names.length - items.length) none)
    else none
  | _ => none

def required? {α : Type} (read? : Json → Option α) (field : Option Json) : Option α :=
  field.bind read?

def optional? {α : Type} (default : α) (read? : Json → Option α) : Option Json → Option α
  | none => some default
  | some value => read? value

end CompilerLog.Json
