/-!
# JSON values

The values of the JSON format. A number is kept as it is written. Objects keep their fields in the
order of the text, repeated names included. A string is unknown (`none`) when an escape in it names
one half of a surrogate pair: such text is well formed, but no sequence of characters.
-/

namespace CompilerLog

/-- A JSON value. -/
inductive Json where
  | null
  | bool (value : Bool)
  | number (text : String)
  | string (text : Option String)
  | array (items : List Json)
  | object (fields : List (Option String × Json))
  deriving Repr

namespace Json

instance : Inhabited Json := ⟨null⟩

def ofString (s : String) : Json := string (some s)

def ofStrings (l : List String) : Json := array (l.map ofString)

def ofNat (n : Nat) : Json := number (toString n)

def ofFields (fields : List (String × Json)) : Json :=
  object (fields.map fun (name, value) => (some name, value))

end Json

end CompilerLog
