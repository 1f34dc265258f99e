import CompilerLog.Json.Value
/-!
# Writing JSON

One printer serves both layouts: `compact` has no white space, `indented` puts every member on a
line of its own with four spaces for each level. An empty array or object is written without a
break.
-/

namespace CompilerLog.Json

/-- The white space between tokens. -/
structure Layout where
  /-- What stands before a member, or before the end, at the given level. -/
  breakAt : Nat → List Char
  /-- What stands between the name of a field and its value. -/
  colon : List Char

def compact : Layout := ⟨fun _ => [], [':']⟩

/-- A line for each member, indented by four spaces for each level. -/
def indented : Layout := ⟨fun level => '\n' :: List.replicate (4 * level) ' ', [':', ' ']⟩

def hexDigit (n : Nat) : Char := (Nat.digitChar n)

def writeChar (c : Char) : List Char :=
  if c = '"' then ['\\', '"']
  else if c = '\\' then ['\\', '\\']
  else if c = '\x08' then ['\\', 'b']
  else if c = '\x0c' then ['\\', 'f']
  else if c = '\n' then ['\\', 'n']
  else if c = '\r' then ['\\', 'r']
  else if c = '\t' then ['\\', 't']
  else if c < ' ' then ['\\', 'u', '0', '0', hexDigit (c.toNat / 16), hexDigit (c.toNat % 16)]
  else [c]

def writeString (text : List Char) : List Char :=
  '"' :: text.flatMap writeChar ++ ['"']

/-- A string that is no sequence of characters has no written form; it is written as `null`. -/
def writeText : Option String → List Char
  | some text => writeString text.toList
  | none => "null".toList

mutual

def write (layout : Layout) (level : Nat) : Json → List Char
  | null => "null".toList
  | bool true => "true".toList
  | bool false => "false".toList
  | number text => text.toList
  | string text => writeText text
  | array [] => ['[', ']']
  | array (item :: items) =>
    '[' :: layout.breakAt (level + 1) ++ write layout (level + 1) item ++
      writeItems layout (level + 1) items ++ layout.breakAt level ++ [']']
  | object [] => ['{', '}']
  | object ((name, value) :: fields) =>
    '{' :: layout.breakAt (level + 1) ++ writeText name ++ layout.colon ++
      write layout (level + 1) value ++ writeFields layout (level + 1) fields ++
      layout.breakAt level ++ ['}']

def writeItems (layout : Layout) (level : Nat) : List Json → List Char
  | [] => []
  | item :: items =>
    ',' :: layout.breakAt level ++ write layout level item ++ writeItems layout level items

def writeFields (layout : Layout) (level : Nat) : List (Option String × Json) → List Char
  | [] => []
  | (name, value) :: fields =>
    ',' :: layout.breakAt level ++ writeText name ++ layout.colon ++ write layout level value ++
      writeFields layout level fields

end

def print (layout : Layout) (value : Json) : String := String.ofList (write layout 0 value)

end CompilerLog.Json
