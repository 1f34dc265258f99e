/-!
# Places in a YAML text

The characters that YAML tells apart, and a cursor: the text that is left together with the place
where it begins. Line breaks of every system count as one character: `normalize` makes them so.
-/

namespace CompilerLog.Yaml

def isBreak (c : Char) : Bool :=
  c = '\n' || c = '\r' || c = '\u0085' || c = '\u2028' || c = '\u2029'

def isSpacing (c : Char) : Bool := c = ' ' || c = '\t'

def isWordChar (c : Char) : Bool := c.isAlphanum || c = '_' || c = '-'

/-- Whether a text begins with spacing, with a line break, or not at all. -/
def startsBlank : List Char → Bool
  | [] => true
  | c :: _ => isSpacing c || isBreak c

def startsSpacing : List Char → Bool
  | [] => false
  | c :: _ => isSpacing c

def startsDocument : List Char → Bool
  | '-' :: '-' :: '-' :: rest | '.' :: '.' :: '.' :: rest => startsBlank rest
  | _ => false

def isAllowed (c : Char) : Bool :=
  c = '\t' || c = '\n' || c = '\r' || (' ' ≤ c && c ≤ '~') || c = '\u0085' ||
    ('\u00a0' ≤ c && c ≤ '\ufffd') || '\ufffd' < c && 0x10000 ≤ c.toNat

/-- The text with one newline for each line break, apart from the two separators that Unicode has
for the purpose. -/
def normalize : List Char → List Char
  | [] => []
  | '\r' :: '\n' :: rest => '\n' :: normalize rest
  | c :: rest => (if c = '\r' || c = '\u0085' then '\n' else c) :: normalize rest

/-- A place in a text, and the text from there on. -/
structure Cursor where
  rest : List Char
  index : Nat
  line : Nat
  column : Nat

namespace Cursor

def start (text : List Char) : Cursor := ⟨text, 0, 0, 0⟩

def next (c : Cursor) : Cursor :=
  match c.rest with
  | [] => c
  | char :: rest =>
    if isBreak char then ⟨rest, c.index + 1, c.line + 1, 0⟩
    else ⟨rest, c.index + 1, c.line, c.column + 1⟩

def skip : Nat → Cursor → Cursor
  | 0, c => c
  | n + 1, c => skip n c.next

def moveTo (c : Cursor) (rest : List Char) : Cursor := skip (c.rest.length - rest.length) c

end Cursor

end CompilerLog.Yaml
