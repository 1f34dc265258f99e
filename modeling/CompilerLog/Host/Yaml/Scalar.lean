import CompilerLog.Text.Cut
import CompilerLog.Host.Yaml.Cursor
/-!
# Scalars of YAML

The five ways to write a scalar, and how its text is read. White space inside a scalar is held back
as a gap until it is known that the scalar goes on: a single line break then becomes a space, and of
several ones the first is dropped.
-/

namespace CompilerLog.Yaml

/-- How a scalar is written. -/
inductive Style where
  | plain
  | singleQuoted
  | doubleQuoted
  | literal
  | folded
  deriving DecidableEq, Repr

/-- White space between two parts of a scalar. -/
inductive Gap where
  /-- Spacing in a line. -/
  | spacing (text : List Char)
  /-- Line breaks; the first is empty when it was escaped. -/
  | lines (first : List Char) (others : List Char)
  deriving DecidableEq, Repr

namespace Gap

def empty : Gap := spacing []

def isBroken : Gap → Bool
  | spacing _ => false
  | lines _ _ => true

/-- The gap with one more character: spacing behind a line break counts for nothing. -/
def add (g : Gap) (c : Char) : Gap :=
  match g with
  | spacing text => if isBreak c then lines [c] [] else spacing (text ++ [c])
  | lines first others => if isBreak c then lines first (others ++ [c]) else g

/-- What line breaks are folded to: the first one is dropped if it is a newline, and leaves a space
if it is the only one. -/
def fold (first others : List Char) : List Char :=
  if first ≠ ['\n'] then first ++ others else if others = [] then [' '] else others

def text : Gap → List Char
  | spacing text => text
  | lines first others => fold first others

end Gap

/-- What is read of a scalar: its text, what follows it, and whether a line break was passed since
the last character of it. -/
structure ScalarReading where
  text : List Char
  rest : List Char
  broken : Bool

namespace Scalar

/-- Whether a plain scalar ends before a colon or a bracket, in a flow collection or not. -/
def endsPlain (flow : Bool) : List Char → Bool
  | ':' :: rest => startsBlank rest
  | c :: _ => flow && [',', '[', ']', '{', '}'].contains c
  | [] => true

def isStrayColon (flow : Bool) : List Char → Bool
  | ':' :: c :: _ => flow && [',', '?', '[', ']', '{', '}'].contains c
  | _ => false

/-- Whether a plain scalar ends behind a gap: at a comment, a document marker, or a line that is
indented too little. -/
def endsBehindGap (flow : Bool) (margin column : Nat) (g : Gap) (rest : List Char) : Bool :=
  rest.head? = some '#' || (column = 0 && startsDocument rest) ||
    (g.isBroken && !flow && column < margin)

/-- Reads on in a plain scalar, of which `text` and the gap `g` are read. A tab must not stand for
indentation. -/
def readPlain (flow : Bool) (margin column : Nat) (text : List Char) (g : Gap) :
    List Char → Option ScalarReading
  | [] => some ⟨text, [], g.isBroken⟩
  | c :: rest =>
    if isBreak c then readPlain flow margin 0 text (g.add c) rest
    else if isSpacing c then
      if g.isBroken && column < margin && c = '\t' then none
      else readPlain flow margin (column + 1) text (g.add c) rest
    else if g ≠ .empty && endsBehindGap flow margin column g (c :: rest) then
      some ⟨text, c :: rest, g.isBroken⟩
    else if isStrayColon flow (c :: rest) then none
    else if endsPlain flow (c :: rest) then some ⟨text, c :: rest, g.isBroken⟩
    else readPlain flow margin (column + 1) (text ++ g.text ++ [c]) .empty rest

def readSingle (column : Nat) (text : List Char) (g : Gap) : List Char → Option ScalarReading
  | [] => none
  | c :: rest =>
    if isBreak c then readSingle 0 text (g.add c) rest
    else if isSpacing c then readSingle (column + 1) text (g.add c) rest
    else if column = 0 && startsDocument (c :: rest) then none
    else match c, rest with
      | '\'', '\'' :: rest => readSingle (column + 2) (text ++ g.text ++ ['\'']) .empty rest
      | '\'', rest => some ⟨text ++ g.text, rest, false⟩
      | c, rest => readSingle (column + 1) (text ++ g.text ++ [c]) .empty rest

def hexValue? (c : Char) : Option Nat :=
  if c.isDigit then some (c.toNat - '0'.toNat)
  else if 'a' ≤ c ∧ c ≤ 'f' then some (c.toNat - 'a'.toNat + 10)
  else if 'A' ≤ c ∧ c ≤ 'F' then some (c.toNat - 'A'.toNat + 10)
  else none

def hexNumber? (digits : List Char) : Option Nat :=
  digits.foldlM (fun n c => (hexValue? c).map (n * 16 + ·)) 0

def escaped? : Char → Option Char
  | '0' => some '\x00'
  | 'a' => some '\x07'
  | 'b' => some '\x08'
  | 't' | '\t' => some '\t'
  | 'n' => some '\n'
  | 'v' => some '\x0b'
  | 'f' => some '\x0c'
  | 'r' => some '\r'
  | 'e' => some '\x1b'
  | ' ' => some ' '
  | '"' => some '"'
  | '/' => some '/'
  | '\\' => some '\\'
  | 'N' => some '\u0085'
  | '_' => some '\u00a0'
  | 'L' => some '\u2028'
  | 'P' => some '\u2029'
  | _ => none

def escapeLength : Char → Nat
  | 'x' => 2
  | 'u' => 4
  | 'U' => 8
  | _ => 0

/-- Where the reader of a double-quoted scalar stands. -/
inductive Escape where
  | none
  /-- Behind a backslash. -/
  | begun
  /-- Before so many hexadecimal digits, some of which are read. -/
  | digits (left : Nat) (value : Nat)

def readDouble (column : Nat) (text : List Char) (g : Gap) (escape : Escape) :
    List Char → Option ScalarReading
  | [] => none
  | c :: rest =>
    match escape with
    | .none =>
      if isBreak c then readDouble 0 text (g.add c) .none rest
      else if isSpacing c then readDouble (column + 1) text (g.add c) .none rest
      else if column = 0 && startsDocument (c :: rest) then none
      else if c = '"' then some ⟨text ++ g.text, rest, false⟩
      else if c = '\\' then readDouble (column + 1) (text ++ g.text) .empty .begun rest
      else readDouble (column + 1) (text ++ g.text ++ [c]) .empty .none rest
    | .begun =>
      if isBreak c then readDouble 0 text (.lines [] []) .none rest
      else match escaped? c, escapeLength c with
        | some char, _ => readDouble (column + 1) (text ++ [char]) .empty .none rest
        | none, 0 => none
        | none, length => readDouble (column + 1) text .empty (.digits length 0) rest
    | .digits left value =>
      match hexValue? c with
      | none => none
      | some digit =>
        let value := value * 16 + digit
        if 1 < left then readDouble (column + 1) text .empty (.digits (left - 1) value) rest
        else if value.isValidChar then
          readDouble (column + 1) (text ++ [Char.ofNat value]) .empty .none rest
        else none

/-! ### Block scalars -/

/-- What becomes of the line breaks at the end of a block scalar. -/
inductive Chomp where
  | strip
  | clip
  | keep
  deriving DecidableEq, Repr

/-- What the header of a block scalar says. -/
structure BlockHeader where
  chomp : Chomp
  /-- The indentation of the lines relative to the collection, if it is given. -/
  indent? : Option Nat

def chompOf? : Char → Option Chomp
  | '+' => some .keep
  | '-' => some .strip
  | _ => none

def readHeader : List Char → BlockHeader × List Char
  | [] => (⟨.clip, none⟩, [])
  | c :: rest =>
    match chompOf? c with
    | some chomp =>
      match rest with
      | d :: rest =>
        if d.isDigit then (⟨chomp, some (d.toNat - '0'.toNat)⟩, rest)
        else (⟨chomp, none⟩, d :: rest)
      | [] => (⟨chomp, none⟩, [])
    | none =>
      if c.isDigit then
        let indent := some (c.toNat - '0'.toNat)
        match rest with
        | d :: rest =>
          match chompOf? d with
          | some chomp => (⟨chomp, indent⟩, rest)
          | none => (⟨.clip, indent⟩, d :: rest)
        | [] => (⟨.clip, indent⟩, [])
      else (⟨.clip, none⟩, c :: rest)

/-- What follows the spacing and the comment at the end of a line; none if anything else stands
there. -/
def skipLineEnd? (text : List Char) : Option (List Char) :=
  let rest := text.dropWhile isSpacing
  let rest := if rest.head? = some '#' then rest.dropWhile (!isBreak ·) else rest
  match rest with
  | [] => some []
  | c :: after => if isBreak c then some after else none

/-- What is read of a block scalar. -/
structure BlockReading where
  text : List Char
  /-- The indentation of the lines, once it is known. -/
  indent? : Option Nat
  /-- The widest indentation of the blank lines before the first other one. -/
  widest : Nat
  /-- The line break of the last line that is not blank. -/
  ending : List Char
  /-- The line breaks of the blank lines behind it. -/
  blankLines : List Char
  /-- Whether the last line begins with spacing, so that it is not folded. -/
  spaced : Bool

namespace BlockReading

/-- Adds a line that is not blank, without its indentation. -/
def addLine (b : BlockReading) (folded : Bool) (indent : Nat) (line : List Char) :
    BlockReading :=
  let spaced := startsSpacing line
  let joint :=
    if folded && b.ending = ['\n'] && !b.spaced && !spaced then
      Gap.fold b.ending b.blankLines
    else b.ending ++ b.blankLines
  { b with
    text := b.text ++ joint ++ line.takeWhile (!isBreak ·)
    indent? := some indent
    ending := line.dropWhile (!isBreak ·)
    blankLines := []
    spaced }

def finish (b : BlockReading) : Chomp → List Char
  | .strip => b.text
  | .clip => b.text ++ b.ending
  | .keep => b.text ++ b.ending ++ b.blankLines

end BlockReading

/-- Reads the lines of a block scalar in a collection with the given margin. The first line that is
not blank gives the indentation, unless the header does. -/
def readLines (folded : Bool) (margin : Nat) (b : BlockReading) :
    List (List Char) → Option (BlockReading × List Char)
  | [] => some (b, [])
  | line :: rest =>
    let spaces := line.takeWhile (· = ' ')
    let width := match b.indent? with
      | some indent => min indent spaces.length
      | none => spaces.length
    let body := line.drop width
    let widest := max b.widest width
    let isIndented := match b.indent? with
      | some indent => width = indent
      | none => false
    match body with
    | [] => some (b, [])
    | c :: _ =>
      if c = '\t' && !isIndented then none
      else if isBreak c then
        readLines folded margin { b with widest, blankLines := b.blankLines ++ [c] } rest
      else
        let indent := b.indent?.getD (max widest (max margin 1))
        if width = indent then readLines folded margin (b.addLine folded indent body) rest
        else some (b, body ++ rest.flatten)

def readBlock (folded : Bool) (margin : Nat) (text : List Char) : Option ScalarReading := do
  let (header, rest) := readHeader text
  if header.indent? = some 0 then none
  let rest ← skipLineEnd? rest
  let indent? := header.indent?.map (margin - 1 + ·)
  let (b, rest) ← readLines folded margin ⟨[], indent?, 0, [], [], false⟩
    (Text.cutAfter isBreak rest)
  pure ⟨b.finish header.chomp, rest, true⟩

end Scalar

end CompilerLog.Yaml
