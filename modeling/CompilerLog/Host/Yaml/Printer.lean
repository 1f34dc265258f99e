import CompilerLog.Json.Value
import CompilerLog.Text.Cut
import CompilerLog.Host.Yaml.Plain
import CompilerLog.Host.Yaml.Scalar
/-!
# Writing YAML

Values are written in block style. A text is written without quotes if it reads back as the same
text, and otherwise in the first of the other styles that can hold it: a literal block for several
lines, single quotes, double quotes.
-/

namespace CompilerLog.Yaml.Printer

def indentStep : Nat := 2

def ambiguousWords : List String :=
  ["", "true", "false", "null", "nil", "~", "y", "yes", "n", "no", "on", "off"]

def isAmbiguous (text : String) : Bool :=
  ambiguousWords.contains text.toLower ||
    text.toList.head?.any fun c => c.isDigit || c = '-' || c = '+' || c = '.'

def isPrintable (c : Char) : Bool :=
  c = '\n' || (' ' ≤ c && c ≤ '~') || ('\u00a0' ≤ c && c ≤ '\ufffd' && c ≠ '\ufeff')

def openers : List Char :=
  ['#', ',', '[', ']', '{', '}', '&', '*', '!', '|', '>', '\'', '"', '%', '@', '`']

def beginsWithIndicator (text : List Char) : Bool :=
  match text with
  | [] => false
  | c :: rest =>
    openers.contains c || ((c = '?' || c = ':' || c = '-') && startsBlank rest) ||
      "---".toList.isPrefixOf text || "...".toList.isPrefixOf text

/-- Whether something behind the first character has a meaning in a block: a colon before a blank,
or a number sign behind one. -/
def hasIndicator : List Char → Bool
  | [] => false
  | c :: rest =>
    (match rest with
      | ':' :: after => startsBlank after
      | '#' :: _ => startsBlank [c]
      | _ => false) || hasIndicator rest

/-- Whether a space stands beside a line break, in the given order. -/
def hasPair (first second : Char → Bool) : List Char → Bool
  | a :: b :: rest => (first a && second b) || hasPair first second (b :: rest)
  | _ => false

def isSpace (c : Char) : Bool := c = ' '

/-- Whether a text can only stand in double quotes: something in it is not printable, or a line ends
with a space. -/
def needsEscapes (text : List Char) : Bool :=
  text.any (!isPrintable ·) || hasPair isSpace isBreak text

def allowsPlain (text : List Char) : Bool :=
  !(needsEscapes text || text.any isBreak || beginsWithIndicator text || hasIndicator text ||
    text.head?.any isSpace || text.getLast?.any isSpace)

def allowsSingle (text : List Char) : Bool :=
  !(needsEscapes text || hasPair isBreak isSpace text)

def allowsBlock (text : List Char) : Bool :=
  !(needsEscapes text || text.getLast?.any isSpace)

def styleOf (text : String) : Style :=
  let chars := text.toList
  let quoted := if allowsSingle chars then Style.singleQuoted else .doubleQuoted
  if chars.contains '\n' then if allowsBlock chars then .literal else .doubleQuoted
  else if !isAmbiguous text && Plain.ofText text = .text && allowsPlain chars then .plain
  else quoted

def doubleQuote (c : Char) : List Char := if c = '\'' then ['\'', '\''] else [c]

/-- The hexadecimal digits of a number, filled up with zeros. -/
def hexDigits (width n : Nat) : List Char :=
  let digits := (Nat.toDigits 16 n).map Char.toUpper
  List.replicate (width - digits.length) '0' ++ digits

def escapeLetter? (c : Char) : Option Char :=
  if c = '\x00' then some '0'
  else if c = '\x07' then some 'a'
  else if c = '\x08' then some 'b'
  else if c = '\t' then some 't'
  else if c = '\n' then some 'n'
  else if c = '\x0b' then some 'v'
  else if c = '\x0c' then some 'f'
  else if c = '\r' then some 'r'
  else if c = '\x1b' then some 'e'
  else if c = '"' then some '"'
  else if c = '\\' then some '\\'
  else if c = '\u0085' then some 'N'
  else if c = '\u2028' then some 'L'
  else if c = '\u2029' then some 'P'
  else none

def writeDouble (c : Char) : List Char :=
  if isPrintable c && !isBreak c && c ≠ '"' && c ≠ '\\' then [c]
  else match escapeLetter? c with
    | some letter => ['\\', letter]
    | none =>
      if c.toNat ≤ 0xff then '\\' :: 'x' :: hexDigits 2 c.toNat
      else if c.toNat ≤ 0xffff then '\\' :: 'u' :: hexDigits 4 c.toNat
      else '\\' :: 'U' :: hexDigits 8 c.toNat

/-- What is said in the header of a literal block: the indentation if the first line does not show
it, and what becomes of the line breaks at the end. -/
def blockHeader (text : List Char) : List Char :=
  let indent := if text.head?.any fun c => isSpace c || isBreak c then
      (toString indentStep).toList else []
  let chomp := match text.reverse with
    | [] => ['-']
    | last :: before =>
      if !isBreak last then ['-']
      else if before.head?.all isBreak then ['+']
      else []
  '|' :: indent ++ chomp

def spaces (count : Nat) : List Char := List.replicate count ' '

/-- A line behind a margin, which an empty line does without. -/
def indentLine (margin : Nat) (line : List Char) : List Char :=
  if line.head?.all isBreak then line else spaces margin ++ line

/-- A text between single quotes. The lines behind the first one are indented, and so is a quote
that stands alone in the last line. -/
def writeSingle (margin : Nat) (text : List Char) : List Char :=
  let lines := match Text.cutAfter isBreak (text.flatMap doubleQuote) with
    | [] => []
    | first :: rest => first ++ rest.flatMap (indentLine margin)
  ['\''] ++ lines ++ (if text.getLast?.any isBreak then spaces margin else []) ++ ['\'']

def writeBlock (margin : Nat) (text : List Char) : List Char :=
  blockHeader text ++ ['\n'] ++ (Text.cutAfter isBreak text).flatMap (indentLine margin)

/-- A text, in a collection with the given margin for what belongs to it. -/
def writeText (margin : Nat) (text : String) : List Char :=
  match styleOf text with
  | .plain => text.toList
  | .singleQuoted => writeSingle margin text.toList
  | .literal => writeBlock margin text.toList
  | _ => ['"'] ++ text.toList.flatMap writeDouble ++ ['"']

/-- Ends the last line of a value, unless a block has ended it already. -/
def endLine (value : List Char) : List Char :=
  if value.getLast?.any isBreak then value else value ++ ['\n']

/-- A name before its value; a collection that is not empty begins in the next line. -/
def writeName (column : Nat) (name : Option String) (value : Json) : List Char :=
  writeText (column + indentStep) (name.getD "") ++
    match value with
    | .array (_ :: _) | .object (_ :: _) => [':', '\n']
    | _ => [':', ' ']

mutual

/-- A value in a collection that stands at the given column, up to the end of its last line. In a
list, the first entry of a collection stands in the line of its dash; in a mapping, a list need not
be indented. -/
def write (inList : Bool) (column : Nat) : Json → List Char
  | .null => "null\n".toList
  | .bool true => "true\n".toList
  | .bool false => "false\n".toList
  | .number text => endLine text.toList
  | .string text => endLine (writeText (column + indentStep) (text.getD ""))
  | .array [] => "[]\n".toList
  | .object [] => "\x7b\x7d\n".toList
  | .array (item :: items) =>
    let column := if inList then column + indentStep else column
    (if inList then [] else spaces column) ++ ['-', ' '] ++ write true column item ++
      writeItems column items
  | .object ((name, value) :: fields) =>
    let column := column + indentStep
    (if inList then [] else spaces column) ++ writeName column name value ++
      write false column value ++ writeFields column fields

/-- The items of a list, each in a line of its own. -/
def writeItems (column : Nat) : List Json → List Char
  | [] => []
  | item :: items =>
    spaces column ++ ['-', ' '] ++ write true column item ++ writeItems column items

/-- The fields of a mapping, each in a line of its own. -/
def writeFields (column : Nat) : List (Option String × Json) → List Char
  | [] => []
  | (name, value) :: fields =>
    spaces column ++ writeName column name value ++ write false column value ++
      writeFields column fields

end

def document (value : Json) : String :=
  String.ofList <|
    match value with
    | .object (field :: fields) => writeFields 0 (field :: fields)
    | value => write false 0 value

end CompilerLog.Yaml.Printer
