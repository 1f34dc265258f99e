import CompilerLog.Text.Utf8
import CompilerLog.Host.Yaml.Scalar
/-!
# Tokens of YAML

The tokens of a YAML text, and the reading of the short ones: names of anchors, tags, and the
directives before a document.
-/

namespace CompilerLog.Yaml

/-- A tag as it is written: a handle, which a directive may give a meaning, and what follows it. -/
structure RawTag where
  handle : List Char
  suffix : List Char
  deriving DecidableEq, Repr

/-- A token. The starts and ends of block collections are the changes of indentation. -/
inductive Token where
  | streamEnd
  | version (major minor : Nat)
  | tagDirective (handle meaning : List Char)
  | documentStart
  | documentEnd
  | blockSequenceStart
  | blockMappingStart
  | blockEnd
  | flowSequenceStart
  | flowSequenceEnd
  | flowMappingStart
  | flowMappingEnd
  | blockEntry
  | flowEntry
  | key
  | value
  | reference (name : List Char)
  | anchor (name : List Char)
  | tag (tag : RawTag)
  | scalar (style : Style) (text : List Char)
  deriving DecidableEq, Repr

namespace Token

/-- Reads the name of an anchor or of a reference, which has to end where a name may end. -/
def readName? (text : List Char) : Option (List Char × List Char) :=
  let name := text.takeWhile isWordChar
  let rest := text.dropWhile isWordChar
  let ends := startsBlank rest ||
    rest.head?.any fun c => ['?', ':', ',', ']', '}', '%', '@', '`'].contains c
  if !name.isEmpty && ends then some (name, rest) else none

def tagMarks : List Char :=
  [';', '/', '?', ':', '@', '&', '=', '+', '$', '.', '%', '!', '~', '*', '\'', '(', ')']

/-- Whether a character may stand in a tag. The marks of flow collections may only stand where no
collection can end. -/
def isTagChar (enclosed : Bool) (c : Char) : Bool :=
  isWordChar c || tagMarks.contains c || (enclosed && [',', '[', ']'].contains c)

/-- Puts bytes for the escapes of a tag: a percent sign and two hexadecimal digits. -/
def tagBytes? : List Char → Option (List UInt8)
  | [] => some []
  | '%' :: a :: b :: rest => do
    let value ← Scalar.hexNumber? [a, b]
    let bytes ← tagBytes? rest
    pure (UInt8.ofNat value :: bytes)
  | '%' :: _ => none
  | c :: rest => (tagBytes? rest).map (c.toString.toUTF8.toList ++ ·)

/-- The text of a tag, with its escapes resolved. -/
def tagText? (written : List Char) : Option (List Char) :=
  if written.contains '%' then (tagBytes? written).bind Text.Utf8.decode? else some written

/-- Reads the rest of a tag, which must not be empty unless something stands before it. -/
def readTagText? (enclosed mayBeEmpty : Bool) (text : List Char) :
    Option (List Char × List Char) := do
  let written := text.takeWhile (isTagChar enclosed)
  if written = [] ∧ !mayBeEmpty then none
  let found ← tagText? written
  pure (found, text.dropWhile (isTagChar enclosed))

/-- Reads a handle, of which the first exclamation mark is read. Answers also whether a second one
ends it. -/
def readHandle (text : List Char) : List Char × Bool × List Char :=
  let name := text.takeWhile isWordChar
  match text.dropWhile isWordChar with
  | '!' :: rest => ('!' :: name ++ ['!'], true, rest)
  | rest => ('!' :: name, false, rest)

def readTagParts? : List Char → Option (RawTag × List Char)
  | '<' :: rest => do
    let (suffix, rest) ← readTagText? true false rest
    match rest with
    | '>' :: rest => some (⟨[], suffix⟩, rest)
    | _ => none
  | text => do
    let (handle, closed, rest) := readHandle text
    if closed then
      let (suffix, rest) ← readTagText? false false rest
      some (⟨handle, suffix⟩, rest)
    else
      let (suffix, rest) ← readTagText? false true rest
      let suffix := handle.tail ++ suffix
      some (if suffix = [] then ⟨[], ['!']⟩ else ⟨['!'], suffix⟩, rest)

/-- Reads a tag behind its exclamation mark. It has to end before white space, or before a comma in
a flow collection. -/
def readTag? (flow : Bool) (text : List Char) : Option (RawTag × List Char) := do
  let (found, rest) ← readTagParts? text
  if startsBlank rest || (flow && rest.head? = some ',') then some (found, rest) else none

/-- Reads one of the numbers of a version, of at most nine digits. -/
def readNumber? (text : List Char) : Option (Nat × List Char) :=
  let digits := text.takeWhile Char.isDigit
  if digits ≠ [] ∧ digits.length ≤ 9 then
    some (digits.foldl (fun n c => n * 10 + (c.toNat - '0'.toNat)) 0, text.dropWhile Char.isDigit)
  else none

def readVersion? (text : List Char) : Option (Token × List Char) := do
  let (major, rest) ← readNumber? (text.dropWhile isSpacing)
  match rest with
  | '.' :: rest =>
    let (minor, rest) ← readNumber? rest
    pure (.version major minor, rest)
  | _ => none

def readTagDirective? (text : List Char) : Option (Token × List Char) := do
  match text.dropWhile isSpacing with
  | '!' :: rest =>
    let (handle, closed, rest) := readHandle rest
    if !closed && handle ≠ ['!'] || !startsSpacing rest then none
    let (meaning, rest) ← readTagText? true false (rest.dropWhile isSpacing)
    if startsBlank rest then some (.tagDirective handle meaning, rest) else none
  | _ => none

/-- Reads a directive behind its percent sign, up to the end of the line. -/
def readDirective? (text : List Char) : Option (Token × List Char) := do
  let name := text.takeWhile isWordChar
  let rest := text.dropWhile isWordChar
  if name = [] ∨ !startsBlank rest then none
  let (token, rest) ←
    if name = "YAML".toList then readVersion? rest
    else if name = "TAG".toList then readTagDirective? rest
    else none
  let rest ← Scalar.skipLineEnd? rest
  pure (token, rest)

end Token

end CompilerLog.Yaml
