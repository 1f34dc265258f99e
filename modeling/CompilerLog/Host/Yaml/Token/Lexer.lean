import CompilerLog.Host.Yaml.Token
/-!
# Cutting a YAML text into tokens

The lexer follows the indentation, so that every block collection is enclosed between a start and an
end. Whether a scalar or a flow collection is the key of a pair shows only at the colon behind it:
until then it is a candidate, and the tokens before it are put in when the colon comes. A candidate
lapses at the end of its line.
-/

namespace CompilerLog.Yaml

/-- A token that may turn out to be the start of a key. -/
structure Candidate where
  /-- How many tokens stand before it. -/
  place : Nat
  index : Nat
  line : Nat
  column : Nat
  /-- Whether it stands where only a key can stand. -/
  isRequired : Bool

/-- What is read of a text. -/
structure Lexer where
  cursor : Cursor
  /-- The tokens, the last one first. -/
  tokens : List Token
  /-- The least indentation of what belongs to each open block collection, the innermost first. -/
  margins : List Nat
  /-- Whether a key may begin here. -/
  keyAllowed : Bool
  /-- The candidate in the innermost collection. -/
  candidate : Option Candidate
  /-- The candidates around each open flow collection, the innermost first. -/
  outer : List (Option Candidate)

namespace Lexer

def longestKey : Nat := 1024

def start (text : List Char) : Lexer := ⟨.start text, [], [], true, none, []⟩

def inFlow (l : Lexer) : Bool := !l.outer.isEmpty

/-- The least indentation of what belongs to the innermost block collection. -/
def margin (l : Lexer) : Nat := l.margins.headD 0

def push (l : Lexer) (token : Token) : Lexer := { l with tokens := token :: l.tokens }

/-- Puts tokens, given in reverse, at a place among those read. -/
def insert (l : Lexer) (place : Nat) (new : List Token) : Lexer :=
  let later := l.tokens.length - place
  { l with tokens := l.tokens.take later ++ new ++ l.tokens.drop later }

def moveTo (l : Lexer) (rest : List Char) : Lexer := { l with cursor := l.cursor.moveTo rest }

/-! ### Candidates -/

def isOpen (l : Lexer) (c : Candidate) : Bool :=
  c.line = l.cursor.line && l.cursor.index ≤ c.index + longestKey

/-- A candidate, unless it has lapsed; one that is required must not lapse. -/
def check (l : Lexer) : Option Candidate → Option (Option Candidate)
  | none => some none
  | some c => if l.isOpen c then some (some c) else if c.isRequired then none else some none

def dropLapsed (l : Lexer) : Option Lexer := do
  let outer ← l.outer.mapM l.check
  let candidate ← l.check l.candidate
  pure { l with candidate, outer }

def dropCandidate (l : Lexer) : Option Lexer :=
  match l.candidate with
  | some c => if c.isRequired then none else some { l with candidate := none }
  | none => some l

/-- Makes the next token a candidate, where a key may begin. -/
def addCandidate (l : Lexer) : Option Lexer :=
  if l.keyAllowed then do
    let isRequired := !l.inFlow && l.margin = l.cursor.column + 1
    let l ← l.dropCandidate
    pure { l with candidate := some ⟨l.tokens.length, l.cursor.index, l.cursor.line,
      l.cursor.column, isRequired⟩ }
  else some l

/-! ### Indentation -/

/-- Opens a block collection at a column, unless one is open there; its start is put at a place
among the tokens. -/
def indentTo (l : Lexer) (column place : Nat) (token : Token) : Lexer :=
  if !l.inFlow && l.margin ≤ column then
    { l.insert place [token] with margins := (column + 1) :: l.margins }
  else l

/-- Ends the block collections, given by their margins, that a column lies before. -/
def closeBlocks (column : Option Nat) : List Nat → List Token → List Nat × List Token
  | [], tokens => ([], tokens)
  | margin :: margins, tokens =>
    if column.all (· + 1 < margin) then closeBlocks column margins (.blockEnd :: tokens)
    else (margin :: margins, tokens)

/-- Ends the block collections that the column lies before; all of them if there is no column. -/
def dedentTo (l : Lexer) (column : Option Nat) : Lexer :=
  if l.inFlow then l
  else
    let (margins, tokens) := closeBlocks column l.margins l.tokens
    { l with margins, tokens }

/-! ### White space -/

/-- Skips white space and comments. In a block, a key may begin on a new line. -/
def skipBlank (flow keyAllowed inComment : Bool) : List Char → Bool × List Char
  | [] => (keyAllowed, [])
  | c :: rest =>
    if isBreak c then skipBlank flow (keyAllowed || !flow) false rest
    else if inComment then skipBlank flow keyAllowed true rest
    else if c = ' ' || (c = '\t' && (flow || !keyAllowed)) then
      skipBlank flow keyAllowed false rest
    else if c = '#' then skipBlank flow keyAllowed true rest
    else (keyAllowed, c :: rest)

/-- Moves to the next token. A byte order mark may begin the text. -/
def skip (l : Lexer) : Lexer :=
  let text := match l.cursor.index, l.cursor.rest with
    | 0, '\ufeff' :: rest => rest
    | _, rest => rest
  let (keyAllowed, rest) := skipBlank l.inFlow l.keyAllowed false text
  { l.moveTo rest with keyAllowed }

/-! ### Single tokens -/

/-- Adds the token of what was read, up to the given rest of the text. -/
def accept (l : Lexer) (token : Token) (rest : List Char) : Lexer := (l.push token).moveTo rest

def readEnd (l : Lexer) : Option Lexer := do
  let l ← (l.dedentTo none).dropCandidate
  pure (l.push .streamEnd)

def readOutside (l : Lexer) (read? : List Char → Option (Token × List Char)) : Option Lexer := do
  let l ← (l.dedentTo none).dropCandidate
  let (token, rest) ← read? l.cursor.rest
  pure { l.accept token rest with keyAllowed := false }

/-- Opens a flow collection, which may be a key. -/
def openFlow (l : Lexer) (token : Token) (rest : List Char) : Option Lexer := do
  let l ← l.addCandidate
  pure { l.accept token rest with
    keyAllowed := true, candidate := none, outer := l.candidate :: l.outer }

def closeFlow (l : Lexer) (token : Token) (rest : List Char) : Option Lexer := do
  let l ← l.dropCandidate
  let l := { l.accept token rest with keyAllowed := false }
  match l.outer with
  | [] => pure l
  | candidate :: outer => pure { l with candidate, outer }

def readComma (l : Lexer) (rest : List Char) : Option Lexer := do
  let l ← l.dropCandidate
  pure { l.accept .flowEntry rest with keyAllowed := true }

def readDash (l : Lexer) (rest : List Char) : Option Lexer := do
  if !l.inFlow && !l.keyAllowed then none
  let l := l.indentTo l.cursor.column l.tokens.length .blockSequenceStart
  let l ← l.dropCandidate
  pure { l.accept .blockEntry rest with keyAllowed := true }

def readQuestion (l : Lexer) (rest : List Char) : Option Lexer := do
  if !l.inFlow && !l.keyAllowed then none
  let l := l.indentTo l.cursor.column l.tokens.length .blockMappingStart
  let l ← l.dropCandidate
  pure { l.accept .key rest with keyAllowed := !l.inFlow }

/-- Reads the colon before a value. The candidate before it, if there is one, is the key. -/
def readColon (l : Lexer) (rest : List Char) : Option Lexer :=
  match l.candidate with
  | some c =>
    let l := (l.insert c.place [.key]).indentTo c.column c.place .blockMappingStart
    some { l.accept .value rest with keyAllowed := false, candidate := none }
  | none =>
    if !l.inFlow && !l.keyAllowed then none
    else
      let l := l.indentTo l.cursor.column l.tokens.length .blockMappingStart
      some { l.accept .value rest with keyAllowed := !l.inFlow }

/-- Reads what may begin a key: a reference, an anchor or a tag. -/
def readProperty (l : Lexer) (read? : List Char → Option (Token × List Char))
    (rest : List Char) : Option Lexer := do
  let l ← l.addCandidate
  let (token, rest) ← read? rest
  pure { l.accept token rest with keyAllowed := false }

/-- Reads a scalar that may be a key. Behind a line break the next key may begin. -/
def readScalar (l : Lexer) (style : Style) (read? : List Char → Option ScalarReading)
    (rest : List Char) : Option Lexer := do
  let l ← l.addCandidate
  let reading ← read? rest
  pure { l.accept (.scalar style reading.text) reading.rest with keyAllowed := reading.broken }

def readBlockScalar (l : Lexer) (style : Style) (rest : List Char) : Option Lexer := do
  let l ← l.dropCandidate
  let reading ← Scalar.readBlock (style = .folded) l.margin rest
  pure { l.accept (.scalar style reading.text) reading.rest with keyAllowed := true }

def indicators : List Char :=
  ['-', '?', ':', ',', '[', ']', '{', '}', '#', '&', '*', '!', '|', '>', '\'', '"', '%', '@', '`']

def beginsPlain (flow : Bool) (c : Char) (rest : List Char) : Bool :=
  !(isSpacing c || isBreak c || indicators.contains c) || (c = '-' && !startsSpacing rest) ||
    (!flow && (c = '?' || c = ':') && !startsBlank rest)

def readMarker? : List Char → Option (Token × List Char)
  | '-' :: _ :: _ :: rest => some (.documentStart, rest)
  | _ :: _ :: _ :: rest => some (.documentEnd, rest)
  | _ => none

def readToken (l : Lexer) (c : Char) (rest : List Char) : Option Lexer :=
  let flow := l.inFlow
  if l.cursor.column = 0 && c = '%' then l.readOutside fun text => Token.readDirective? text.tail
  else if l.cursor.column = 0 && startsDocument (c :: rest) then l.readOutside readMarker?
  else match c with
    | '[' => l.openFlow .flowSequenceStart rest
    | '{' => l.openFlow .flowMappingStart rest
    | ']' => l.closeFlow .flowSequenceEnd rest
    | '}' => l.closeFlow .flowMappingEnd rest
    | ',' => l.readComma rest
    | '*' => l.readProperty
        (fun text => (Token.readName? text).map fun (name, rest) => (.reference name, rest)) rest
    | '&' => l.readProperty
        (fun text => (Token.readName? text).map fun (name, rest) => (.anchor name, rest)) rest
    | '!' => l.readProperty
        (fun text => (Token.readTag? flow text).map fun (tag, rest) => (.tag tag, rest)) rest
    | '\'' => l.readScalar .singleQuoted (Scalar.readSingle (l.cursor.column + 1) [] .empty) rest
    | '"' =>
      l.readScalar .doubleQuoted (Scalar.readDouble (l.cursor.column + 1) [] .empty .none) rest
    | c =>
      if c = '-' && startsBlank rest then l.readDash rest
      else if c = '?' && (flow || startsBlank rest) then l.readQuestion rest
      else if c = ':' && (flow || startsBlank rest) then l.readColon rest
      else if c = '|' && !flow then l.readBlockScalar .literal rest
      else if c = '>' && !flow then l.readBlockScalar .folded rest
      else if beginsPlain flow c rest then
        l.readScalar .plain (Scalar.readPlain flow l.margin l.cursor.column [] .empty) (c :: rest)
      else none

def step (l : Lexer) : Option Lexer := do
  let l ← l.skip.dropLapsed
  let l := l.dedentTo (some l.cursor.column)
  match l.cursor.rest with
  | [] => l.readEnd
  | c :: rest => l.readToken c rest

def certain (l : Lexer) : Nat :=
  (l.candidate :: l.outer).foldl
    (fun n c => match c with
      | some c => if l.isOpen c || c.isRequired then min n c.place else n
      | none => n) l.tokens.length

def certainTokens (l : Lexer) : List Token := l.tokens.reverse.take l.certain

/-- The tokens of a text, read in at most the given number of steps. -/
def run : Nat → Lexer → List Token
  | 0, l => l.certainTokens
  | n + 1, l =>
    match l.step with
    | none => l.certainTokens
    | some next => if next.tokens.head? = some .streamEnd then next.tokens.reverse else run n next

end Lexer

/-- The tokens of a text. They end with the end of the stream, unless the text is malformed: then
they end with the last token that is certain. Every step reads a character, or the end. -/
def tokens (text : List Char) : List Token :=
  if text.all isAllowed then
    let text := normalize text
    Lexer.run (text.length + 1) (.start text)
  else []

end CompilerLog.Yaml
