/-!
# JSON tokens

An automaton cuts JSON text into tokens, character by character. Words that stand without quotes
are taken as far as they go and then have to be a literal or a number.
-/

namespace CompilerLog.Json

/-- A token of JSON text. -/
inductive Token where
  | openObject
  | closeObject
  | openArray
  | closeArray
  | colon
  | comma
  | null
  | bool (value : Bool)
  | number (text : List Char)
  | string (text : Option (List Char))
  deriving DecidableEq, Repr

/-- A part of a string: a character, or a UTF-16 code unit that an escape names. -/
inductive Piece where
  | char (c : Char)
  | unit (n : Nat)
  deriving DecidableEq, Repr

/-- The text that the pieces of a string spell; none when half of a surrogate pair stands alone. -/
def Piece.spell : List Piece → Option (List Char)
  | [] => some []
  | .char c :: rest => (spell rest).map (c :: ·)
  | .unit n :: .unit m :: rest =>
    if 0xD800 ≤ n ∧ n < 0xDC00 then
      if 0xDC00 ≤ m ∧ m < 0xE000 then
        (spell rest).map (Char.ofNat (0x10000 + (n - 0xD800) * 0x400 + (m - 0xDC00)) :: ·)
      else none
    else if 0xDC00 ≤ n ∧ n < 0xE000 then none
    else (spell (.unit m :: rest)).map (Char.ofNat n :: ·)
  | .unit n :: rest =>
    if 0xD800 ≤ n ∧ n < 0xE000 then none else (spell rest).map (Char.ofNat n :: ·)

/-- The text without its leading digits, of which there is at least one. -/
def afterDigits? (text : List Char) : Option (List Char) :=
  match text with
  | c :: rest => if c.isDigit then some (rest.dropWhile Char.isDigit) else none
  | [] => none

/-- The text behind the whole part of a number. A zero that begins a number is its whole part. -/
def afterWhole? (text : List Char) : Option (List Char) :=
  match text with
  | '0' :: rest => some rest
  | _ => afterDigits? text

/-- The text behind the fraction of a number, if there is one. -/
def afterFraction? (text : List Char) : Option (List Char) :=
  match text with
  | '.' :: rest => afterDigits? rest
  | _ => some text

/-- The text behind the exponent of a number, if there is one. -/
def afterExponent? (text : List Char) : Option (List Char) :=
  match text with
  | c :: rest =>
    if c = 'e' ∨ c = 'E' then
      match rest with
      | '+' :: digits | '-' :: digits => afterDigits? digits
      | _ => afterDigits? rest
    else some text
  | [] => some []

def isNumber (text : List Char) : Bool :=
  let unsigned := match text with
    | '-' :: rest => rest
    | _ => text
  (((afterWhole? unsigned).bind afterFraction?).bind afterExponent?).any (· = [])

def Token.ofWord? (word : List Char) : Option Token :=
  if word = "null".toList then some .null
  else if word = "true".toList then some (.bool true)
  else if word = "false".toList then some (.bool false)
  else if isNumber word then some (.number word)
  else none

/-- Where in a text the lexer stands. Text read so far is held in reverse. -/
inductive Lexer where
  | between
  | word (text : List Char)
  | quoted (pieces : List Piece)
  | escape (pieces : List Piece)
  /-- In an escape of four hexadecimal digits: how many are left, and the value so far. -/
  | hex (pieces : List Piece) (left : Nat) (value : Nat)
  deriving DecidableEq, Repr

def isWordChar (c : Char) : Bool := c.isAlphanum || c = '+' || c = '-' || c = '.'

def Lexer.first (c : Char) : Option (Lexer × List Token) :=
  if c = ' ' ∨ c = '\t' ∨ c = '\n' ∨ c = '\r' then some (between, [])
  else if c = '"' then some (quoted [], [])
  else if c = '{' then some (between, [.openObject])
  else if c = '}' then some (between, [.closeObject])
  else if c = '[' then some (between, [.openArray])
  else if c = ']' then some (between, [.closeArray])
  else if c = ':' then some (between, [.colon])
  else if c = ',' then some (between, [.comma])
  else if isWordChar c then some (word [c], [])
  else none

def hexValue? (c : Char) : Option Nat :=
  if c.isDigit then some (c.toNat - '0'.toNat)
  else if 'a' ≤ c ∧ c ≤ 'f' then some (c.toNat - 'a'.toNat + 10)
  else if 'A' ≤ c ∧ c ≤ 'F' then some (c.toNat - 'A'.toNat + 10)
  else none

def escaped? (c : Char) : Option Char :=
  if c = '"' ∨ c = '\\' ∨ c = '/' then some c
  else if c = 'b' then some '\x08'
  else if c = 'f' then some '\x0c'
  else if c = 'n' then some '\n'
  else if c = 'r' then some '\r'
  else if c = 't' then some '\t'
  else none

def Lexer.step : Lexer → Char → Option (Lexer × List Token)
  | between, c => first c
  | word text, c =>
    if isWordChar c then some (word (c :: text), [])
    else (Token.ofWord? text.reverse).bind fun token =>
      (first c).map fun (next, tokens) => (next, token :: tokens)
  | quoted pieces, c =>
    if c = '"' then some (between, [.string (Piece.spell pieces.reverse)])
    else if c = '\\' then some (escape pieces, [])
    else if c < ' ' then none
    else some (quoted (.char c :: pieces), [])
  | escape pieces, c =>
    if c = 'u' then some (hex pieces 4 0, [])
    else (escaped? c).map fun value => (quoted (.char value :: pieces), [])
  | hex pieces left value, c =>
    (hexValue? c).map fun digit =>
      if left ≤ 1 then (quoted (.unit (value * 16 + digit) :: pieces), [])
      else (hex pieces (left - 1) (value * 16 + digit), [])

def Lexer.advance (state : Lexer × List Token) (c : Char) : Option (Lexer × List Token) :=
  (state.1.step c).map fun (next, tokens) => (next, tokens.reverse ++ state.2)

def tokens? (text : List Char) : Option (List Token) :=
  (text.foldlM Lexer.advance (.between, [])).bind fun (state, found) =>
    match state with
    | .between => some found.reverse
    | .word word => (Token.ofWord? word.reverse).map fun token => (token :: found).reverse
    | _ => none

end CompilerLog.Json
