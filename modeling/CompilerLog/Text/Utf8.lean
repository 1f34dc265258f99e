/-!
# Reading bytes as text

A byte sequence is read as UTF-8 by an automaton that holds the character begun. What is no
character is cut into its longest parts that begin one: each part is reported as one `none`.
`decode?` accepts only well-formed input, `decodeLossy` puts U+FFFD for each malformed part.
-/

namespace CompilerLog.Text.Utf8

/-- A character of which some bytes were read: its value so far, the number of bytes to come
after the next one, and the range in which the next one lies. -/
structure Begun where
  value : Nat
  later : Nat
  low : UInt8
  high : UInt8

/-- What the first byte of a longer character begins. The ranges of the second byte leave out
overlong forms, surrogates and values above U+10FFFF. -/
def begin? (b : UInt8) : Option Begun :=
  if 0xC2 ≤ b ∧ b ≤ 0xDF then some ⟨b.toNat - 0xC0, 0, 0x80, 0xBF⟩
  else if b = 0xE0 then some ⟨0, 1, 0xA0, 0xBF⟩
  else if b = 0xED then some ⟨0xD, 1, 0x80, 0x9F⟩
  else if 0xE1 ≤ b ∧ b ≤ 0xEF then some ⟨b.toNat - 0xE0, 1, 0x80, 0xBF⟩
  else if b = 0xF0 then some ⟨0, 2, 0x90, 0xBF⟩
  else if 0xF1 ≤ b ∧ b ≤ 0xF3 then some ⟨b.toNat - 0xF0, 2, 0x80, 0xBF⟩
  else if b = 0xF4 then some ⟨4, 2, 0x80, 0x8F⟩
  else none

/-- Reads one byte where no character is begun: what is reported, and what is begun. -/
def first (b : UInt8) : List (Option Char) × Option Begun :=
  if b < 0x80 then ([some (Char.ofNat b.toNat)], none)
  else match begin? b with
    | some begun => ([], some begun)
    | none => ([none], none)

/-- Reads one byte. A byte that cannot continue the character begun ends a malformed part and is
read afresh. -/
def step : Option Begun → UInt8 → List (Option Char) × Option Begun
  | none, b => first b
  | some begun, b =>
    if begun.low ≤ b ∧ b ≤ begun.high then
      let value := begun.value * 64 + (b.toNat - 0x80)
      match begun.later with
      | 0 => ([some (Char.ofNat value)], none)
      | later + 1 => ([], some ⟨value, later, 0x80, 0xBF⟩)
    else
      let (parts, next) := first b
      (none :: parts, next)

/-- The characters and malformed parts of a byte sequence, in order. -/
def parts : Option Begun → List UInt8 → List (Option Char)
  | none, [] => []
  | some _, [] => [none]
  | begun, b :: rest => (step begun b).1 ++ parts (step begun b).2 rest

def decode? (bytes : List UInt8) : Option (List Char) :=
  (parts none bytes).mapM id

def decodeLossy (bytes : List UInt8) : List Char :=
  (parts none bytes).map (·.getD '\ufffd')

def encode (text : String) : List UInt8 :=
  text.toUTF8.toList

end CompilerLog.Text.Utf8
