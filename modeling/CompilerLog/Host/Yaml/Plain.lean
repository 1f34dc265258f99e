/-!
# What a plain scalar means

A scalar that is written without quotes may stand for nothing, a truth value or a number; otherwise
it is text. Digits behind a leading zero are text, and so is a number that no binary floating-point
number of 64 bits comes close to.
-/

namespace CompilerLog.Yaml

/-- The meaning of a plain scalar. -/
inductive Plain where
  | null
  | truth (value : Bool)
  | integer (value : Int)
  | real
  | text
  deriving DecidableEq, Repr

namespace Plain

def nullWords : List String := ["null", "Null", "NULL", "~"]

def trueWords : List String := ["true", "True", "TRUE"]

def falseWords : List String := ["false", "False", "FALSE"]

def truth? (word : String) : Option Bool :=
  if word ∈ trueWords then some true else if word ∈ falseWords then some false else none

def digit? (base : Nat) (c : Char) : Option Nat :=
  let value :=
    if c.isDigit then c.toNat - '0'.toNat
    else if 'a' ≤ c ∧ c ≤ 'f' then c.toNat - 'a'.toNat + 10
    else if 'A' ≤ c ∧ c ≤ 'F' then c.toNat - 'A'.toNat + 10
    else base
  if value < base then some value else none

def natural? (base : Nat) (digits : List Char) : Option Nat :=
  if digits = [] then none
  else digits.foldlM (fun n c => (digit? base c).map (n * base + ·)) 0

/-- The number that digits spell, whose base may be given before them. -/
def anyNatural? : List Char → Option Nat
  | '0' :: 'x' :: digits => natural? 16 digits
  | '0' :: 'o' :: digits => natural? 8 digits
  | '0' :: 'b' :: digits => natural? 2 digits
  | digits => natural? 10 digits

/-- The sign before a number, and the number. -/
def splitSign : List Char → Bool × List Char
  | '-' :: rest => (true, rest)
  | '+' :: rest => (false, rest)
  | rest => (false, rest)

def hasLeadingZero (text : List Char) : Bool :=
  match (splitSign text).2 with
  | '0' :: c :: rest => (c :: rest).all Char.isDigit
  | _ => false

/-- The integer that a text spells, if it fits into 128 bits. -/
def integer? (text : List Char) : Option Int :=
  let (negative, digits) := splitSign text
  if hasLeadingZero text then none
  else match anyNatural? digits with
    | some n =>
      if negative then if n ≤ Nat.pow 2 127 then some (-(n : Int)) else none
      else if n < Nat.pow 2 128 then some n else none
    | none => none

/-- A decimal number: its digits without the point, and the power of ten of the last one. -/
structure Decimal where
  digits : List Char
  exponent : Int

def exponent? : List Char → Option Int
  | [] => some 0
  | c :: rest =>
    if c = 'e' ∨ c = 'E' then
      let (negative, digits) := splitSign rest
      (natural? 10 digits).map fun n => if negative then -(n : Int) else n
    else none

/-- The decimal number that a text spells; there has to be a digit before the power of ten. -/
def decimal? (text : List Char) : Option Decimal :=
  let whole := text.takeWhile Char.isDigit
  let rest := text.dropWhile Char.isDigit
  let (fraction, rest) := match rest with
    | '.' :: rest => (rest.takeWhile Char.isDigit, rest.dropWhile Char.isDigit)
    | rest => ([], rest)
  if whole = [] ∧ fraction = [] then none
  else (exponent? rest).map fun e => ⟨whole ++ fraction, e - fraction.length⟩

/-- The least number that is rounded to infinity: half a step above the greatest floating-point
number. -/
def infinityBound : Nat := Nat.pow 2 1024 - Nat.pow 2 970

def Decimal.isFinite (d : Decimal) : Bool :=
  let digits := d.digits.dropWhile (· = '0')
  match natural? 10 digits with
  | none => true
  | some n =>
    let magnitude := digits.length + d.exponent
    if magnitude < 300 then true
    else if 310 < magnitude then false
    else if 0 ≤ d.exponent then n * Nat.pow 10 d.exponent.toNat < infinityBound
    else n < infinityBound * Nat.pow 10 (-d.exponent).toNat

def infinityWords : List String :=
  [".inf", ".Inf", ".INF", "+.inf", "+.Inf", "+.INF", "-.inf", "-.Inf", "-.INF", ".nan", ".NaN",
    ".NAN"]

def isReal (text : List Char) : Bool :=
  infinityWords.contains (String.ofList text) ||
    (!hasLeadingZero text && ((decimal? (splitSign text).2).any Decimal.isFinite))

def ofText (text : String) : Plain :=
  if text = "" ∨ text ∈ nullWords then null
  else match truth? text with
    | some value => truth value
    | none =>
      match integer? text.toList with
      | some value => integer value
      | none => if isReal text.toList then real else .text

end Plain

end CompilerLog.Yaml
