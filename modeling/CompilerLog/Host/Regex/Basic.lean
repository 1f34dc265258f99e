import CompilerLog.Host.Regex.CharSet
/-!
# Regular expressions

A regular expression and where it is found. `Regex.reach` takes the set of positions at which a
match may begin to the set of positions at which it may end, so that nothing is tried twice.
-/

namespace CompilerLog.Regex

/-- What an expression can demand of a position without reading a character. -/
inductive Assertion where
  | textStart
  | textEnd
  | lineStart
  | lineEnd
  /-- The start of a line that ends with a newline, a carriage return or both. -/
  | lineStartCRLF
  /-- The end of such a line. -/
  | lineEndCRLF
  | wordBoundary
  | noWordBoundary
  | wordStart
  | wordEnd
  | wordStartHalf
  | wordEndHalf
  deriving DecidableEq, Repr

/-- A position in a text: the characters before and behind it. -/
structure Spot where
  before : Option Char
  behind : Option Char

/-- Whether an assertion holds at a position; `word` tells the characters of words. -/
def Assertion.holds (word : Char → Bool) (spot : Spot) : Assertion → Bool
  | textStart => spot.before.isNone
  | textEnd => spot.behind.isNone
  | lineStart => spot.before.all (· = '\n')
  | lineEnd => spot.behind.all (· = '\n')
  | lineStartCRLF =>
    match spot.before with
    | none => true
    | some c => c = '\n' || (c = '\r' && spot.behind != some '\n')
  | lineEndCRLF =>
    match spot.behind with
    | none => true
    | some c => c = '\r' || (c = '\n' && spot.before != some '\r')
  | wordBoundary => spot.before.any word != spot.behind.any word
  | noWordBoundary => spot.before.any word == spot.behind.any word
  | wordStart => !spot.before.any word && spot.behind.any word
  | wordEnd => spot.before.any word && !spot.behind.any word
  | wordStartHalf => !spot.before.any word
  | wordEndHalf => !spot.behind.any word

end Regex

/-- A regular expression. How a repetition is preferred, and what is captured, has no effect on
whether there is a match, and is not part of it. -/
inductive Regex where
  | empty
  | chars (set : Regex.CharSet)
  | assertion (unicode : Bool) (kind : Regex.Assertion)
  | concat (first second : Regex)
  | alternate (first second : Regex)
  /-- At least `least` matches in a row, and at most `most` if that is given. -/
  | repetition (body : Regex) (least : Nat) (most : Option Nat)

namespace Regex

/-- The positions of a text, from its start to its end. -/
def spots (before : Option Char) : List Char → List Spot
  | [] => [⟨before, none⟩]
  | c :: rest => ⟨before, some c⟩ :: spots (some c) rest

/-- A set of positions: for each position of the text, whether it is in the set. -/
abbrev Marks := List Bool

/-- The positions behind a character of the set that stands at a marked position. -/
def Marks.readChar (set : CharSet) (spots : List Spot) (marks : Marks) : Marks :=
  false :: (List.zipWith (fun (spot : Spot) marked => marked && spot.behind.any set.has)
    spots marks).dropLast

def Marks.union (a b : Marks) : Marks := List.zipWith (· || ·) a b

/-- The positions reached by taking a step any number of times up to `count`. -/
def Marks.upTo (step : Marks → Marks) : Nat → Marks → Marks
  | 0, marks => marks
  | count + 1, marks =>
    let next := marks.union (step marks)
    if next = marks then marks else upTo step count next

def Marks.times (step : Marks → Marks) : Nat → Marks → Marks
  | 0, marks => marks
  | count + 1, marks => if marks.any id then times step count (step marks) else marks

/-- The positions where a match ends that begins at a marked position. Behind the least number of
repetitions only as many more can count as the text has positions. -/
def reach (spots : List Spot) : Regex → Marks → Marks
  | empty, marks => marks
  | chars set, marks => Marks.readChar set spots marks
  | assertion unicode kind, marks =>
    List.zipWith (fun spot marked => marked && kind.holds (CharSet.word unicode).has spot)
      spots marks
  | concat first second, marks => reach spots second (reach spots first marks)
  | alternate first second, marks => (reach spots first marks).union (reach spots second marks)
  | repetition body least most, marks =>
    let required := Marks.times (reach spots body) least marks
    match most with
    | none => Marks.upTo (reach spots body) spots.length required
    | some most => Marks.upTo (reach spots body) (most - least) required

def isFound (r : Regex) (text : String) : Bool :=
  let spots := spots none text.toList
  (reach spots r (spots.map fun _ => true)).any id

def weight : Regex → Nat
  | empty => 32
  | chars set => set.weight
  | assertion _ _ => 32
  | concat first second => first.weight + second.weight
  | alternate first second => first.weight + second.weight + 48
  | repetition body least most =>
    match most with
    | none => body.weight * max least 1 + 48
    | some most => body.weight * least + (body.weight + 48) * (most - least)

end Regex

end CompilerLog
