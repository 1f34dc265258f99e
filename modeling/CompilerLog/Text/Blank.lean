/-!
# Blank characters

The characters with the Unicode property `White_Space`, and the cuts made at them: trimming the
ends of a text and splitting it into its blank-free runs.
-/

namespace CompilerLog.Text

def isBlank (c : Char) : Bool :=
  ('\t' ≤ c && c ≤ '\r') || c = ' ' || c = '\u0085' || c = '\u00a0' || c = '\u1680' ||
    ('\u2000' ≤ c && c ≤ '\u200a') || c = '\u2028' || c = '\u2029' || c = '\u202f' ||
    c = '\u205f' || c = '\u3000'

def dropEndWhile {α : Type} (p : α → Bool) (l : List α) : List α :=
  (l.reverse.dropWhile p).reverse

@[simp] theorem dropEndWhile_nil {α : Type} (p : α → Bool) : dropEndWhile p [] = [] := rfl

theorem dropEndWhile_concat {α : Type} (p : α → Bool) (l : List α) (a : α) :
    dropEndWhile p (l ++ [a]) = if p a then dropEndWhile p l else l ++ [a] := by
  by_cases h : p a <;> simp [dropEndWhile, h]

def trim (s : String) : String :=
  String.ofList (dropEndWhile isBlank (s.toList.dropWhile isBlank))

def isAllBlank (s : String) : Bool :=
  s.toList.all isBlank

/-- The maximal runs of characters that fail the test, left to right. -/
def runs (separates : Char → Bool) : List Char → List (List Char)
  | [] => []
  | c :: rest =>
    if separates c then runs separates rest
    else match rest, runs separates rest with
      | next :: _, run :: others =>
        if separates next then [c] :: run :: others else (c :: run) :: others
      | _, others => [c] :: others

end CompilerLog.Text
