import CompilerLog.Text.Blank
import CompilerLog.Text.Cut
import Mathlib.Data.List.Induction
/-!
# Pieces and what ends them

A list falls into pieces that end with a terminator, but for the last one, which may lack it. What
holds of a list without terminators, and of a list from what follows its first piece, holds of all
lists.
-/

namespace CompilerLog.Text

section CutAfter

variable {α : Type} [DecidableEq α] {a : α} {piece : List α}

theorem cutAfter_ended (h : a ∉ piece) (rest : List α) :
    cutAfter (· = a) (piece ++ a :: rest) = (piece ++ [a]) :: cutAfter (· = a) rest := by
  induction piece with
  | nil => simp [cutAfter]
  | cons b piece ih =>
      obtain ⟨hb, hpiece⟩ := List.ne_and_not_mem_of_not_mem_cons h
      simp [cutAfter, Ne.symm hb, ih hpiece]

theorem cutAfter_unended (h : a ∉ piece) (hne : piece ≠ []) :
    cutAfter (· = a) piece = [piece] := by
  induction piece with
  | nil => exact absurd rfl hne
  | cons b piece ih =>
      obtain ⟨hb, hpiece⟩ := List.ne_and_not_mem_of_not_mem_cons h
      by_cases hempty : piece = []
      · simp [cutAfter, Ne.symm hb, hempty]
      · simp [cutAfter, Ne.symm hb, ih hpiece hempty]

/-- Induction along the pieces of a list. -/
@[elab_as_elim]
theorem cut_induction {motive : List α → Prop} (a : α)
    (unended : ∀ piece, a ∉ piece → motive piece)
    (ended : ∀ piece rest, a ∉ piece → motive rest → motive (piece ++ a :: rest))
    (l : List α) : motive l := by
  by_cases h : a ∈ l
  · obtain ⟨piece, rest, hl, hpiece⟩ := List.eq_append_cons_of_mem h
    have hless : rest.length < l.length := by
      rw [hl, List.length_append, List.length_cons]
      omega
    rw [hl]
    exact ended piece rest hpiece (cut_induction a unended ended rest)
  · exact unended l h
termination_by l.length

end CutAfter

section DropEndWhile

variable {α : Type} {p q : α → Bool} {l : List α}

theorem dropEndWhile_congr (h : ∀ a ∈ l, p a = q a) : dropEndWhile p l = dropEndWhile q l := by
  induction l using List.reverseRecOn with
  | nil => rfl
  | append_singleton l a ih =>
      have hl := ih fun b hb => h b (List.mem_append_left _ hb)
      rw [dropEndWhile_concat, dropEndWhile_concat, h a (by simp), hl]

theorem dropEndWhile_append_of_all {ending : List α} (h : ∀ a ∈ ending, p a = true)
    (l : List α) : dropEndWhile p (l ++ ending) = dropEndWhile p l := by
  have hreverse : ∀ a ∈ ending.reverse, p a = true := fun a ha => h a (List.mem_reverse.mp ha)
  rw [dropEndWhile, dropEndWhile, List.reverse_append, List.dropWhile_append_of_pos hreverse]

theorem dropEndWhile_of_all (h : ∀ a ∈ l, p a = true) : dropEndWhile p l = [] :=
  dropEndWhile_append_of_all h []

/-- Nothing is dropped in front of what stays. -/
theorem dropEndWhile_append_cons {a : α} (ha : p a = false) (front : List α) :
    dropEndWhile p (front ++ a :: l) = front ++ a :: dropEndWhile p l := by
  induction l using List.reverseRecOn with
  | nil => simp [dropEndWhile_concat, ha]
  | append_singleton l b ih =>
      rw [← List.cons_append, ← List.append_assoc, dropEndWhile_concat, dropEndWhile_concat]
      split
      · exact ih
      · simp

end DropEndWhile

/-- The lines of a text without the newlines that end them. Behind a newline at the end of the text
there is no line. -/
def splitLines (text : List Char) : List (List Char) :=
  let pieces := text.splitOn '\n'
  if pieces.getLast? = some [] then pieces.dropLast else pieces

theorem splitLines_ended {line : List Char} (hline : '\n' ∉ line) (rest : List Char) :
    splitLines (line ++ '\n' :: rest) = line :: splitLines rest := by
  have hne : rest.splitOn '\n' ≠ [] := List.splitOn_ne_nil _ _
  simp only [splitLines, List.splitOn_append_cons_self_of_not_mem hline,
    List.getLast?_cons_of_ne_nil hne, List.dropLast_cons_of_ne_nil hne]
  split <;> rfl

theorem splitLines_unended {line : List Char} (hline : '\n' ∉ line) (hne : line ≠ []) :
    splitLines line = [line] := by
  simp [splitLines, List.splitOn_eq_singleton hline, hne]

end CompilerLog.Text
