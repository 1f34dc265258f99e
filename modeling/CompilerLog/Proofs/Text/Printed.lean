import CompilerLog.Proofs.Text.Cut
import Mathlib.Data.List.DropRight
/-!
# Printed lines

What reads lines that were printed one below the other finds these lines again. Only a carriage
return at the end of a line may be gone, since it is taken for a part of the line's end; who trims
the lines does not notice.
-/

namespace CompilerLog.Text

section Trim

theorem dropWhile_isBlank_eq_self_iff (l : List Char) :
    l.dropWhile isBlank = l ↔ ∀ c ∈ l.head?, isBlank c = false := by
  cases l with
  | nil => simp
  | cons c rest => simp [List.dropWhile_eq_self_iff]

theorem dropEndWhile_isBlank_eq_self_iff (l : List Char) :
    dropEndWhile isBlank l = l ↔ ∀ c ∈ l.getLast?, isBlank c = false := by
  cases l using List.reverseRecOn with
  | nil => simp
  | append_singleton front c =>
      change List.rdropWhile isBlank (front ++ [c]) = front ++ [c] ↔ _
      simp [List.rdropWhile_eq_self_iff]

theorem trim_eq_self_iff (s : String) :
    trim s = s ↔
      (∀ c ∈ s.toList.head?, isBlank c = false) ∧ ∀ c ∈ s.toList.getLast?, isBlank c = false := by
  rw [← dropWhile_isBlank_eq_self_iff, ← dropEndWhile_isBlank_eq_self_iff, ← String.toList_inj,
    trim, String.toList_ofList]
  constructor
  · intro h
    -- Neither of the two cuts makes a list longer, so that none of them takes anything away.
    have hkept : (dropEndWhile isBlank (s.toList.dropWhile isBlank)).Sublist
        (s.toList.dropWhile isBlank) := (List.rdropWhile_prefix isBlank _).sublist
    rw [h] at hkept
    have hcut := (List.dropWhile_suffix isBlank).sublist.antisymm hkept
    rw [hcut] at h
    exact ⟨hcut, h⟩
  · rintro ⟨hcut, hkept⟩
    rw [hcut, hkept]

theorem trim_append {s t : String} (hs : s ≠ "") (ht : t ≠ "")
    (hstart : ∀ c ∈ s.toList.head?, isBlank c = false)
    (hend : ∀ c ∈ t.toList.getLast?, isBlank c = false) : trim (s ++ t) = s ++ t := by
  rw [trim_eq_self_iff, String.toList_append,
    List.head?_append_of_ne_nil _ (mt String.toList_eq_nil_iff.mp hs),
    List.getLast?_append_of_ne_nil _ (mt String.toList_eq_nil_iff.mp ht)]
  exact ⟨hstart, hend⟩

theorem trim_blank_append {blanks : String} (h : isAllBlank blanks = true) (s : String) :
    trim (blanks ++ s) = trim s := by
  rw [trim, trim, String.toList_append, List.dropWhile_append_of_pos (List.all_eq_true.mp h)]

theorem trim_append_blank {blanks : String} (h : isAllBlank blanks = true) (s : String) :
    trim (s ++ blanks) = trim s := by
  have hall : ∀ c ∈ blanks.toList, isBlank c = true := List.all_eq_true.mp h
  rw [trim, trim, String.toList_append]
  induction s.toList with
  | nil => rw [List.nil_append, List.dropWhile_eq_nil_iff.mpr hall]; rfl
  | cons c rest ih =>
      by_cases hc : isBlank c = true
      · simpa [hc] using ih
      · rw [List.cons_append, List.dropWhile_cons_of_neg hc, List.dropWhile_cons_of_neg hc,
          ← List.cons_append, dropEndWhile_append_of_all hall]

theorem trim_eq_empty_iff (s : String) : trim s = "" ↔ isAllBlank s = true := by
  rw [trim, isAllBlank, String.ofList_eq_empty_iff]
  induction s.toList with
  | nil => simp
  | cons c rest ih =>
      by_cases hc : isBlank c = true
      · simpa [hc] using ih
      · have hstays := dropEndWhile_append_cons (l := rest) (Bool.eq_false_iff.mpr hc) []
        rw [List.nil_append, List.nil_append] at hstays
        simp [hc, hstays]

end Trim

/-- The lines stand one below the other in the text. Each ends with a newline, which may have a
carriage return in front of it; the last one may lack its end. -/
inductive Printed : List String → String → Prop
  | nil : Printed [] ""
  | unended {line : String} : line ≠ "" → Printed [line] line
  | newline {line : String} {lines : List String} {text : String} :
      Printed lines text → Printed (line :: lines) (line ++ "\n" ++ text)
  | carriageReturn {line : String} {lines : List String} {text : String} :
      Printed lines text → Printed (line :: lines) (line ++ "\r\n" ++ text)

/-- The first line is read where the second one was printed. -/
def ReadFor (read printed : String) : Prop :=
  printed = read ∨ printed = read ++ "\r"

theorem ReadFor.trim_eq {read printed : String} (h : ReadFor read printed) :
    trim read = trim printed := by
  rcases h with rfl | rfl
  · rfl
  · exact (trim_append_blank (by decide) read).symm

section Lines

variable {line : List Char}

theorem dropTerminator_return (line : List Char) :
    dropTerminator (line ++ ['\r', '\n']) = line := by
  simp [dropTerminator]

theorem dropTerminator_newline (line : List Char) :
    line = dropTerminator (line ++ ['\n']) ∨ line = dropTerminator (line ++ ['\n']) ++ ['\r'] := by
  cases line using List.reverseRecOn with
  | nil => exact .inl rfl
  | append_singleton front c =>
      by_cases hc : c = '\r'
      · right
        rw [hc, List.append_assoc]
        exact congrArg (· ++ ['\r']) (dropTerminator_return front).symm
      · left
        simp [dropTerminator, hc]

theorem dropTerminator_of_not_mem (h : '\n' ∉ line) : dropTerminator line = line := by
  cases line using List.reverseRecOn with
  | nil => rfl
  | append_singleton front c =>
      have hc : c ≠ '\n' := fun hc => h (by simp [hc])
      simp [dropTerminator, hc]

theorem lines_ended {front : List Char} (h : '\n' ∉ front) {text rest : String}
    (htext : text.toList = front ++ '\n' :: rest.toList) :
    lines text = String.ofList (dropTerminator (front ++ ['\n'])) :: lines rest := by
  rw [lines, htext, cutAfter_ended h]
  rfl

/-- Printed lines are read again, one for one. -/
theorem lines_of_printed {printed : List String} {text : String} (h : Printed printed text)
    (hfree : ∀ line ∈ printed, '\n' ∉ line.toList) :
    List.Forall₂ ReadFor (lines text) printed := by
  induction h with
  | nil => exact .nil
  | @unended line hne =>
      have hline := hfree line (List.mem_singleton_self line)
      have hpiece := cutAfter_unended hline (mt String.toList_eq_nil_iff.mp hne)
      rw [lines, hpiece, List.map_singleton, dropTerminator_of_not_mem hline, String.ofList_toList]
      exact .cons (.inl rfl) .nil
  | @newline line printed rest hrest ih =>
      obtain ⟨hline, hfree⟩ := List.forall_mem_cons.mp hfree
      have htext : (line ++ "\n" ++ rest).toList = line.toList ++ '\n' :: rest.toList := by
        simp [String.toList_append]
      rw [lines_ended hline htext]
      refine .cons ?_ (ih hfree)
      rcases dropTerminator_newline line.toList with hread | hread
      · exact .inl (String.toList_inj.mp (by rw [String.toList_ofList, ← hread]))
      · exact .inr (String.toList_inj.mp (by
          rw [String.toList_append, String.toList_ofList]; exact hread))
  | @carriageReturn line printed rest hrest ih =>
      obtain ⟨hline, hfree⟩ := List.forall_mem_cons.mp hfree
      have htext : (line ++ "\r\n" ++ rest).toList =
          (line.toList ++ ['\r']) ++ '\n' :: rest.toList := by
        simp [String.toList_append]
      have hfront : '\n' ∉ line.toList ++ ['\r'] := by simp [hline]
      have hread : dropTerminator (line.toList ++ ['\r'] ++ ['\n']) = line.toList := by
        rw [List.append_assoc]
        exact dropTerminator_return line.toList
      rw [lines_ended hfront htext, hread, String.ofList_toList]
      exact .cons (.inl rfl) (ih hfree)

end Lines

end CompilerLog.Text
