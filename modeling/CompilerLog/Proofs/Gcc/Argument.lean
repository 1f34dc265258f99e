import CompilerLog.Gcc.Argument
import Mathlib.Data.List.Basic
/-!
# Meanings of arguments

What is known of an argument from its meaning. The meanings come from rules tried in order, so that
a meaning leads back to the one rule that gives it.
-/

namespace CompilerLog.Gcc.Argument

theorem exists_of_directory? {text : List Char} {argument : Argument}
    (h : directory? text = some argument) :
    ∃ option path rest, argument = .directory option path ∧
      text = option.text.toList ++ rest ∧ dropBlank rest = path.toList := by
  obtain ⟨option, _, hoption⟩ := List.exists_of_findSome?_eq_some h
  split at hoption
  · cases hoption
  · rename_i rest hrest
    obtain ⟨_, hargument⟩ := Option.ite_none_right_eq_some.mp hoption
    refine ⟨option, String.ofList (dropBlank rest), rest, (Option.some.inj hargument).symm, ?_, ?_⟩
    · exact (List.append_eq_of_isPrefixOf?_eq_some hrest).symm
    · exact String.toList_ofList.symm

theorem exists_of_responseFile? {text : List Char} {argument : Argument}
    (h : responseFile? text = some argument) :
    ∃ path rest, argument = .responseFile path ∧ text = '@' :: rest := by
  unfold responseFile? at h
  split at h
  · rename_i rest
    dsimp only at h
    split at h
    · exact ⟨_, rest, (Option.some.inj h).symm, rfl⟩
    · obtain ⟨_, hargument⟩ := Option.ite_none_right_eq_some.mp h
      exact ⟨_, rest, (Option.some.inj hargument).symm, rfl⟩
  · cases h

theorem sorted_cases (text : String) :
    sorted text = .trash ∨ sorted text = .option ∨ sorted text = .residual := by
  unfold sorted
  dsimp only
  split
  · exact .inl rfl
  · split
    · exact .inr (.inl rfl)
    · exact .inr (.inr rfl)

/-- A meaning is found by one of the rules, tried in their order. -/
theorem ofText_cases (text : String) :
    (∃ value, ofText text = .define value) ∨ (∃ value, ofText text = .includePath value) ∨
      ofText text = .compiler ∨ directory? text.toList = some (ofText text) ∨
      responseFile? text.toList = some (ofText text) ∨ ofText text = sorted text := by
  unfold ofText
  dsimp only
  split
  · exact .inl ⟨_, rfl⟩
  · split
    · exact .inr (.inl ⟨_, rfl⟩)
    · split
      · exact .inr (.inr (.inl rfl))
      · cases hdirectory : directory? text.toList with
        | some argument => simp
        | none =>
            cases hfile : responseFile? text.toList with
            | some argument => simp
            | none => simp

theorem exists_of_ofText_directory {text : String} {option : DirectoryOption} {path : String}
    (h : ofText text = .directory option path) :
    ∃ rest, text.toList = option.text.toList ++ rest ∧ dropBlank rest = path.toList := by
  rcases ofText_cases text with ⟨_, hc⟩ | ⟨_, hc⟩ | hc | hc | hc | hc
  · simp [h] at hc
  · simp [h] at hc
  · simp [h] at hc
  · obtain ⟨_, _, rest, heq, htext, hrest⟩ := exists_of_directory? hc
    rw [h] at heq
    cases heq
    exact ⟨rest, htext, hrest⟩
  · obtain ⟨_, _, heq, _⟩ := exists_of_responseFile? hc
    simp [h] at heq
  · rcases sorted_cases text with hs | hs | hs <;> simp [h, hs] at hc

theorem exists_of_ofText_responseFile {text path : String} (h : ofText text = .responseFile path) :
    ∃ rest, text.toList = '@' :: rest := by
  rcases ofText_cases text with ⟨_, hc⟩ | ⟨_, hc⟩ | hc | hc | hc | hc
  · simp [h] at hc
  · simp [h] at hc
  · simp [h] at hc
  · obtain ⟨_, _, _, heq, _⟩ := exists_of_directory? hc
    simp [h] at heq
  · obtain ⟨_, rest, _, htext⟩ := exists_of_responseFile? hc
    exact ⟨rest, htext⟩
  · rcases sorted_cases text with hs | hs | hs <;> simp [h, hs] at hc

theorem eq_nil_or_blank_of_dropBlank {text : List Char} (h : dropBlank text = []) :
    text = [] ∨ ∃ c, Text.isBlank c = true ∧ text = [c] := by
  cases text with
  | nil => exact .inl rfl
  | cons c rest =>
      by_cases hc : Text.isBlank c = true
      · refine .inr ⟨c, hc, ?_⟩
        simpa [dropBlank, hc] using h
      · simp [dropBlank, hc] at h

theorem not_sourceEnding_concat (text : List Char) {c : Char} (hp : c ≠ 'p') (ho : c ≠ 'o') :
    sourceEndings.any (·.isSuffixOf (text ++ [c])) = false := by
  have hlast (front : List Char) (last : Char) (hne : c ≠ last) :
      (front ++ [last]).isSuffixOf (text ++ [c]) = false := by
    rw [Bool.eq_false_iff, ne_eq, List.isSuffixOf_iff_suffix]
    rintro ⟨before, hbefore⟩
    rw [← List.append_assoc] at hbefore
    exact hne (List.head_eq_of_cons_eq (List.append_inj_right' hbefore rfl)).symm
  simp only [sourceEndings, List.any_cons, List.any_nil, Bool.or_false, Bool.or_eq_false_iff]
  exact ⟨hlast ['c', 'p'] 'p' hp, hlast ['c', 'p', 'p', '.'] 'o' ho⟩

/-- A directory keyword without a path is sorted to the flags that are kept. -/
theorem sorted_of_ofText_directory {text : String} {option : DirectoryOption}
    (h : ofText text = .directory option "") : sorted text = .option := by
  obtain ⟨rest, htext, hrest⟩ := exists_of_ofText_directory h
  unfold sorted
  dsimp only
  rcases eq_nil_or_blank_of_dropBlank hrest with rfl | ⟨c, hc, rfl⟩
  · rw [htext]
    cases option <;> decide
  · have hp : c ≠ 'p' := by rintro rfl; revert hc; decide
    have ho : c ≠ 'o' := by rintro rfl; revert hc; decide
    rw [htext, not_sourceEnding_concat _ hp ho]
    cases option <;> rfl

/-- The name of a response file is no flag. -/
theorem sorted_of_ofText_responseFile {text path : String}
    (h : ofText text = .responseFile path) : sorted text ≠ .option := by
  obtain ⟨rest, htext⟩ := exists_of_ofText_responseFile h
  unfold sorted
  rw [htext]
  dsimp only
  split
  · nofun
  · simp

end CompilerLog.Gcc.Argument
