import CompilerLog.Shell.Words
/-!
# Words written for the shell

A word between single quotes stands for itself, whatever characters it holds, so that a line made of
such words with gaps between them is split into just the words that were written.
-/

namespace CompilerLog.Shell

/-- A character between single quotes. A single quote ends them, stands behind a backslash, and
begins them again. -/
def quoteChar (c : Char) : List Char := if c = '\'' then ['\'', '\\', '\'', '\''] else [c]

def singleQuoted (text : List Char) : List Char := '\'' :: (text.flatMap quoteChar ++ ['\''])

/-- What stands between two words: spaces and newlines. -/
structure Gap where
  text : List Char
  text_ne_nil : text ≠ []
  blank : ∀ c ∈ text, c = ' ' ∨ c = '\n'

/-- A line of words in single quotes, each with the gap behind it. The gap behind the last word is
left out. -/
def joinQuoted : List (List Char × Gap) → List Char
  | [] => []
  | [entry] => singleQuoted entry.1
  | entry :: next :: rest => singleQuoted entry.1 ++ entry.2.text ++ joinQuoted (next :: rest)

namespace Reading

@[simp] theorem run_nil (r : Reading) : r.run [] = r := rfl

@[simp] theorem run_cons (r : Reading) (c : Char) (text : List Char) :
    r.run (c :: text) = (r.step c).run text := rfl

variable {words : List (List Char)} {word : List Char}

theorem run_quoteChar (c : Char) :
    (⟨.single, words, word⟩ : Reading).run (quoteChar c) = ⟨.single, words, word ++ [c]⟩ := by
  by_cases hc : c = '\''
  · rw [hc]
    rfl
  · rw [quoteChar, if_neg hc, run_cons, run_nil]
    exact if_neg hc

theorem run_flatMap_quoteChar (text : List Char) :
    (⟨.single, words, word⟩ : Reading).run (text.flatMap quoteChar) =
      ⟨.single, words, word ++ text⟩ := by
  induction text generalizing word with
  | nil => simp
  | cons c text ih =>
      rw [List.flatMap_cons, run_append, run_quoteChar, ih, List.append_assoc,
        List.singleton_append]

/-- A word in single quotes is read as it is, and is open to more text behind it. -/
theorem run_singleQuoted (text : List Char) :
    (⟨.between, words, []⟩ : Reading).run (singleQuoted text) = ⟨.bare, words, text⟩ := by
  have hopen : (⟨.between, words, []⟩ : Reading).step '\'' = ⟨.single, words, []⟩ := rfl
  rw [singleQuoted, run_cons, hopen, run_append, run_flatMap_quoteChar, List.nil_append]
  rfl

theorem separates_of_mem_gap {gap : Gap} {c : Char} (h : c ∈ gap.text) : separates c = true := by
  rcases gap.blank c h with rfl | rfl <;> rfl

theorem run_separators {text : List Char} (h : ∀ c ∈ text, separates c = true) :
    (⟨.between, words, []⟩ : Reading).run text = ⟨.between, words, []⟩ := by
  induction text with
  | nil => rfl
  | cons c text ih =>
      obtain ⟨hc, htext⟩ := List.forall_mem_cons.mp h
      have hstep : (⟨.between, words, []⟩ : Reading).step c = ⟨.between, words, []⟩ := by
        simp only [separates, Bool.or_eq_true, decide_eq_true_eq] at hc
        rcases hc with (rfl | rfl) | rfl <;> rfl
      rw [run_cons, hstep, ih htext]

/-- Only the first character of a gap completes the word. -/
theorem run_gap (gap : Gap) :
    (⟨.bare, words, word⟩ : Reading).run gap.text = ⟨.between, words ++ [word], []⟩ := by
  obtain ⟨c, text, hgap⟩ := List.exists_cons_of_ne_nil gap.text_ne_nil
  have hblank : ∀ c ∈ gap.text, separates c = true := fun _ => separates_of_mem_gap
  have hfirst := gap.blank c (by simp [hgap])
  rw [hgap] at hblank ⊢
  have hstep : (⟨.bare, words, word⟩ : Reading).step c = ⟨.between, words ++ [word], []⟩ := by
    rcases hfirst with rfl | rfl <;> rfl
  rw [run_cons, hstep, run_separators (List.forall_mem_cons.mp hblank).2]

theorem finish?_run_joinQuoted (entries : List (List Char × Gap)) :
    ((⟨.between, words, []⟩ : Reading).run (joinQuoted entries)).finish? =
      some (words ++ entries.map Prod.fst) := by
  induction entries using joinQuoted.induct generalizing words with
  | case1 => simp [joinQuoted, finish?]
  | case2 entry => rw [joinQuoted, run_singleQuoted]; rfl
  | case3 entry next rest ih =>
      rw [joinQuoted, run_append, run_append, run_singleQuoted, run_gap, ih, List.append_assoc]
      rfl

end Reading

/-- A line of words in single quotes is split into these words. -/
theorem split?_joinQuoted (entries : List (List Char × Gap)) :
    split? (joinQuoted entries) = some (entries.map Prod.fst) :=
  Reading.finish?_run_joinQuoted entries

theorem value_tokenize_of_split? {line : String} {words : List (List Char)}
    (h : split? line.toList = some words) :
    (tokenize line).value = (words.filter (· ≠ [])).map String.ofList := by
  simp [tokenize, h]

end CompilerLog.Shell
