import CompilerLog.Proofs.Shell.Unclosed
/-!
# Words are made of the text of the line

Reading a line drops characters and keeps the others in their order; it adds none. So the words that
are held at any place are part of the text in front of it, and what is put behind a line to close
its last quote ends the last word without becoming part of it.
-/

namespace CompilerLog

/-- The runs of a text hold all of its characters but those that separate them. -/
theorem Text.flatten_runs (separates : Char → Bool) (text : List Char) :
    (runs separates text).flatten = text.filter fun c => !separates c := by
  induction text with
  | nil => rfl
  | cons c rest ih =>
      unfold runs
      split
      · rename_i hc
        rw [ih, List.filter_cons_of_neg (by simp [hc])]
      · rename_i hc
        rw [List.filter_cons_of_pos (by simp [hc]), ← ih]
        split
        · rename_i hruns
          rw [hruns]
          split <;> rfl
        · rfl

namespace Shell

/-- A backslash that was read, but whose meaning depends on the character behind it. -/
def Mode.heldBack : Mode → List Char
  | .betweenEscape | .bareEscape | .doubleEscape => ['\\']
  | _ => []

namespace Reading

/-- The words that are complete, and the one begun. -/
def held (r : Reading) : List (List Char) := r.words ++ [r.word]

/-- The characters that were read and are not dropped yet. -/
def kept (r : Reading) : List Char := r.held.flatten ++ r.mode.heldBack

theorem kept_eq (mode : Mode) (words : List (List Char)) (word : List Char) :
    (⟨mode, words, word⟩ : Reading).kept = words.flatten ++ (word ++ mode.heldBack) := by
  simp [kept, held]

/-- One character is kept, or it is dropped, a backslash held back in front of it as well. -/
theorem kept_step (r : Reading) (c : Char) : (r.step c).kept.Sublist (r.kept ++ [c]) := by
  obtain ⟨mode, words, word⟩ := r
  cases mode <;> simp only [step] <;> split_ifs <;>
    simp [kept_eq, turn, add, complete, Mode.heldBack, *]

theorem kept_run (r : Reading) (text : List Char) :
    (r.run text).kept.Sublist (r.kept ++ text) := by
  induction text generalizing r with
  | nil => simp
  | cons c text ih =>
      have hstep : ((r.step c).kept ++ text).Sublist (r.kept ++ [c] ++ text) :=
        (r.kept_step c).append_right text
      rw [run_cons, List.append_cons]
      exact (ih (r.step c)).trans hstep

theorem kept_run_start (line : List Char) : (start.run line).kept.Sublist line :=
  start.kept_run line

theorem flatten_sublist_kept {r : Reading} {words : List (List Char)}
    (h : r.finish? = some words) : words.flatten.Sublist r.kept := by
  obtain ⟨mode, before, word⟩ := r
  cases mode with
  | between | comment | bare | betweenEscape | bareEscape =>
      cases h
      simp [kept_eq, Mode.heldBack]
  | single | double | doubleEscape => cases h

end Reading

theorem flatten_sublist_of_split? {line : List Char} {words : List (List Char)}
    (h : split? line = some words) : words.flatten.Sublist line :=
  (Reading.flatten_sublist_kept h).trans (Reading.kept_run_start line)

/-- The words of a line that ends inside a quote when one of the closings helps. -/
theorem eq_held_of_closing {line : List Char} {words : List (List Char)} (h : split? line = none)
    (hwords : (closings.findSome? fun closing => split? (line ++ closing)) = some words) :
    words = (Reading.start.run line).held := by
  rw [split?_eq_none_iff] at h
  simp only [split?_append] at hwords
  generalize Reading.start.run line = r at h hwords
  obtain ⟨mode, before, word⟩ := r
  cases mode with
  | between | betweenEscape | bare | bareEscape | comment => cases h
  | single | double => exact (Option.some.inj hwords).symm
  | doubleEscape => cases hwords

theorem flatten_splitClosed_sublist {line : List Char} (h : split? line = none) :
    (splitClosed line).flatten.Sublist line := by
  cases hwords : closings.findSome? fun closing => split? (line ++ closing) with
  | some words =>
      have hheld : (Reading.start.run line).held.flatten.Sublist (Reading.start.run line).kept :=
        List.sublist_append_left _ _
      rw [splitClosed, hwords, Option.getD_some, eq_held_of_closing h hwords]
      exact hheld.trans (Reading.kept_run_start line)
  | none =>
      rw [splitClosed, hwords, Option.getD_none, Text.flatten_runs]
      exact List.filter_sublist

/-- The words of a line, empty ones included. -/
def wordsOf (line : List Char) : List (List Char) := (split? line).getD (splitClosed line)

theorem flatten_wordsOf_sublist (line : List Char) : (wordsOf line).flatten.Sublist line := by
  rw [wordsOf]
  cases hwords : split? line with
  | some words => exact flatten_sublist_of_split? hwords
  | none => exact flatten_splitClosed_sublist hwords

theorem value_tokenize (line : String) :
    (tokenize line).value = ((wordsOf line.toList).filter (· ≠ [])).map String.ofList := by
  rw [wordsOf]
  cases hwords : split? line.toList with
  | some words => exact value_tokenize_of_split? hwords
  | none => exact value_tokenize_of_unclosed hwords

theorem flatMap_toList_ofList (words : List (List Char)) :
    (words.map String.ofList).flatMap String.toList = words.flatten := by
  simp [List.flatMap_map, List.flatMap_id']

/-- No token is empty, and the characters of all tokens are characters of the line in their order,
whether its last quote is closed or not. Of a line that ends inside a quote, the words are those
that are held at its end when a closing helps, so that no character of the closing is part of one;
and when none helps they are the runs between its blanks. -/
theorem tokens_are_text_of_line (line : String) :
    let tokens := (tokenize line).value
    (∀ token ∈ tokens, token ≠ "") ∧
    (tokens.flatMap String.toList).Sublist line.toList ∧
    (split? line.toList = none →
      let closed := closings.findSome? fun closing => split? (line.toList ++ closing)
      (∀ words, closed = some words → words = (Reading.start.run line.toList).held ∧
        tokens = (words.filter (· ≠ [])).map String.ofList) ∧
      (closed = none → tokens = (Text.runs Text.isBlank line.toList).map String.ofList)) := by
  intro tokens
  have htokens : tokens = ((wordsOf line.toList).filter (· ≠ [])).map String.ofList :=
    value_tokenize line
  refine ⟨?_, ?_, fun hopen => ⟨fun words hwords => ⟨eq_held_of_closing hopen hwords, ?_⟩,
    fun hnone => ?_⟩⟩
  · intro token htoken
    rw [htokens] at htoken
    obtain ⟨word, hword, rfl⟩ := List.mem_map.mp htoken
    have hne : word ≠ [] := by simpa using List.of_mem_filter hword
    simpa using hne
  · rw [htokens, flatMap_toList_ofList, List.flatten_filter_ne_nil]
    exact flatten_wordsOf_sublist line.toList
  · rw [htokens, wordsOf, hopen, Option.getD_none, splitClosed, hwords, Option.getD_some]
  · have hruns : (Text.runs Text.isBlank line.toList).filter (· ≠ []) =
        Text.runs Text.isBlank line.toList :=
      List.filter_eq_self.mpr fun run hrun => by
        simpa using Text.ne_nil_of_mem_runs _ _ run hrun
    rw [htokens, wordsOf, hopen, Option.getD_none, splitClosed, hnone, Option.getD_none, hruns]

/-- A line that ends between single quotes, with a double quote there that closes nothing: of the
closings the second one helps. -/
theorem tokens_are_text_of_line_of_single_quotes :
    let line := "a 'b \"c"
    split? line.toList = none ∧
      closings.findSome? (fun closing => split? (line.toList ++ closing)) =
        some [['a'], ['b', ' ', '"', 'c']] ∧
      (tokenize line).value = ["a", "b \"c"] := by
  intro line
  have hopen : split? line.toList = none := by decide
  have hclosed : closings.findSome? (fun closing => split? (line.toList ++ closing)) =
      some [['a'], ['b', ' ', '"', 'c']] := by decide
  obtain ⟨_, _, hline⟩ := tokens_are_text_of_line line
  exact ⟨hopen, hclosed, ((hline hopen).1 _ hclosed).2⟩

end Shell

end CompilerLog
