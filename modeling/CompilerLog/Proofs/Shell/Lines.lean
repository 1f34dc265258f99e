import CompilerLog.Proofs.Shell.Unclosed
/-!
# Words of lines that stand below each other

A newline ends the word or the comment in front of it, so that the words of two lines are those of
the one and then those of the other. It is part of a word inside quotes, and nothing at all behind a
backslash.
-/

namespace CompilerLog.Shell

/-- A line that ends with a backslash that is neither in quotes nor in a comment, and that no
backslash in front of it escapes. -/
def EndsEscaping (line : List Char) : Prop := ∃ front, line = front ++ ['\\'] ∧
  ((Reading.start.run front).mode = .between ∨ (Reading.start.run front).mode = .bare)

namespace Reading

/-- The same reading with words in front of those that are complete. -/
def behind (before : List (List Char)) (r : Reading) : Reading :=
  { r with words := before ++ r.words }

theorem step_behind (before : List (List Char)) (r : Reading) (c : Char) :
    (r.behind before).step c = (r.step c).behind before := by
  obtain ⟨mode, words, word⟩ := r
  cases mode <;> simp only [behind, step] <;> split_ifs <;> simp [turn, add, complete]

theorem run_behind (before : List (List Char)) (r : Reading) (text : List Char) :
    (r.behind before).run text = (r.run text).behind before := by
  induction text generalizing r with
  | nil => rfl
  | cons c text ih => rw [run_cons, run_cons, step_behind, ih]

theorem finish?_behind (before : List (List Char)) (r : Reading) :
    (r.behind before).finish? = r.finish?.map (before ++ ·) := by
  obtain ⟨mode, words, word⟩ := r
  cases mode <;> simp [behind, finish?]

/-- Between two words and in a comment no word is begun. -/
def Tidy (r : Reading) : Prop :=
  r.mode = .between ∨ r.mode = .betweenEscape ∨ r.mode = .comment → r.word = []

theorem Tidy.step {r : Reading} (h : r.Tidy) (c : Char) : (r.step c).Tidy := by
  obtain ⟨mode, words, word⟩ := r
  cases mode <;> simp only [Reading.step] <;> split_ifs <;>
    simp_all [Tidy, turn, add, complete]

theorem Tidy.run {r : Reading} (h : r.Tidy) (text : List Char) : (r.run text).Tidy := by
  induction text generalizing r with
  | nil => exact h
  | cons c text ih => exact ih (h.step c)

theorem tidy_run_start (text : List Char) : (start.run text).Tidy := by
  apply Tidy.run
  intro _
  rfl

/-- Only a backslash outside quotes and comments leads behind one. -/
theorem eq_backslash_of_step {r : Reading} {c : Char}
    (h : (r.step c).mode = .betweenEscape ∨ (r.step c).mode = .bareEscape) :
    c = '\\' ∧ (r.mode = .between ∨ r.mode = .bare) := by
  obtain ⟨mode, words, word⟩ := r
  cases mode <;> simp only [step] at h <;> split_ifs at h <;>
    simp_all [turn, add, complete]

theorem not_escape_of_not_endsEscaping {line : List Char} (h : ¬ EndsEscaping line) :
    (start.run line).mode ≠ .betweenEscape ∧ (start.run line).mode ≠ .bareEscape := by
  rw [← not_or]
  intro hmode
  rcases List.eq_nil_or_concat' line with rfl | ⟨front, c, rfl⟩
  · rcases hmode with hmode | hmode <;> cases hmode
  · have hstep : start.run (front ++ [c]) = (start.run front).step c := by
      rw [run_append, run_cons, run_nil]
    rw [hstep] at hmode
    obtain ⟨rfl, hfront⟩ := eq_backslash_of_step hmode
    exact h ⟨front, rfl, hfront⟩

/-- A newline ends the word or the comment that a line ends in. -/
theorem run_newline {line : List Char} {words : List (List Char)} (h : split? line = some words)
    (hescape : ¬ EndsEscaping line) : start.run (line ++ ['\n']) = start.behind words := by
  have htidy := tidy_run_start line
  obtain ⟨hbetween, hbare⟩ := not_escape_of_not_endsEscaping hescape
  rw [split?] at h
  rw [run_append, run_cons, run_nil]
  generalize start.run line = r at *
  obtain ⟨mode, before, word⟩ := r
  cases mode with
  | between =>
      obtain rfl : before = words := Option.some.inj h
      obtain rfl : word = [] := htidy (.inl rfl)
      simp [step, separates, behind, start]
  | comment =>
      obtain rfl : before = words := Option.some.inj h
      obtain rfl : word = [] := htidy (.inr (.inr rfl))
      simp [step, turn, behind, start]
  | bare =>
      obtain rfl : before ++ [word] = words := Option.some.inj h
      simp [step, separates, complete, behind, start]
  | betweenEscape => exact absurd rfl hbetween
  | bareEscape => exact absurd rfl hbare
  | single => cases h
  | double => cases h
  | doubleEscape => cases h

end Reading

theorem split?_lines {line next : List Char} {words more : List (List Char)}
    (h : split? line = some words) (hescape : ¬ EndsEscaping line) (h' : split? next = some more) :
    split? (line ++ '\n' :: next) = some (words ++ more) := by
  rw [List.append_cons, split?, Reading.run_append, Reading.run_newline h hescape,
    Reading.run_behind, Reading.finish?_behind]
  rw [split?] at h'
  rw [h']
  rfl

theorem value_tokenize_lines {line next : String} (h : split? line.toList ≠ none)
    (hescape : ¬ EndsEscaping line.toList) (h' : split? next.toList ≠ none) :
    (tokenize (line ++ "\n" ++ next)).value = (tokenize line).value ++ (tokenize next).value := by
  obtain ⟨words, hwords⟩ := Option.ne_none_iff_exists'.mp h
  obtain ⟨more, hmore⟩ := Option.ne_none_iff_exists'.mp h'
  have hboth : split? (line ++ "\n" ++ next).toList = some (words ++ more) := by
    have hlines : (line ++ "\n" ++ next).toList = line.toList ++ '\n' :: next.toList := by simp
    rw [hlines]
    exact split?_lines hwords hescape hmore
  rw [value_tokenize_of_split? hboth, value_tokenize_of_split? hwords,
    value_tokenize_of_split? hmore, List.filter_append, List.map_append]

end CompilerLog.Shell
