import CompilerLog.Proofs.Gcc.Declared
/-!
# What a line knows of the lines before it

Of all the directory options that earlier lines declared, reading a line asks for nothing but the
first prefix. From two states that agree on it a line is read alike, and they go on agreeing, since
both take the same first prefix from a line if they had none. The other options are collected and
never looked at.
-/

namespace CompilerLog.Gcc

/-- The first prefix is the same, or there is none in either. -/
def SamePrefix (d d' : DirectoryOptions) : Prop :=
  (d.get .basePrefix).head? = (d'.get .basePrefix).head?

namespace SamePrefix

variable {d d' : DirectoryOptions}

theorem declaredPrefix?_eq (h : SamePrefix d d') : d'.declaredPrefix? = d.declaredPrefix? := by
  rw [DirectoryOptions.declaredPrefix?, DirectoryOptions.declaredPrefix?, h]

theorem add_eq (h : SamePrefix d d') (p : Part) (found : Invocation) :
    p.add d' found = p.add d found := by
  have hincludes : p.includes d' = p.includes d := by
    cases p with
    | directory option path => simp only [Part.includes, h.declaredPrefix?_eq]
    | _ => rfl
  rw [Part.add, Part.add, hincludes]

theorem directories (h : SamePrefix d d') (p : Part) :
    SamePrefix (p.directories d) (p.directories d') := by
  -- Where there was no prefix before, the one that the part declares is the first in both.
  rw [SamePrefix, Part.get_directories, Part.get_directories, List.head?_append, List.head?_append,
    h]

end SamePrefix

theorem Expansion.enter_of_directories (reader : AdaptiveReader) (s : Expansion)
    (d : DirectoryOptions) (path : String) :
    ({ s with directories := d } : Expansion).enter reader path =
      ((s.enter reader path).1, { (s.enter reader path).2 with directories := d }) := by
  unfold enter
  dsimp only
  split
  · rfl
  · split
    · rfl
    · cases reader s.questions path <;> rfl

/-- A call that is made with other directory options returns likewise, if the first prefix is the
same. The reader is asked for the same files and may look at what it was asked before. -/
theorem Returns.exists_of_samePrefix {reader : AdaptiveReader} {call : Call} {s t : Expansion}
    {levels : Nat} {outcome : Except ExpansionError Invocation}
    (h : Returns reader call s levels outcome t) {d : DirectoryOptions}
    (hsame : SamePrefix s.directories d) :
    ∃ e, SamePrefix t.directories e ∧ Returns reader call { s with directories := d } levels outcome
      { t with directories := e } := by
  induction h generalizing d with
  | finished => exact ⟨d, hsame, .finished⟩
  | @part p rest found s _ _ _ hp _ ih =>
      obtain ⟨e, he, hrest⟩ := ih (hsame.directories p)
      refine ⟨e, he, .part hp ?_⟩
      rw [hsame.add_eq]
      exact hrest
  | spliced _ _ ihFile ihRest =>
      obtain ⟨e, he, hfile⟩ := ihFile hsame
      obtain ⟨e', he', hrest⟩ := ihRest he
      exact ⟨e', he', .spliced hfile hrest⟩
  | failed _ ih =>
      obtain ⟨e, he, hfile⟩ := ih hsame
      exact ⟨e, he, .failed hfile⟩
  | @refused path s _ _ henter =>
      have hdirectories := Expansion.directories_enter reader s path
      rw [henter] at hdirectories
      dsimp only at hdirectories
      refine ⟨d, hdirectories ▸ hsame, .refused ?_⟩
      rw [Expansion.enter_of_directories, henter]
  | @expanded path s _ _ _ _ _ henter _ ih =>
      have hdirectories := Expansion.directories_enter reader s path
      rw [henter] at hdirectories
      dsimp only at hdirectories
      obtain ⟨e, he, hline⟩ := ih (hdirectories ▸ hsame)
      refine ⟨e, he, .expanded ?_ hline⟩
      rw [Expansion.enter_of_directories, henter]

section ReadLine

variable {d d' : DirectoryOptions}

theorem readLine_of_samePrefix (reader : TextReader) (h : SamePrefix d d') (line : String) :
    (readLine reader d' line).value.outcome = (readLine reader d line).value.outcome ∧
      SamePrefix (readLine reader d line).value.directories
        (readLine reader d' line).value.directories := by
  obtain ⟨levels, outcome, t, hreturns, hvalue⟩ := exists_returns_readLine reader d line
  obtain ⟨e, he, hreturns'⟩ := hreturns.exists_of_samePrefix h
  rw [hvalue, readLine_of_returns hreturns']
  exact ⟨rfl, he⟩

/-- What is made of lines that are read one after the other. -/
def outcomes (reader : TextReader) (d : DirectoryOptions) :
    List String → List (Except ExpansionError Invocation)
  | [] => []
  | line :: lines =>
    let reading := (readLine reader d line).value
    reading.outcome :: outcomes reader reading.directories lines

theorem outcomes_of_samePrefix (reader : TextReader) (h : SamePrefix d d') (lines : List String) :
    outcomes reader d' lines = outcomes reader d lines := by
  induction lines generalizing d d' with
  | nil => rfl
  | cons line lines ih =>
      obtain ⟨houtcome, hsame⟩ := readLine_of_samePrefix reader h line
      rw [outcomes, outcomes, houtcome, ih hsame]

/-- With the same first prefix, or none in either case, a line is read alike, fails alike, and
declares the same paths, whatever else was declared before; and so it is for all lines to come. -/
theorem reading_depends_on_first_prefix (reader : TextReader) (d d' : DirectoryOptions)
    (h : (d.get .basePrefix).head? = (d'.get .basePrefix).head?) (line : String) :
    let reading := (readLine reader d line).value
    let reading' := (readLine reader d' line).value
    reading'.outcome = reading.outcome ∧
      (∃ added : DirectoryOption → List String, ∀ option,
        reading.directories.get option = d.get option ++ added option ∧
        reading'.directories.get option = d'.get option ++ added option) ∧
      ∀ lines, outcomes reader reading'.directories lines =
        outcomes reader reading.directories lines := by
  intro reading reading'
  obtain ⟨houtcome, hsame⟩ := readLine_of_samePrefix reader h line
  refine ⟨houtcome, ?_, outcomes_of_samePrefix reader hsame⟩
  obtain ⟨flat, hflat, hadded⟩ := exists_expanded_readLine reader d line
  obtain ⟨flat', hflat', hadded'⟩ := exists_expanded_readLine reader d' line
  obtain ⟨rfl, _⟩ := hflat.unique hflat'
  exact ⟨fun option => declared option flat', fun option => ⟨hadded option, hadded' option⟩⟩

/-- Two histories that have nothing in common but the first prefix, and a line that asks for it. -/
theorem reading_depends_on_first_prefix_of_two :
    let reader : TextReader := fun _ => .error (.ofSystem .notFound)
    let d := (DirectoryOptions.empty.push .basePrefix "/x/").push .system "a"
    let d' := ((DirectoryOptions.empty.push .basePrefix "/x/").push .quote "b").push .basePrefix "/"
    let line := "g++ -iwithprefix p -isystem s"
    (d.get .basePrefix).head? = (d'.get .basePrefix).head? ∧
      (readLine reader d' line).value.outcome = .ok ⟨"g++", ["/x/p"], [], [], [], .unset⟩ ∧
      (readLine reader d' line).value.directories.get .system = ["s"] := by
  intro reader d d' line
  have h : (d.get .basePrefix).head? = (d'.get .basePrefix).head? := by decide
  have hline : parts (argumentsOf line) = [.compiler "g++", .directory .withPrefix "p",
      .directory .system "s"] := by decide
  have hreturns : Returns (fun _ => reader) (.line (parts (argumentsOf line)) .empty) (.start d) 0
      (.ok ⟨"g++", ["/x/p"], [], [], [], .unset⟩) ⟨d.push .system "s", [], []⟩ := by
    rw [hline]
    exact .part rfl (.part rfl (.part rfl .finished))
  obtain ⟨houtcome, ⟨added, hadded⟩, _⟩ := reading_depends_on_first_prefix reader d d' h line
  obtain ⟨hsystem, hsystem'⟩ := hadded .system
  rw [readLine_of_returns hreturns] at houtcome hsystem
  refine ⟨h, houtcome.trans ?_, ?_⟩
  · decide
  · have hs : ["s"] = added .system := List.append_cancel_left hsystem
    rw [hsystem', ← hs]
    rfl

end ReadLine

end CompilerLog.Gcc
