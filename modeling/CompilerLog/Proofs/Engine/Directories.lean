import CompilerLog.Proofs.Engine
import CompilerLog.Proofs.Gcc.Declared
/-!
# Directory options over the life of an engine

An engine never takes back a directory option. Lines that its trigger refuses, lines that it fails
on and resets are no exception: what was declared before a line failed stays declared, and the first
prefix stays the prefix.
-/

namespace CompilerLog.Engine

open Gcc

variable {σ : Type} [InfoSource σ]

/-- A line is passed over, or the dialect reads it. -/
theorem matchLine_cases (e : Engine σ) (line : String) :
    ((e.matchLine line).value.2.dialect = e.dialect ∧
      ∃ held, (e.matchLine line).value.1 = .ok held) ∨
    ((e.matchLine line).value.2.dialect = (e.dialect.read line).value.2 ∧
      (e.matchLine line).value.1 = (e.dialect.read line).value.1.map fun _ => true) := by
  by_cases hheld : e.result.isSome = true
  · refine .inl ?_
    rw [matchLine_of_isSome hheld]
    exact ⟨rfl, true, rfl⟩
  by_cases hline : e.trigger.accepts line = true
  · refine .inr ?_
    cases hread : (e.dialect.read line).value.1 with
    | error error => simp [matchLine, hheld, Trigger.value_test, hline, hread, Except.map]
    | ok found => simp [matchLine, hheld, Trigger.value_test, hline, hread, Except.map]
  · refine .inl ?_
    simp [matchLine, hheld, Trigger.value_test, hline]

variable {e : Engine σ} {reader : TextReader} {d : DirectoryOptions}

theorem exists_grows_obey (he : e.dialect = .gcc reader d) (command : Command) :
    ∃ later, (e.obey command).dialect = .gcc reader later ∧ d.Grows later := by
  cases command with
  | reset => exact ⟨d, he, .refl d⟩
  | read line =>
      rcases matchLine_cases e line with ⟨hdialect, _⟩ | ⟨hdialect, _⟩
      · exact ⟨d, hdialect.trans he, .refl d⟩
      · rw [he] at hdialect
        exact ⟨_, hdialect, grows_readLine reader d line⟩

theorem exists_grows_obeyAll (he : e.dialect = .gcc reader d) (commands : List Command) :
    ∃ later, (e.obeyAll commands).dialect = .gcc reader later ∧ d.Grows later := by
  induction commands generalizing e d with
  | nil => exact ⟨d, he, .refl d⟩
  | cons command commands ih =>
      obtain ⟨next, hnext, hgrows⟩ := exists_grows_obey he command
      obtain ⟨later, hlater, hgrows'⟩ := ih hnext
      exact ⟨later, hlater, hgrows.trans hgrows'⟩

/-- A line that fails was read as far as the file that could not be entered. -/
theorem exists_expanded_of_matchLine_error (he : e.dialect = .gcc reader d) {line : String}
    {error : ExpansionError} (h : (e.matchLine line).value.1 = .error error) :
    ∃ flat after, Expanded reader [] (parts (argumentsOf line)) flat (some error) ∧
      (e.matchLine line).value.2.dialect = .gcc reader after ∧
      ∀ option, after.get option = d.get option ++ declared option flat := by
  rcases matchLine_cases e line with ⟨_, held, hheld⟩ | ⟨hdialect, houtcome⟩
  · cases h.symm.trans hheld
  · obtain ⟨flat, hflat, hdirectories⟩ := exists_expanded_readLine reader d line
    rw [h, he] at houtcome
    rw [he] at hdialect
    refine ⟨flat, _, ?_, hdialect, hdirectories⟩
    cases hread : (readLine reader d line).value.outcome with
    | ok found => simp [Dialect.read, hread, Except.map] at houtcome
    | error other =>
        obtain rfl : error = other := by simpa [Dialect.read, hread, Except.map] using houtcome
        rw [hread] at hflat
        exact hflat

/-- Whatever an engine is told, its directory options only grow. A line that fails adds what is
declared by the arguments in front of the file that could not be entered, with those of the files
before it, and no more. Once there is a prefix, it is the prefix for good. -/
theorem directories_only_grow (e : Engine σ) (reader : TextReader) (seed : DirectoryOptions)
    (he : e.dialect = .gcc reader seed) (commands more : List Command) :
    ∃ d later, (e.obeyAll commands).dialect = .gcc reader d ∧
      (e.obeyAll (commands ++ more)).dialect = .gcc reader later ∧
      (∀ option, ∃ paths, later.get option = d.get option ++ paths ∧ "" ∉ paths) ∧
      later.get .withPrefix = seed.get .withPrefix ∧
      later.get .withPrefixBefore = seed.get .withPrefixBefore ∧
      (d.get .basePrefix ≠ [] → later.declaredPrefix? = d.declaredPrefix?) ∧
      ∀ line error, ((e.obeyAll commands).matchLine line).value.1 = .error error →
        ∃ flat after, Expanded reader [] (parts (argumentsOf line)) flat (some error) ∧
          (∀ flat' error?, Expanded reader [] (parts (argumentsOf line)) flat' error? →
            flat' = flat) ∧
          ((e.obeyAll commands).matchLine line).value.2.dialect = .gcc reader after ∧
          ∀ option, after.get option = d.get option ++ declared option flat := by
  obtain ⟨d, hd, hgrown⟩ := exists_grows_obeyAll he commands
  obtain ⟨later, hlater, hgrows⟩ := exists_grows_obeyAll hd more
  have hall : e.obeyAll (commands ++ more) = (e.obeyAll commands).obeyAll more := List.foldl_append
  refine ⟨d, later, hd, hall ▸ hlater, hgrows.appended, ?_, ?_, hgrows.declaredPrefix?_eq, ?_⟩
  · exact (hgrown.trans hgrows).kept _ rfl
  · exact (hgrown.trans hgrows).kept _ rfl
  · intro line error hline
    obtain ⟨flat, after, hflat, hafter, hdirectories⟩ :=
      exists_expanded_of_matchLine_error hd hline
    exact ⟨flat, after, hflat, fun _ _ h => (hflat.unique h).1, hafter, hdirectories⟩

/-- A line that names a readable file, which names a missing one, in an engine with a prefix. -/
theorem directories_only_grow_past_missing_file :
    let reader : TextReader := fun path =>
      if path = "r" then .ok "-iquote q @missing -iquote z" else .error (.ofSystem .notFound)
    let seed := DirectoryOptions.empty.push .basePrefix "/sdk/"
    let e : Engine CachingSource := .ofDialect ⟨[], []⟩ (.gcc reader seed)
    let line := "g++ -isystem a @r -isystem b"
    e.dialect = .gcc reader seed ∧
      (∃ later, (e.obeyAll [.read line, .reset, .read "g++ -iprefix /x/"]).dialect =
        .gcc reader later ∧ later.declaredPrefix? = some "/sdk/") ∧
      ∃ after, (e.matchLine line).value.2.dialect = .gcc reader after ∧
        after.get .system = ["a"] ∧ after.get .quote = ["q"] := by
  intro reader seed e line
  have hline : parts (argumentsOf line) = [.compiler "g++", .directory .system "a",
      .file "@r" "r", .directory .system "b"] := by decide
  have hfile : parts (argumentsOf "-iquote q @missing -iquote z") =
      [.directory .quote "q", .file "@missing" "missing", .directory .quote "z"] := by decide
  have hmissing : Refused reader ["r"] "missing" (.unreadable "missing" (.ofSystem .notFound)) :=
    .unreadable (by decide) (by decide) rfl
  have hexpanded : Expanded reader [] (parts (argumentsOf line))
      [.compiler "g++", .directory .system "a", .directory .quote "q"]
      (some (.unreadable "missing" (.ofSystem .notFound))) := by
    have hadmits : Admits [] "r" := ⟨by decide, nofun⟩
    rw [hline]
    refine .part rfl (.part rfl (.failed hadmits rfl ?_))
    rw [hfile]
    exact .part rfl (.refused hmissing)
  have herror : (e.matchLine line).value.1 =
      .error (.unreadable "missing" (.ofSystem .notFound)) := by
    obtain ⟨flat, hflat, _⟩ := exists_expanded_readLine reader seed line
    have houtcome := (hexpanded.unique hflat).2
    cases hread : (readLine reader seed line).value.outcome with
    | ok found => simp [hread, errorOf?] at houtcome
    | error error =>
        obtain rfl : error = _ := by simpa [hread, errorOf?] using houtcome
        simp [matchLine, e, ofDialect, Trigger.value_test, Trigger.accepts, Dialect.read, hread]
  obtain ⟨d, later, hd, hlater, _, _, _, hfirst, hfail⟩ :=
    directories_only_grow e reader seed rfl [] [.read line, .reset, .read "g++ -iprefix /x/"]
  obtain ⟨_, rfl⟩ := Dialect.gcc.inj hd
  obtain ⟨flat, after, _, hunique, hafter, hdirectories⟩ := hfail line _ herror
  obtain rfl := hunique _ _ hexpanded
  refine ⟨rfl, ⟨later, hlater, ?_⟩, after, hafter, ?_, ?_⟩
  · rw [hfirst (by decide)]
    decide
  · rw [hdirectories]
    decide
  · rw [hdirectories]
    decide

end CompilerLog.Engine
