import CompilerLog.Proofs.Engine.Questions
/-!
# What built-in information does to an invocation

A line that is accepted is held whatever the source of built-in information answers. What the
compiler brings along stands behind what was read, and nothing else of the invocation changes. To
count the questions, a source can be given a memory of them, which changes nothing else.
-/

namespace CompilerLog

/-- A source with the questions that it was asked, in order. -/
structure Questioned (σ : Type) where
  source : σ
  questions : List String

instance {σ : Type} [InfoSource σ] : InfoSource (Questioned σ) where
  ask q compiler := do
    let (answer, source) ← InfoSource.ask q.source compiler
    pure (answer, ⟨source, q.questions ++ [compiler]⟩)

theorem Invocation.hasCompiler_iff {found : Invocation} :
    found.hasCompiler = true ↔ found.compiler ≠ "" := by
  simp [hasCompiler]

namespace Engine

variable {σ : Type} {e : Engine σ} {line : String} {found : Invocation}

/-- The same engine with a source that remembers questions, among them the `earlier` ones. -/
def questioned (e : Engine σ) (earlier : List String) : Engine (Questioned σ) :=
  ⟨e.trigger, e.dialect, e.source.map (⟨·, earlier⟩), e.infoEnabled, e.result⟩

section Questioned

variable (earlier : List String)

@[simp] theorem result_questioned : (e.questioned earlier).result = e.result := rfl

@[simp] theorem trigger_questioned : (e.questioned earlier).trigger = e.trigger := rfl

@[simp] theorem dialect_questioned : (e.questioned earlier).dialect = e.dialect := rfl

theorem attempt_questioned :
    (e.questioned earlier).attempt line = (e.attempt line).questioned earlier := by
  cases hline : e.trigger.accepts line <;> simp [attempt, questioned, hline]

end Questioned

theorem toList_question?_of_read (hresult : e.result = none)
    (hline : e.trigger.accepts line = true) (hread : (e.dialect.read line).value.1 = .ok found) :
    (e.question? line).toList =
      if e.infoEnabled && found.hasCompiler then [found.compiler] else [] := by
  cases hinfo : e.infoEnabled <;> cases hcompiler : found.hasCompiler <;>
    simp [question?, accepted?, Except.toOption, hresult, hline, hread, hinfo, hcompiler]

variable [InfoSource σ]

/-- The source may be asked about the compiler of an invocation, and has information on it. -/
def Tells (e : Engine σ) (found : Invocation) (info : BuiltInInfo) : Prop :=
  e.infoEnabled = true ∧ found.compiler ≠ "" ∧
    ∃ s, e.source = some s ∧ (InfoSource.ask s found.compiler).value.1 = .ok (some info)

section Enrich

theorem value_enrich_of_asked {s : σ} (hinfo : e.infoEnabled = true) (hs : e.source = some s)
    (hcompiler : found.compiler ≠ "") :
    (e.enrich found).value = (found.applyAnswer (InfoSource.ask s found.compiler).value.1,
      some (InfoSource.ask s found.compiler).value.2) := by
  simp [enrich, hinfo, hs, Invocation.hasCompiler_iff.mpr hcompiler]

theorem value_enrich_of_unasked
    (h : e.infoEnabled = false ∨ e.source = none ∨ found.compiler = "") :
    (e.enrich found).value.1.1 = found ∧ (e.enrich found).value.2 = e.source := by
  cases hinfo : e.infoEnabled with
  | false => simp [enrich, hinfo]
  | true =>
      cases hs : e.source with
      | none => simp [enrich, hinfo, hs]
      | some s =>
          have hcompiler : found.hasCompiler = false := by
            simpa [hinfo, hs, Invocation.hasCompiler] using h
          simp [enrich, hinfo, hs, hcompiler]

theorem enrich_of_tells {info : BuiltInInfo} (h : e.Tells found info) :
    (e.enrich found).value.1.1 = found.enrich info := by
  obtain ⟨hinfo, hcompiler, s, hs, hanswer⟩ := h
  rw [value_enrich_of_asked hinfo hs hcompiler, hanswer]
  rfl

theorem enrich_of_not_tells (h : ∀ info, ¬ e.Tells found info) :
    (e.enrich found).value.1.1 = found := by
  by_cases hunasked : e.infoEnabled = false ∨ e.source = none ∨ found.compiler = ""
  · exact (value_enrich_of_unasked hunasked).1
  · simp only [not_or, Bool.not_eq_false] at hunasked
    obtain ⟨hinfo, hsource, hcompiler⟩ := hunasked
    obtain ⟨s, hs⟩ := Option.ne_none_iff_exists'.mp hsource
    rw [value_enrich_of_asked hinfo hs hcompiler]
    cases hanswer : (InfoSource.ask s found.compiler).value.1 with
    | error error => rfl
    | ok info? =>
        cases info? with
        | none => rfl
        | some info => exact absurd ⟨hinfo, hcompiler, s, hs, hanswer⟩ (h info)

/-- Enriching adds to the lists of include directories and defines, and to nothing else. -/
theorem enrich_keeps (e : Engine σ) (found : Invocation) :
    let held := (e.enrich found).value.1.1
    held.compiler = found.compiler ∧ held.options = found.options ∧ held.trash = found.trash ∧
      held.standard = found.standard := by
  by_cases htells : ∃ info, e.Tells found info
  · obtain ⟨info, htells⟩ := htells
    rw [enrich_of_tells htells]
    exact ⟨rfl, rfl, rfl, rfl⟩
  · rw [enrich_of_not_tells (not_exists.mp htells)]
    exact ⟨rfl, rfl, rfl, rfl⟩

end Enrich

theorem hold_questioned (earlier : List String) :
    (e.questioned earlier).hold found = (e.hold found).questioned
      (earlier ++ if e.infoEnabled && found.hasCompiler then [found.compiler] else []) := by
  cases hinfo : e.infoEnabled <;> cases hs : e.source <;> cases hcompiler : found.hasCompiler <;>
    simp [hold, enrich, questioned, hinfo, hs, hcompiler, InfoSource.ask]

/-- A line is passed over, attempted in vain, or read and held. -/
theorem value_matchLine (e : Engine σ) (line : String) :
    (e.matchLine line).value =
      if e.result.isSome then (.ok true, e)
      else if e.trigger.accepts line then
        match (e.dialect.read line).value.1 with
        | .error error => (.error error, e.attempt line)
        | .ok found => (.ok true, (e.attempt line).hold found)
      else (.ok false, e) := by
  unfold matchLine
  split
  · rfl
  · cases hline : e.trigger.accepts line with
    | false => simp [Trigger.value_test, hline]
    | true =>
        cases hread : (e.dialect.read line).value.1 with
        | error error => simp [Trigger.value_test, attempt, hline, hread]
        | ok found => simp [Trigger.value_test, attempt, hold, hline, hread]

/-- A memory of the questions changes nothing but itself. -/
theorem value_matchLine_questioned (earlier : List String) :
    ((e.questioned earlier).matchLine line).value =
      ((e.matchLine line).value.1,
        (e.matchLine line).value.2.questioned (earlier ++ (e.question? line).toList)) := by
  rw [value_matchLine, value_matchLine, attempt_questioned, result_questioned, trigger_questioned,
    dialect_questioned]
  cases hresult : e.result with
  | some held => simp [question?, hresult]
  | none =>
      cases hline : e.trigger.accepts line with
      | false => simp [question?, accepted?, hresult, hline]
      | true =>
          cases hread : (e.dialect.read line).value.1 with
          | error error => simp [question?, accepted?, Except.toOption, hresult, hline, hread]
          | ok found =>
              simp [hold_questioned, toList_question?_of_read hresult hline hread]

/-- Whatever the source answers, an engine that holds nothing holds what it reads in a line that its
trigger accepts: as it was read, but for the include directories and the defines of the compiler
behind its own where the source has any. The source is asked once then, about the compiler that was
read, if it may be asked and there is one; in no other call is it asked at all. -/
theorem built_in_info_is_only_appended (e : Engine σ) (line : String) :
    let after := (e.matchLine line).value
    ∃ asked, ((e.questioned []).matchLine line).value = (after.1, after.2.questioned asked) ∧
      (∀ held, e.result = some held → after = (.ok true, e) ∧ asked = []) ∧
      (e.result = none → e.trigger.accepts line = false → after = (.ok false, e) ∧ asked = []) ∧
      (∀ error, e.result = none → e.trigger.accepts line = true →
        (e.dialect.read line).value.1 = .error error →
        after = (.error error, { e with dialect := (e.dialect.read line).value.2 }) ∧
          asked = []) ∧
      ∀ found, e.result = none → e.trigger.accepts line = true →
        (e.dialect.read line).value.1 = .ok found →
        ∃ held source, after = (.ok true, { e with
            dialect := (e.dialect.read line).value.2, source, result := some held }) ∧
          (held.compiler = found.compiler ∧ held.options = found.options ∧
            held.trash = found.trash ∧ held.standard = found.standard) ∧
          (∀ info, e.Tells found info → held.includes = found.includes ++ info.includes ∧
            held.defines = found.defines ++ info.defines) ∧
          ((∀ info, ¬ e.Tells found info) → held = found) ∧
          (∀ s, e.source = some s → e.infoEnabled = true → found.compiler ≠ "" →
            asked = [found.compiler] ∧ source = some (InfoSource.ask s found.compiler).value.2) ∧
          (e.infoEnabled = false ∨ found.compiler = "" → asked = [] ∧ source = e.source) ∧
          (e.source = none → source = none) := by
  intro after
  have hafter : after = _ := value_matchLine e line
  refine ⟨(e.question? line).toList, value_matchLine_questioned [], ?_, ?_, ?_, ?_⟩
  · intro held hheld
    simp [hafter, question?, hheld]
  · intro hresult hline
    simp [hafter, question?, accepted?, hresult, hline]
  · intro error hresult hline hread
    simp [hafter, question?, accepted?, attempt, Except.toOption, hresult, hline, hread]
  · intro found hresult hline hread
    have hattempt : e.attempt line = { e with dialect := (e.dialect.read line).value.2 } :=
      if_pos hline
    have hhold : (e.attempt line).hold found = { e with
        dialect := (e.dialect.read line).value.2, source := (e.enrich found).value.2,
        result := some (e.enrich found).value.1.1 } := by
      rw [hattempt]
      rfl
    refine ⟨(e.enrich found).value.1.1, (e.enrich found).value.2, ?_, enrich_keeps e found, ?_,
      enrich_of_not_tells, ?_, ?_, ?_⟩
    · simp [hafter, hresult, hline, hread, hhold]
    · intro info htells
      rw [enrich_of_tells htells]
      exact ⟨rfl, rfl⟩
    · intro s hs hinfo hcompiler
      rw [value_enrich_of_asked hinfo hs hcompiler, toList_question?_of_read hresult hline hread,
        hinfo, Invocation.hasCompiler_iff.mpr hcompiler]
      exact ⟨rfl, rfl⟩
    · intro hunasked
      refine ⟨?_, (value_enrich_of_unasked (hunasked.imp_right .inr)).2⟩
      rw [toList_question?_of_read hresult hline hread]
      rcases hunasked with hinfo | hcompiler
      · simp [hinfo]
      · simp [Invocation.hasCompiler, hcompiler]
    · intro hsource
      exact (value_enrich_of_unasked (.inr (.inl hsource))).2.trans hsource

/-- A compiler that defines a macro, and the same engine once it has its result. -/
theorem built_in_info_is_only_appended_behind_define :
    let source := CachingSource.ofProbe fun _ _ => pure (.ok ⟨"#define A 1", ""⟩)
    let found : Invocation := { Invocation.empty with compiler := "g++", defines := ["B"] }
    let dialect : Dialect := .other "fixed" (fun _ _ => pure (.ok found)) []
    let e : Engine CachingSource := ⟨⟨[], []⟩, dialect, some source, true, none⟩
    e.result = none ∧ e.trigger.accepts "g++ -DB" = true ∧
      (e.dialect.read "g++ -DB").value.1 = .ok found ∧ e.Tells found ⟨[], ["A=1"]⟩ ∧
      ∃ held later, (e.matchLine "g++ -DB").value = (.ok true, later) ∧
        later.result = some held ∧ held.defines = ["B", "A=1"] ∧ held.compiler = "g++" ∧
        (∃ asked, ((e.questioned []).matchLine "g++ -DB").value =
          (.ok true, later.questioned asked) ∧ asked = ["g++"]) ∧
        (later.matchLine "-DC").value = (.ok true, later) := by
  intro source found dialect e
  have htells : e.Tells found ⟨[], ["A=1"]⟩ := ⟨rfl, by decide, source, rfl, by rfl⟩
  refine ⟨rfl, by decide, rfl, htells, ?_⟩
  obtain ⟨asked, hasked, _, _, _, hread⟩ := built_in_info_is_only_appended e "g++ -DB"
  obtain ⟨held, left, hafter, ⟨hcompiler, _⟩, hinfo, _, honce, _⟩ :=
    hread found rfl (by decide) rfl
  let later : Engine CachingSource :=
    { e with dialect := (e.dialect.read "g++ -DB").value.2, source := left, result := some held }
  refine ⟨held, later, hafter, rfl, (hinfo _ htells).2, hcompiler, ⟨asked, ?_, ?_⟩, ?_⟩
  · rw [hasked, hafter]
  · exact (honce source rfl rfl (by decide)).1
  · obtain ⟨_, _, hheld, _⟩ := built_in_info_is_only_appended later "-DC"
    exact (hheld held rfl).1

end Engine

end CompilerLog
