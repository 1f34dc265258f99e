import CompilerLog.Proofs.Settings.Violations
/-!
# The patterns of settings

Settings hold patterns in lists within lists. `Settings.namedPatterns` puts them in one row, engine
by engine and the required ones before the forbidden ones, each with the field it stands in. The
search for what does not compile and the report on the whole both run along this row.
-/

namespace CompilerLog

/-- A pattern that does not compile: the field it stands in, its expression, and what is wrong with
that. -/
structure BrokenPattern where
  field : String
  expression : String
  fault : String
  deriving DecidableEq, Repr

namespace BrokenPattern

/-- How the report on settings tells of it. -/
def violation (b : BrokenPattern) : Violation := .invalidPattern b.field b.fault

/-- How making a trigger fails with it. -/
def error (b : BrokenPattern) : TriggerError := .invalidPattern b.expression b.fault

end BrokenPattern

def Violation.isInvalidPattern : Violation → Bool
  | .invalidPattern _ _ => true
  | _ => false

/-- The patterns of all engines, in order, each with its field. -/
def Settings.namedPatterns (s : Settings) : List (String × Pattern) :=
  s.engines.zipIdx.flatMap fun entry => entry.1.namedPatterns entry.2

theorem EngineSettings.map_snd_namedPatterns (place : Nat) (e : EngineSettings) :
    (e.namedPatterns place).map Prod.snd = e.required ++ e.forbidden := by
  have hnamed (field : String) (patterns : List Pattern) :
      (Pattern.named field patterns).map Prod.snd = patterns := by
    rw [Pattern.named, List.map_map]
    exact List.zipIdx_map_fst 0 patterns
  rw [namedPatterns, List.map_append, hnamed, hnamed]

theorem Settings.map_snd_namedPatterns (s : Settings) :
    s.namedPatterns.map Prod.snd = s.engines.flatMap fun e => e.required ++ e.forbidden := by
  calc s.namedPatterns.map Prod.snd
      = s.engines.zipIdx.flatMap fun entry => entry.1.required ++ entry.1.forbidden := by
        rw [namedPatterns, List.map_flatMap]
        exact congrArg (s.engines.zipIdx.flatMap ·)
          (funext fun entry => entry.1.map_snd_namedPatterns entry.2)
    _ = (s.engines.zipIdx.map Prod.fst).flatMap fun e => e.required ++ e.forbidden := by
        rw [List.flatMap_map]
    _ = s.engines.flatMap fun e => e.required ++ e.forbidden := by rw [List.zipIdx_map_fst]

variable (compile : RegexCompiler)

def Pattern.broken? (field : String) : Pattern → Option BrokenPattern
  | .literal _ => none
  | .regex expression =>
    match compile expression with
    | .ok _ => none
    | .error fault => some ⟨field, expression, fault⟩

/-- The patterns that do not compile, in order. -/
def Settings.broken (s : Settings) : List BrokenPattern :=
  s.namedPatterns.filterMap fun entry => entry.2.broken? compile entry.1

theorem Pattern.filter_fault? (field : String) (p : Pattern) :
    (p.fault? compile field).filter Violation.isInvalidPattern =
      (p.broken? compile field).map BrokenPattern.violation := by
  cases p with
  | literal text =>
      by_cases htext : text = "" <;> simp [fault?, broken?, htext, Violation.isInvalidPattern]
  | regex expression =>
      rw [fault?, broken?]
      cases compile expression <;> rfl

theorem filter_single {violation : Violation} (h : violation.isInvalidPattern = false)
    (condition : Prop) [Decidable condition] :
    (if condition then [violation] else []).filter Violation.isInvalidPattern = [] := by
  split
  · simp [h]
  · rfl

theorem EngineSettings.filter_faults (place : Nat) (e : EngineSettings) :
    (e.faults compile place).filter Violation.isInvalidPattern =
      ((e.namedPatterns place).filterMap fun entry => entry.2.broken? compile entry.1).map
        BrokenPattern.violation := by
  rw [faults, List.filter_append, filter_single rfl, List.nil_append, List.filter_filterMap,
    List.map_filterMap]
  exact congrArg (List.filterMap · (e.namedPatterns place))
    (funext fun entry => entry.2.filter_fault? compile entry.1)

namespace Settings

/-- The report calls those patterns invalid that do not compile, in their order. -/
theorem filter_violations_validate (s : Settings) :
    (s.validate compile).violations.filter Violation.isInvalidPattern =
      (s.broken compile).map BrokenPattern.violation := by
  have hengines : (s.engines.zipIdx.flatMap fun entry => entry.1.faults compile entry.2).filter
      Violation.isInvalidPattern = (s.broken compile).map BrokenPattern.violation := by
    rw [broken, namedPatterns, List.filterMap_flatMap, List.map_flatMap, List.filter_flatMap]
    exact congrArg (s.engines.zipIdx.flatMap ·)
      (funext fun entry => entry.1.filter_faults compile entry.2)
  rw [violations_validate, faults, List.filter_append, List.filter_append, hengines,
    filter_single rfl, filter_single rfl, List.nil_append, List.append_nil]

/-- Something is called invalid in the report just where a pattern does not compile. -/
theorem exists_invalidPattern_iff (s : Settings) :
    (∃ field fault, .invalidPattern field fault ∈ (s.validate compile).violations) ↔
      s.broken compile ≠ [] := by
  rw [← not_iff_not, not_not, ← List.map_eq_nil_iff (f := BrokenPattern.violation),
    ← s.filter_violations_validate, List.filter_eq_nil_iff]
  constructor
  · intro hnone violation hmem
    cases violation with
    | invalidPattern field fault => exact absurd ⟨field, fault, hmem⟩ hnone
    | _ => nofun
  · rintro hnone ⟨field, fault, hmem⟩
    exact hnone _ hmem rfl

variable {compile} {s : Settings}

theorem broken_eq_nil_of_valid (h : s.validate compile = .valid) : s.broken compile = [] := by
  have hbroken := s.filter_violations_validate compile
  rw [h] at hbroken
  exact List.map_eq_nil_iff.mp hbroken.symm

theorem not_isAllBlank_of_valid (h : s.validate compile = .valid) :
    Text.isAllBlank s.output.configuration = false := by
  have hfaults : s.faults compile = [] := by rw [← violations_validate, h]; rfl
  have hname : Text.trim s.output.configuration ≠ "" := by
    intro hblank
    simp [faults, hblank] at hfaults
  simpa [Text.trim_eq_empty_iff] using hname

end Settings

end CompilerLog
