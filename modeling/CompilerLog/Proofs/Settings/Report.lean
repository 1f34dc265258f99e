import CompilerLog.Proofs.Settings.Violations
/-!
# Reports on settings

A report tells nothing, one violation or a list of them, and what it tells is the row of faults. A
`Finding` is a report that could hold joined ones: joining findings level by level, each time with
what was joined before taken apart by one level only, leaves none of them inside another one.
-/

namespace CompilerLog

/-- What a check finds, where what was joined can be joined again. -/
inductive Finding where
  | one (violation : Violation)
  | joined (findings : List Finding)

namespace Finding

/-- What was joined to a finding, or the finding itself. -/
def parts : Finding → List Finding
  | one violation => [one violation]
  | joined findings => findings

def ofList? : List Finding → Option Finding
  | [] => none
  | [finding] => some finding
  | findings => some (joined findings)

/-- Joins what checks found, with what was joined before taken apart by one level. -/
def join (results : List (Option Finding)) : Option Finding :=
  ofList? (results.flatMap fun result => result.toList.flatMap parts)

end Finding

namespace Report

def finding? : Report → Option Finding
  | valid => none
  | single violation => some (.one violation)
  | several violations => some (.joined (violations.map .one))

theorem parts_finding? (report : Report) :
    report.finding?.toList.flatMap Finding.parts = report.violations.map .one := by
  cases report <;> simp [finding?, violations, Finding.parts]

theorem finding?_ofList (violations : List Violation) :
    (ofList violations).finding? = Finding.ofList? (violations.map .one) := by
  match violations with
  | [] => rfl
  | [_] => rfl
  | _ :: _ :: _ => rfl

/-- Joining reports is joining what they find. -/
theorem join_map_finding? (reports : List Report) :
    Finding.join (reports.map finding?) = (all reports).finding? := by
  rw [all, finding?_ofList, Finding.join, List.flatMap_map, List.map_flatMap]
  exact congrArg (fun parts => Finding.ofList? (reports.flatMap parts)) (funext parts_finding?)

theorem ofList_eq_valid_iff {violations : List Violation} :
    ofList violations = .valid ↔ violations = [] := by
  match violations with
  | [] => simp [ofList]
  | [_] => simp [ofList]
  | _ :: _ :: _ => simp [ofList]

theorem ofList_eq_single_iff {violations : List Violation} {violation : Violation} :
    ofList violations = .single violation ↔ violations = [violation] := by
  match violations with
  | [] => simp [ofList]
  | [_] => simp [ofList]
  | _ :: _ :: _ => simp [ofList]

theorem ofList_eq_several_iff {violations listed : List Violation} :
    ofList violations = .several listed ↔ listed = violations ∧ 2 ≤ violations.length := by
  match violations with
  | [] => simp [ofList]
  | [_] => simp [ofList]
  | _ :: _ :: _ => simp [ofList, eq_comm]

end Report

section

variable (compile : RegexCompiler)

/-- What is found on the engine at a place. -/
def EngineSettings.finding? (place : Nat) (e : EngineSettings) : Option Finding :=
  let field := s!"parsers[{place}]"
  let found (field : String) (patterns : List Pattern) : List (Option Finding) :=
    patterns.zipIdx.map fun entry => (entry.1.validate compile s!"{field}[{entry.2}]").finding?
  Finding.join ((Report.require (e.required ≠ []) (.emptyList s!"{field}.match")).finding? ::
    found s!"{field}.match" e.required ++ found s!"{field}.dont_match" e.forbidden)

/-- What is found on settings, with the findings on each engine joined first. -/
def Settings.finding? (s : Settings) : Option Finding :=
  Finding.join ((Report.require (!s.engines.isEmpty) (.emptyList "parsers")).finding? ::
    (s.engines.zipIdx.map fun entry => entry.1.finding? compile entry.2) ++
    [s.output.validate.finding?])

theorem EngineSettings.finding?_eq (place : Nat) (e : EngineSettings) :
    e.finding? compile place = (e.validate compile place).finding? := by
  rw [validate, ← Report.join_map_finding?, Pattern.validateAll_eq, Pattern.validateAll_eq,
    List.map_append, List.map_cons, List.map_map, List.map_map]
  rfl

/-- What is found level by level is the report on the whole. -/
theorem Settings.finding?_eq (s : Settings) :
    s.finding? compile = (s.validate compile).finding? := by
  have hengines : s.engines.zipIdx.map (fun entry => entry.1.finding? compile entry.2) =
      (EngineSettings.validateAll compile 0 s.engines).map Report.finding? := by
    rw [EngineSettings.validateAll_eq, List.map_map]
    exact congrArg (List.map · s.engines.zipIdx)
      (funext fun entry => entry.1.finding?_eq compile entry.2)
  rw [validate, ← Report.join_map_finding?, List.map_append, List.map_cons, ← hengines]
  rfl

end

/-- Whatever expressions compile, settings are valid exactly when there is no fault. A single fault
is reported as it is, and several ones as the row of all faults, which is flat: joining what is
found on patterns, on engines and on the whole puts nothing that was joined into it. No two faults
name the same field. -/
theorem report_holds_each_fault_once (compile : RegexCompiler) (s : Settings) :
    (s.validate compile = .valid ↔ s.faults compile = []) ∧
    (∀ violation, s.validate compile = .single violation ↔ s.faults compile = [violation]) ∧
    (∀ violations, s.validate compile = .several violations ↔
      violations = s.faults compile ∧ 2 ≤ (s.faults compile).length) ∧
    ((s.faults compile).map Violation.field).Nodup ∧
    s.finding? compile = match s.faults compile with
      | [] => none
      | [violation] => some (.one violation)
      | violations => some (.joined (violations.map .one)) := by
  rw [s.finding?_eq, s.validate_eq]
  refine ⟨Report.ofList_eq_valid_iff, fun _ => Report.ofList_eq_single_iff,
    fun _ => Report.ofList_eq_several_iff, s.nodup_fields.sublist (s.fields_faults_sublist compile),
    ?_⟩
  match s.faults compile with
  | [] => rfl
  | [_] => rfl
  | _ :: _ :: _ => rfl

/-- One engine without a required pattern and with two broken ones, and a blank name. -/
example :
    let compile : RegexCompiler := fun expression =>
      if expression = "(unclosed" then .error "unclosed group" else .ok fun _ => true
    let e : EngineSettings :=
      { EngineSettings.gcc with required := [], forbidden := [.regex "(unclosed", .literal ""] }
    (⟨"1.0", [e], ⟨" ", .replace⟩⟩ : Settings).validate compile =
      .several [.emptyList "parsers[0].match",
        .invalidPattern "parsers[0].dont_match[0]" "unclosed group",
        .emptyText "parsers[0].dont_match[1]", .emptyText "properties.configuration"] := by
  decide +kernel

end CompilerLog
