import CompilerLog.Proofs.Text.Printed
import CompilerLog.Settings.Validation
import Mathlib.Data.List.Flatten
import Mathlib.Data.List.Nodup
/-!
# What is wrong with settings

`Settings.faults` tells in one row what is wrong with settings, each fault with the field it stands
in. The report on settings is made of reports on their parts, which are made of reports on patterns;
wherever reports are joined they are taken apart first, so that the whole row comes out, flat and in
order, and no field is in it twice.
-/

namespace CompilerLog

/-- The patterns of a field with their places. -/
def Pattern.named (field : String) (patterns : List Pattern) : List (String × Pattern) :=
  patterns.zipIdx.map fun entry => (s!"{field}[{entry.2}]", entry.1)

/-- The patterns of the engine at a place, each with its field. -/
def EngineSettings.namedPatterns (place : Nat) (e : EngineSettings) : List (String × Pattern) :=
  let field := s!"parsers[{place}]"
  Pattern.named s!"{field}.match" e.required ++ Pattern.named s!"{field}.dont_match" e.forbidden

section

variable (compile : RegexCompiler)

/-- What is wrong with a pattern in a field. -/
def Pattern.fault? (field : String) : Pattern → Option Violation
  | .literal text => if text = "" then some (.emptyText field) else none
  | .regex expression =>
    match compile expression with
    | .ok _ => none
    | .error fault => some (.invalidPattern field fault)

/-- What is wrong with the engine at a place. -/
def EngineSettings.faults (place : Nat) (e : EngineSettings) : List Violation :=
  let field := s!"parsers[{place}]"
  (if e.required = [] then [.emptyList s!"{field}.match"] else []) ++
    (e.namedPatterns place).filterMap fun entry => entry.2.fault? compile entry.1

/-- What is wrong with settings: a missing engine, engine by engine what is wrong with it, and a
name that is blank. -/
def Settings.faults (s : Settings) : List Violation :=
  (if s.engines = [] then [.emptyList "parsers"] else []) ++
    (s.engines.zipIdx.flatMap fun entry => entry.1.faults compile entry.2) ++
    if Text.trim s.output.configuration = "" then [.emptyText "properties.configuration"] else []

end

/-! ## The row of faults -/

namespace Report

theorem violations_require (condition : Bool) (violation : Violation) :
    (require condition violation).violations = if condition then [] else [violation] := by
  cases condition <;> rfl

theorem violations_all (reports : List Report) :
    (all reports).violations = reports.flatMap violations :=
  violations_ofList _

end Report

section

variable (compile : RegexCompiler)

theorem Pattern.violations_validate (field : String) (p : Pattern) :
    (p.validate compile field).violations = (p.fault? compile field).toList := by
  cases p with
  | literal text =>
      rw [validate, Report.violations_require, fault?]
      by_cases htext : text = "" <;> simp [htext]
  | regex expression =>
      rw [validate, fault?]
      cases compile expression <;> rfl

theorem Pattern.validateAll_eq (field : String) (place : Nat) (patterns : List Pattern) :
    validateAll compile field place patterns =
      (patterns.zipIdx place).map fun entry => entry.1.validate compile s!"{field}[{entry.2}]" := by
  induction patterns generalizing place with
  | nil => rfl
  | cons p patterns ih => rw [validateAll, ih, List.zipIdx_cons, List.map_cons]

theorem Pattern.violations_validateAll (field : String) (patterns : List Pattern) :
    (validateAll compile field 0 patterns).flatMap Report.violations =
      (named field patterns).filterMap fun entry => entry.2.fault? compile entry.1 := by
  rw [validateAll_eq, List.flatMap_map, named, List.filterMap_map, List.filterMap_eq_flatMap_toList]
  exact congrArg (patterns.zipIdx.flatMap ·)
    (funext fun entry => violations_validate compile _ entry.1)

theorem EngineSettings.violations_validate (place : Nat) (e : EngineSettings) :
    (e.validate compile place).violations = e.faults compile place := by
  rw [validate, Report.violations_all, List.cons_append, List.flatMap_cons, List.flatMap_append,
    Pattern.violations_validateAll, Pattern.violations_validateAll, ← List.filterMap_append,
    Report.violations_require, faults]
  by_cases hrequired : e.required = [] <;> simp [hrequired, namedPatterns]

theorem EngineSettings.validateAll_eq (place : Nat) (engines : List EngineSettings) :
    validateAll compile place engines =
      (engines.zipIdx place).map fun entry => entry.1.validate compile entry.2 := by
  induction engines generalizing place with
  | nil => rfl
  | cons e engines ih => rw [validateAll, ih, List.zipIdx_cons, List.map_cons]

theorem OutputSettings.violations_validate (o : OutputSettings) :
    o.validate.violations =
      if Text.trim o.configuration = "" then [.emptyText "properties.configuration"] else [] := by
  rw [validate, Report.violations_require]
  by_cases hblank : Text.isAllBlank o.configuration = true
  · simp [hblank, (Text.trim_eq_empty_iff _).mpr hblank]
  · simp [hblank, (Text.trim_eq_empty_iff _).not.mpr hblank]

/-- The report is that on the faults, whatever the parts were reported as. -/
theorem Settings.validate_eq (s : Settings) : s.validate compile = .ofList (s.faults compile) := by
  have hengines : (EngineSettings.validateAll compile 0 s.engines).flatMap Report.violations =
      s.engines.zipIdx.flatMap fun entry => entry.1.faults compile entry.2 := by
    rw [EngineSettings.validateAll_eq, List.flatMap_map]
    exact congrArg (s.engines.zipIdx.flatMap ·)
      (funext fun entry => entry.1.violations_validate compile entry.2)
  rw [validate, Report.all, faults, List.cons_append, List.flatMap_cons, List.flatMap_append,
    List.flatMap_singleton, hengines, OutputSettings.violations_validate,
    Report.violations_require, List.append_assoc]
  by_cases hnone : s.engines = [] <;> simp [hnone]

theorem Settings.violations_validate (s : Settings) :
    (s.validate compile).violations = s.faults compile := by
  rw [validate_eq, Report.violations_ofList]

end

/-! ## A field for each fault -/

/-- The fields in which something can be wrong with the engine at a place. -/
def EngineSettings.fields (place : Nat) (e : EngineSettings) : List String :=
  let field := s!"parsers[{place}]"
  s!"{field}.match" :: (e.namedPatterns place).map Prod.fst

/-- The fields in which something can be wrong. -/
def Settings.fields (s : Settings) : List String :=
  "parsers" :: (s.engines.zipIdx.flatMap fun entry => entry.1.fields entry.2) ++
    ["properties.configuration"]

theorem Pattern.field_of_fault? {compile : RegexCompiler} {field : String} {p : Pattern}
    {violation : Violation} (h : p.fault? compile field = some violation) :
    violation.field = field := by
  cases p with
  | literal text =>
      obtain ⟨_, rfl⟩ : text = "" ∧ .emptyText field = violation := by simpa [fault?] using h
      rfl
  | regex expression =>
      rw [fault?] at h
      cases hcompiled : compile expression with
      | ok isFound =>
          rw [hcompiled] at h
          cases h
      | error fault =>
          rw [hcompiled] at h
          cases h
          rfl

variable (compile : RegexCompiler)

theorem fields_patternFaults_sublist (entries : List (String × Pattern)) :
    ((entries.filterMap fun entry => entry.2.fault? compile entry.1).map Violation.field).Sublist
      (entries.map Prod.fst) := by
  induction entries with
  | nil => exact List.Sublist.slnil
  | cons entry entries ih =>
      rw [List.filterMap_cons, List.map_cons]
      cases hfault : entry.2.fault? compile entry.1 with
      | none => exact ih.cons _
      | some violation =>
          rw [List.map_cons, Pattern.field_of_fault? hfault]
          exact ih.cons_cons _

theorem fields_single_sublist (condition : Prop) [Decidable condition] (violation : Violation) :
    ((if condition then [violation] else []).map Violation.field).Sublist [violation.field] := by
  split
  · exact List.Sublist.refl _
  · exact List.nil_sublist _

theorem EngineSettings.fields_faults_sublist (place : Nat) (e : EngineSettings) :
    ((e.faults compile place).map Violation.field).Sublist (e.fields place) := by
  rw [faults, List.map_append]
  exact (fields_single_sublist _ _).append (fields_patternFaults_sublist compile _)

theorem Settings.fields_faults_sublist (s : Settings) :
    ((s.faults compile).map Violation.field).Sublist s.fields := by
  have hengines : ((s.engines.zipIdx.flatMap fun entry => entry.1.faults compile entry.2).map
      Violation.field).Sublist (s.engines.zipIdx.flatMap fun entry => entry.1.fields entry.2) := by
    rw [List.map_flatMap]
    exact List.Sublist.flatMap_right _ fun entry _ =>
      entry.1.fields_faults_sublist compile entry.2
  rw [faults, List.map_append, List.map_append]
  exact ((fields_single_sublist _ _).append hengines).append (fields_single_sublist _ _)

/-! ## Fields are told apart -/

theorem toDigits_injective {i k : Nat} (h : Nat.toDigits 10 i = Nat.toDigits 10 k) : i = k := by
  rw [← Nat.ofDigitChars_ten_toDigits (n := i), h, Nat.ofDigitChars_ten_toDigits]

/-- A number ends where the bracket behind it closes. -/
theorem toDigits_append_unique {i k : Nat} {rest other : List Char}
    (h : Nat.toDigits 10 i ++ ']' :: rest = Nat.toDigits 10 k ++ ']' :: other) :
    i = k ∧ rest = other := by
  have htake (n : Nat) (text : List Char) :
      (Nat.toDigits 10 n ++ ']' :: text).takeWhile Char.isDigit = Nat.toDigits 10 n := by
    have hdigits : ∀ c ∈ Nat.toDigits 10 n, c.isDigit = true := fun c hc =>
      Nat.isDigit_of_mem_toDigits (by decide) (by decide) hc
    rw [List.takeWhile_append_of_pos hdigits, List.takeWhile_cons_of_neg (by decide),
      List.append_nil]
  obtain rfl : i = k := toDigits_injective (by rw [← htake i rest, h, htake k other])
  simpa using h

theorem enginePath_unique {i k : Nat} {rest other : String}
    (h : s!"parsers[{i}]" ++ rest = s!"parsers[{k}]" ++ other) : i = k ∧ rest = other := by
  have hchars : Nat.toDigits 10 i ++ ']' :: rest.toList =
      Nat.toDigits 10 k ++ ']' :: other.toList := by
    simpa [toString] using congrArg String.toList h
  obtain ⟨hplace, hrest⟩ := toDigits_append_unique hchars
  exact ⟨hplace, String.toList_inj.mp hrest⟩

theorem isPrefix_enginePath (place : Nat) (rest : String) :
    "parsers[".toList <+: (s!"parsers[{place}]" ++ rest).toList :=
  ⟨(toString place ++ "]" ++ rest).toList, by simp [toString]⟩

theorem entryPath_injective (field : String) :
    Function.Injective fun place : Nat => s!"{field}[{place}]" := by
  intro i k h
  exact toDigits_injective (by simpa using congrArg String.toList h)

theorem entryPath_ne_self (field : String) (place : Nat) : s!"{field}[{place}]" ≠ field := by
  intro h
  have hchars := congrArg String.toList h
  simp [toString] at hchars

theorem Pattern.map_fst_named (field : String) (patterns : List Pattern) :
    (Pattern.named field patterns).map Prod.fst =
      (List.range' 0 patterns.length).map fun place => s!"{field}[{place}]" := by
  rw [named, List.map_map, ← List.zipIdx_map_snd, List.map_map]
  rfl

theorem Pattern.nodup_map_fst_named (field : String) (patterns : List Pattern) :
    ((Pattern.named field patterns).map Prod.fst).Nodup := by
  rw [map_fst_named]
  exact List.Nodup.map (entryPath_injective field) List.nodup_range'

theorem Pattern.exists_of_mem_map_fst_named {field path : String} {patterns : List Pattern}
    (h : path ∈ (Pattern.named field patterns).map Prod.fst) :
    ∃ place : Nat, path = s!"{field}[{place}]" := by
  rw [map_fst_named] at h
  obtain ⟨place, _, rfl⟩ := List.mem_map.mp h
  exact ⟨place, rfl⟩

namespace EngineSettings

/-- What stands behind the place of the engine in a field of it. -/
theorem exists_of_mem_fields {place : Nat} {e : EngineSettings} {path : String}
    (h : path ∈ e.fields place) : ∃ rest, path = s!"parsers[{place}]" ++ rest := by
  rw [fields, namedPatterns, List.map_append, List.mem_cons, List.mem_append] at h
  rcases h with rfl | h | h
  · exact ⟨_, rfl⟩
  · obtain ⟨k, rfl⟩ := Pattern.exists_of_mem_map_fst_named h
    exact ⟨s!".match[{k}]", String.toList_inj.mp (by simp [toString])⟩
  · obtain ⟨k, rfl⟩ := Pattern.exists_of_mem_map_fst_named h
    exact ⟨s!".dont_match[{k}]", String.toList_inj.mp (by simp [toString])⟩

theorem nodup_fields (place : Nat) (e : EngineSettings) : (e.fields place).Nodup := by
  rw [fields, namedPatterns, List.map_append, List.nodup_cons, List.nodup_append, List.mem_append,
    not_or]
  refine ⟨⟨?_, ?_⟩, Pattern.nodup_map_fst_named _ _, Pattern.nodup_map_fst_named _ _, ?_⟩
  · intro h
    obtain ⟨k, heq⟩ := Pattern.exists_of_mem_map_fst_named h
    exact entryPath_ne_self _ _ heq.symm
  · intro h
    obtain ⟨k, heq⟩ := Pattern.exists_of_mem_map_fst_named h
    have hchars := congrArg String.toList heq
    simp [toString] at hchars
  · intro path hrequired other hforbidden heq
    obtain ⟨i, rfl⟩ := Pattern.exists_of_mem_map_fst_named hrequired
    obtain ⟨k, rfl⟩ := Pattern.exists_of_mem_map_fst_named hforbidden
    have hchars := congrArg String.toList heq
    simp [toString] at hchars

end EngineSettings

theorem Settings.nodup_fields (s : Settings) : s.fields.Nodup := by
  have hplaces : s.engines.zipIdx.Pairwise fun entry other => entry.2 ≠ other.2 := by
    rw [← List.pairwise_map, List.zipIdx_map_snd]
    exact List.nodup_range'
  have hengines : (s.engines.zipIdx.flatMap fun entry => entry.1.fields entry.2).Nodup := by
    refine List.nodup_flatMap.mpr ⟨fun entry _ => entry.1.nodup_fields entry.2, ?_⟩
    refine hplaces.imp fun hne => List.disjoint_left.mpr fun path hpath hother => hne ?_
    obtain ⟨rest, rfl⟩ := EngineSettings.exists_of_mem_fields hpath
    obtain ⟨other, heq⟩ := EngineSettings.exists_of_mem_fields hother
    exact (enginePath_unique heq).1
  have hother {path : String} (hpath : ¬"parsers[".toList <+: path.toList) :
      path ∉ s.engines.zipIdx.flatMap fun entry => entry.1.fields entry.2 := by
    intro hmem
    obtain ⟨entry, _, hentry⟩ := List.mem_flatMap.mp hmem
    obtain ⟨rest, rfl⟩ := EngineSettings.exists_of_mem_fields hentry
    exact hpath (isPrefix_enginePath entry.2 rest)
  have hfirst : "parsers" ∉ s.engines.zipIdx.flatMap fun entry => entry.1.fields entry.2 :=
    hother (by decide)
  have hlast : "properties.configuration" ∉
      s.engines.zipIdx.flatMap fun entry => entry.1.fields entry.2 :=
    hother (by decide)
  rw [fields, List.cons_append, List.nodup_cons, List.mem_append, List.nodup_append]
  refine ⟨by simpa using hfirst, hengines, List.nodup_singleton _, ?_⟩
  intro path hpath last hmem heq
  obtain rfl : last = "properties.configuration" := List.mem_singleton.mp hmem
  exact hlast (heq ▸ hpath)

end CompilerLog
