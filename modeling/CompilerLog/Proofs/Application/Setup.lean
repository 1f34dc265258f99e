import CompilerLog.Application
import CompilerLog.Proofs.Settings.Patterns
import CompilerLog.Proofs.Text.Printed
/-!
# What an application cannot be set up with

Setting an application up stops at the first pattern that does not compile, and then at a blank
name; the report on settings goes on to the end. The two agree on what is wrong and on what comes
first, so that settings which a file is accepted with leave only one thing to fail: a blank name
among the arguments. All this holds whatever compiles; only the default settings need that their own
expressions do.
-/

namespace CompilerLog

/-- Why something failed, if it did. -/
def failure? {ε α : Type} : Except ε α → Option ε
  | .error error => some error
  | .ok _ => none

section Failure

variable {ε α β : Type}

theorem failure?_eq_some_iff {x : Except ε α} {error : ε} :
    failure? x = some error ↔ x = .error error := by
  cases x <;> simp [failure?]

theorem exists_ok_of_failure? {x : Except ε α} (h : failure? x = none) : ∃ a, x = .ok a := by
  cases x with
  | error error => cases h
  | ok a => exact ⟨a, rfl⟩

theorem failure?_bind (x : Except ε α) (f : α → Except ε β) :
    failure? (x >>= f) = match x with
      | .error error => some error
      | .ok a => failure? (f a) := by
  cases x <;> rfl

/-- Of what is done one after the other the first failure is that of the whole. -/
theorem failure?_mapM (f : α → Except ε β) (l : List α) :
    failure? (l.mapM f) = l.findSome? fun a => failure? (f a) := by
  induction l with
  | nil => rfl
  | cons a l ih =>
      rw [List.mapM_cons, List.findSome?_cons, failure?_bind]
      cases f a with
      | error error => rfl
      | ok b =>
          change failure? (l.mapM f >>= fun rest => pure (b :: rest)) =
            l.findSome? fun a => failure? (f a)
          rw [← ih]
          cases l.mapM f <;> rfl

theorem findSome?_flatMap (f : α → List β) (g : β → Option ε) (l : List α) :
    (l.flatMap f).findSome? g = l.findSome? fun a => (f a).findSome? g := by
  induction l with
  | nil => rfl
  | cons a l ih =>
      rw [List.flatMap_cons, List.findSome?_append, ih, List.findSome?_cons]
      cases (f a).findSome? g <;> rfl

end Failure

variable (compile : RegexCompiler)

theorem Pattern.failure?_search (field : String) (p : Pattern) :
    failure? (p.search compile) = (p.broken? compile field).map BrokenPattern.error := by
  cases p with
  | literal text => rfl
  | regex expression =>
      rw [search, broken?]
      cases compile expression <;> rfl

theorem Trigger.failure?_ofPatterns (required forbidden : List Pattern) :
    failure? (ofPatterns compile required forbidden) =
      (required ++ forbidden).findSome? fun p => failure? (p.search compile) := by
  rw [ofPatterns, failure?_bind, List.findSome?_append, ← failure?_mapM, ← failure?_mapM]
  cases required.mapM (Pattern.search compile) with
  | error error => rfl
  | ok required => cases forbidden.mapM (Pattern.search compile) <;> rfl

section

variable {σ : Type} (reader : TextReader) (source : σ)

theorem EngineSettings.failure?_engine (e : EngineSettings) (infoEnabled : Bool) :
    failure? (e.engine compile reader source infoEnabled) =
      (e.required ++ e.forbidden).findSome? fun p => failure? (p.search compile) := by
  rw [engine, failure?_bind, ← Trigger.failure?_ofPatterns]
  cases Trigger.ofPatterns compile e.required e.forbidden <;> rfl

/-- The engines are made in order, the first pattern at fault ends it. -/
theorem Settings.failure?_engines (s : Settings) (infoEnabled : Bool) :
    failure? (s.engines.mapM fun e => e.engine compile reader source infoEnabled) =
      (s.broken compile).head?.map BrokenPattern.error := by
  calc failure? (s.engines.mapM fun e => e.engine compile reader source infoEnabled)
      = s.engines.findSome? fun e =>
          (e.required ++ e.forbidden).findSome? fun p => failure? (p.search compile) := by
        rw [failure?_mapM]
        exact congrArg (s.engines.findSome? ·)
          (funext fun e => e.failure?_engine compile reader source infoEnabled)
    _ = (s.namedPatterns.map Prod.snd).findSome? fun p => failure? (p.search compile) := by
        rw [s.map_snd_namedPatterns, findSome?_flatMap]
    _ = s.namedPatterns.findSome? fun entry =>
          (entry.2.broken? compile entry.1).map BrokenPattern.error := by
        rw [List.findSome?_map]
        exact congrArg (s.namedPatterns.findSome? ·)
          (funext fun entry => entry.2.failure?_search compile entry.1)
    _ = (s.broken compile).head?.map BrokenPattern.error := by
        rw [broken, List.head?_filterMap, List.map_findSome?]
        rfl

/-- Broken patterns come before the name. -/
theorem Application.failure?_configure (a : Arguments) (s : Settings) :
    failure? (configure compile reader source a s).value =
      ((s.broken compile).head?.map fun b => SetupError.trigger b.error).or
        (if Text.trim (a.name.getD s.output.configuration) = "" then some .emptyName
          else none) := by
  have hengines := s.failure?_engines compile reader source a.infoEnabled
  cases hbroken : s.broken compile with
  | cons b rest =>
      rw [hbroken] at hengines
      rw [configure, failure?_eq_some_iff.mp hengines]
      rfl
  | nil =>
      rw [hbroken] at hengines
      obtain ⟨engines, hengines⟩ := exists_ok_of_failure? hengines
      rw [configure, hengines]
      by_cases hblank : Text.isAllBlank (a.name.getD s.output.configuration) = true
      · simp [effectiveName, hblank, (Text.trim_eq_empty_iff _).mpr hblank, failure?]
      · simp [effectiveName, hblank, (Text.trim_eq_empty_iff _).not.mpr hblank, failure?]

end

namespace Settings

variable {compile} {decode : SettingsDecoder} {s : Settings}

theorem validate_of_ofFile {path : String} {node : FileNode}
    (h : ofFile compile decode path node = .ok s) : s.validate compile = .valid := by
  simp only [ofFile] at h
  split at h
  · cases h
  · split at h
    · rename_i hvalid
      cases h
      exact hvalid
    · cases h

theorem validate_of_loadFile {tree : FileTree} {path : String}
    (h : (loadFile compile decode tree path).value = .ok s) : s.validate compile = .valid := by
  simp only [loadFile, Logged.value_bind, Logged.value_pure] at h
  split at h
  · cases h
  · exact validate_of_ofFile h

/-- The name in settings that are valid is not blank, so that only one among the arguments can be.
-/
theorem blank_name_iff_of_valid {a : Arguments} (h : s.validate compile = .valid) :
    Text.trim (a.name.getD s.output.configuration) = "" ↔
      ∃ name, a.name = some name ∧ Text.trim name = "" := by
  cases a.name with
  | none => simp [Text.trim_eq_empty_iff, not_isAllBlank_of_valid h]
  | some name => simp

/-- Whether the expressions of the default settings compile. Nothing checks these settings where no
file is found, so that a compiler of expressions has to accept them. -/
def DefaultsCompile (compile : RegexCompiler) : Prop :=
  ∀ expression, .regex expression ∈ EngineSettings.gcc.required ++ EngineSettings.gcc.forbidden →
    ∃ isFound, compile expression = .ok isFound

theorem validate_default (h : DefaultsCompile compile) : default.validate compile = .valid := by
  have hpatterns : (EngineSettings.gcc.namedPatterns 0).filterMap
      (fun entry => entry.2.fault? compile entry.1) = [] := by
    rw [List.filterMap_eq_nil_iff]
    intro entry hentry
    have hmem : entry.2 ∈ EngineSettings.gcc.required ++ EngineSettings.gcc.forbidden := by
      rw [← EngineSettings.gcc.map_snd_namedPatterns 0]
      exact List.mem_map_of_mem hentry
    cases hp : entry.2 with
    | literal text =>
        rw [hp] at hmem
        simp [EngineSettings.gcc] at hmem
    | regex expression =>
        rw [hp] at hmem
        obtain ⟨isFound, hcompiled⟩ := h expression hmem
        rw [Pattern.fault?, hcompiled]
  have hengine : EngineSettings.gcc.faults compile 0 = [] := by
    rw [EngineSettings.faults, hpatterns]
    rfl
  have hname : Text.trim OutputSettings.default.configuration ≠ "" := by decide
  have hfaults : default.faults compile = [] := by simp [faults, default, hengine, hname]
  rw [validate_eq, hfaults]
  rfl

theorem validate_of_loadFirst (hdefault : s = default → DefaultsCompile compile)
    {tree : FileTree} {paths : List String}
    (h : (loadFirst compile decode tree paths).value = .ok s) : s.validate compile = .valid := by
  induction paths with
  | nil =>
      cases h
      exact validate_default (hdefault rfl)
  | cons path paths ih =>
      simp only [loadFirst, Logged.value_bind] at h
      split at h
      · exact validate_of_loadFile h
      · exact ih h

theorem validate_of_load (hdefault : s = default → DefaultsCompile compile)
    {directories : SettingsDirectories} {tree : FileTree} {directory : String} {path : Option String}
    (h : (load compile decode directories tree directory path).value = .ok s) :
    s.validate compile = .valid := by
  cases path with
  | some path => exact validate_of_loadFile h
  | none => exact validate_of_loadFirst hdefault h

/-- Settings that come from a file are valid, and so are all that are loaded if the defaults are. -/
theorem validate_of_loaded
    (h : (∃ decode tree path, (loadFile compile decode tree path).value = .ok s) ∨
      (∃ decode directories tree directory path,
        (load compile decode directories tree directory path).value = .ok s) ∧
        (s = default → DefaultsCompile compile)) :
    s.validate compile = .valid := by
  rcases h with ⟨_, _, _, hload⟩ | ⟨⟨_, _, _, _, _, hload⟩, hdefault⟩
  · exact validate_of_loadFile hload
  · exact validate_of_load hdefault hload

end Settings

namespace Application

variable {σ : Type}

/-- Whatever compiles, setting up fails with the first pattern that does not, engine by engine and
the required ones before the forbidden ones; otherwise with the name that counts, if that is blank;
and otherwise it succeeds. The report on the settings calls the same patterns invalid, in the same
order. Settings that were loaded leave nothing to fail but a blank name among the arguments; for the
default ones, which need no file, this takes that their expressions compile. -/
theorem configure_fails_as_reported (compile : RegexCompiler) (reader : TextReader) (source : σ)
    (a : Arguments) (s : Settings) :
    let configured := (configure compile reader source a s).value
    let name := a.name.getD s.output.configuration
    (∀ error, configured = .error (.trigger error) ↔
      ∃ b, (s.broken compile).head? = some b ∧ b.error = error) ∧
    (configured = .error .emptyName ↔ s.broken compile = [] ∧ Text.trim name = "") ∧
    ((∃ app, configured = .ok app) ↔ s.broken compile = [] ∧ Text.trim name ≠ "") ∧
    ((∃ field fault, .invalidPattern field fault ∈ (s.validate compile).violations) ↔
      ∃ error, configured = .error (.trigger error)) ∧
    (s.validate compile).violations.filter Violation.isInvalidPattern =
      (s.broken compile).map BrokenPattern.violation ∧
    ((∃ decode tree path, (Settings.loadFile compile decode tree path).value = .ok s) ∨
        (∃ decode directories tree directory path,
          (Settings.load compile decode directories tree directory path).value = .ok s) ∧
          (s = default → Settings.DefaultsCompile compile) →
      ∀ error, configured = .error error ↔
        error = .emptyName ∧ ∃ name, a.name = some name ∧ Text.trim name = "") := by
  intro configured name
  have hfailure : failure? configured =
      ((s.broken compile).head?.map fun b => SetupError.trigger b.error).or
        (if Text.trim name = "" then some .emptyName else none) :=
    failure?_configure compile reader source a s
  have herror (error : SetupError) : configured = .error error ↔ failure? configured = some error :=
    failure?_eq_some_iff.symm
  have hok : (∃ app, configured = .ok app) ↔ failure? configured = none := by
    cases configured <;> simp [failure?]
  rw [hok, s.exists_invalidPattern_iff, s.filter_violations_validate]
  simp only [herror, hfailure]
  cases hbroken : s.broken compile with
  | cons b rest =>
      refine ⟨fun error => ?_, by simp, by simp, by simp, trivial, fun hload => ?_⟩
      · simp
      · rw [Settings.broken_eq_nil_of_valid (Settings.validate_of_loaded hload)] at hbroken
        cases hbroken
  | nil =>
      refine ⟨by simp, by simp, by simp, by simp, trivial, fun hload error => ?_⟩
      have hblank : Text.trim name = "" ↔ ∃ name, a.name = some name ∧ Text.trim name = "" :=
        Settings.blank_name_iff_of_valid (Settings.validate_of_loaded hload)
      rw [← hblank]
      by_cases hname : Text.trim name = ""
      · simp [hname, eq_comm]
      · simp [hname]

/-- With the default settings, which nothing is found in place of, a blank name fails; with broken
patterns in the settings it is the first of them. Expressions compile unless a group in them stays
open, and nothing is searched for. -/
theorem configure_fails_as_reported_of_blank_argument :
    let compile : RegexCompiler := fun expression =>
      if expression = "(a" ∨ expression = "(b" then .error "unclosed group" else .ok fun _ => false
    let decode : SettingsDecoder := fun _ => .error "missing field"
    let reader : TextReader := fun _ => .error (.ofSystem .notFound)
    let a : Arguments := ⟨none, "-", "p.json", some " ", none, true⟩
    let e : EngineSettings :=
      { EngineSettings.unset with required := [.literal "g++ "], forbidden := [.regex "(a"] }
    let e' : EngineSettings := { EngineSettings.unset with required := [.regex "(b"] }
    let s : Settings := { Settings.default with engines := [e, e'] }
    Settings.DefaultsCompile compile ∧
      (Settings.load compile decode ⟨none, none⟩ (FileTree.empty ["work"]) "." a.config).value =
        .ok Settings.default ∧
      (configure compile reader () a Settings.default).value = .error .emptyName ∧
      s.broken compile = [⟨"parsers[0].dont_match[0]", "(a", "unclosed group"⟩,
        ⟨"parsers[1].match[0]", "(b", "unclosed group"⟩] ∧
      (configure compile reader () a s).value =
        .error (.trigger (.invalidPattern "(a" "unclosed group")) := by
  intro compile decode reader a e e' s
  have hdefault : Settings.DefaultsCompile compile := by
    intro expression hmem
    have hexpression : expression ≠ "(a" ∧ expression ≠ "(b" := by
      constructor <;> rintro rfl <;> simp [EngineSettings.gcc] at hmem
    exact ⟨_, if_neg (by simpa using hexpression)⟩
  have hload : (Settings.load compile decode ⟨none, none⟩ (FileTree.empty ["work"]) "."
      a.config).value = .ok Settings.default := by rfl
  obtain ⟨_, _, _, _, _, hblank⟩ := configure_fails_as_reported compile reader () a Settings.default
  have hbroken : s.broken compile = [⟨"parsers[0].dont_match[0]", "(a", "unclosed group"⟩,
      ⟨"parsers[1].match[0]", "(b", "unclosed group"⟩] := by decide +kernel
  obtain ⟨hfirst, _⟩ := configure_fails_as_reported compile reader () a s
  refine ⟨hdefault, hload, ?_, hbroken, (hfirst _).mpr ⟨_, by rw [hbroken]; rfl, rfl⟩⟩
  exact (hblank (.inr ⟨⟨_, _, _, _, _, hload⟩, fun _ => hdefault⟩) _).mpr ⟨rfl, " ", rfl, by decide⟩

end Application

end CompilerLog
