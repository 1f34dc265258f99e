import CompilerLog.Proofs.Gcc.Grammar
import CompilerLog.Proofs.Gcc.Mention
/-!
# What the buckets of an invocation may hold

Every part of a line goes to the bucket that its meaning asks for, and of a response file only what
fits a bucket is kept. An argument that is both an option and trash was an option of a file.
-/

namespace CompilerLog.Gcc

/-- A flag that is kept as it is: an option, or a directory keyword that is left without a path. -/
def Kept (argument : String) : Prop :=
  Argument.IsFlag argument ∧
    (Argument.ofText argument = .option ∨ ∃ key, Argument.ofText argument = .directory key "")

/-- An argument that is trash by its own meaning, the name of a response file among them. -/
def Rejected (argument : String) : Prop :=
  Argument.ofText argument = .trash ∨ Argument.ofText argument = .residual ∨
    ∃ path, Argument.ofText argument = .responseFile path

theorem Kept.not_rejected {argument : String} (h : Kept argument) : ¬ Rejected argument := by
  obtain ⟨_, hmeaning⟩ := h
  intro hrejected
  rcases hmeaning with hmeaning | ⟨key, hmeaning⟩
  · rcases hrejected with hother | hother | ⟨_, hother⟩ <;> cases hmeaning.symm.trans hother
  · rcases hrejected with hother | hother | ⟨_, hother⟩ <;> cases hmeaning.symm.trans hother

theorem kept_of_sorted {argument : String} (h : Argument.sorted argument = .option)
    (hmeaning : Argument.ofText argument = .option ∨
      ∃ key, Argument.ofText argument = .directory key "") : Kept argument :=
  ⟨((Argument.sorted_eq_iff argument).2.1.mp h).2, hmeaning⟩

theorem ne_empty_of_isLine {text : String} (h : Argument.IsLine text.toList) : text ≠ "" := by
  rintro rfl
  exact h.1 rfl

namespace Part

/-- A part that is what the arguments of its kind mean. -/
def Sound : Part → Prop
  | define value => value ≠ ""
  | includePath path => path ≠ ""
  | compiler name => Argument.ofText name = .compiler
  | directory _ _ => True
  | flag argument => Kept argument
  | trash argument => Rejected argument
  | file reference path => Argument.ofText reference = .responseFile path

theorem sound_single (argument : String) : (single argument).Sound := by
  unfold single
  cases hmeaning : Argument.ofText argument with
  | define value =>
      have hdirective := Argument.directive_of_ofText hmeaning (by simp)
      exact ne_empty_of_isLine hdirective.2
  | includePath value =>
      have hdirective := Argument.directive_of_ofText hmeaning (by simp)
      exact ne_empty_of_isLine hdirective.2
  | compiler => exact hmeaning
  | directory key path =>
      by_cases hpath : path = ""
      · subst hpath
        exact kept_of_sorted (Argument.sorted_of_ofText_directory hmeaning) (.inr ⟨key, hmeaning⟩)
      · dsimp only
        rw [if_neg hpath]
        trivial
  | responseFile path => exact hmeaning
  | trash => exact .inl hmeaning
  | option =>
      have hnot : ¬ Argument.Directive argument .option := id
      have hsorted := ((Argument.ofText_eq_iff_sorted hnot).mp hmeaning).2
      exact kept_of_sorted hsorted (.inl hmeaning)
  | residual => exact .inr (.inl hmeaning)

namespace Sound

variable {p : Part} (h : p.Sound)

include h

theorem defines : ∀ value ∈ p.defines, value ≠ "" := by
  cases p with
  | define value => exact List.forall_mem_singleton.mpr h
  | _ => nofun

theorem includes (d : DirectoryOptions) : ∀ path ∈ p.includes d, path ≠ "" := by
  cases p with
  | includePath path => exact List.forall_mem_singleton.mpr h
  | directory key path =>
      -- A prefix that is declared empty counts as none.
      intro whole hwhole
      simp only [Part.includes] at hwhole
      split at hwhole
      · have hbases : ∃ base, d.declaredPrefix? = some base ∧ base ++ path = whole := by
          simpa using hwhole
        obtain ⟨base, hbase, rfl⟩ := hbases
        have hne : base ≠ "" := by simpa using (Option.filter_eq_some_iff.mp hbase).2
        intro hempty
        exact hne (String.append_eq_empty_iff.mp hempty).1
      · cases hwhole
  | _ => nofun

theorem options : ∀ argument ∈ p.options, Kept argument := by
  cases p with
  | flag argument => exact List.forall_mem_singleton.mpr h
  | _ => nofun

theorem trashed : ∀ argument ∈ p.trashed, Rejected argument := by
  cases p with
  | trash argument => exact List.forall_mem_singleton.mpr h
  | _ => nofun

end Sound

theorem eq_flag_of_mem_options {p : Part} {argument : String} (h : argument ∈ p.options) :
    p = flag argument := by
  cases p with
  | flag other => rw [List.mem_singleton.mp h]
  | _ => cases h

theorem sound_of_mem_parts {arguments : List String} : ∀ p ∈ parts arguments, p.Sound :=
  forall_mem_parts (fun argument _ => sound_single argument) (fun _ _ _ => trivial)

end Part

/-- An option of a file that is mentioned. -/
def FromFile (reader : TextReader) (paths : List String) (argument : String) : Prop :=
  ∃ m text, Mentions reader paths m ∧ reader m.path = .ok text ∧
    .flag argument ∈ parts (argumentsOf text)

namespace FromFile

variable {reader : TextReader} {path text argument : String} {rest : List String}

theorem first (hread : reader path = .ok text) (h : .flag argument ∈ parts (argumentsOf text)) :
    FromFile reader (path :: rest) argument := ⟨_, text, .first, hread, h⟩

theorem inside (hread : reader path = .ok text)
    (h : FromFile reader (references (argumentsOf text)) argument) :
    FromFile reader (path :: rest) argument := by
  obtain ⟨m, inner, hm, hinner, hflag⟩ := h
  exact ⟨m.inside path, inner, .inside hread hm, hinner, hflag⟩

theorem of_singleton (h : FromFile reader [path] argument) :
    FromFile reader (path :: rest) argument := by
  obtain ⟨m, inner, hm, hinner, hflag⟩ := h
  exact ⟨m, inner, Mentions.cons_iff.mpr (.inl hm), hinner, hflag⟩

theorem later (h : FromFile reader rest argument) : FromFile reader (path :: rest) argument := by
  obtain ⟨m, inner, hm, hinner, hflag⟩ := h
  exact ⟨m.later, inner, .later hm, hinner, hflag⟩

end FromFile

/-- What each bucket may hold, where the options are among those given, and some of them have been
copied to the trash. -/
structure WellFormed (given copied : String → Prop) (found : Invocation) : Prop where
  defines : ∀ value ∈ found.defines, value ≠ ""
  includes : ∀ path ∈ found.includes, path ≠ ""
  compiler : found.compiler = "" ∨ Argument.ofText found.compiler = .compiler
  options : ∀ argument ∈ found.options, Kept argument ∧ given argument
  trash : ∀ argument ∈ found.trash,
    Rejected argument ∨ argument ∈ found.options ∧ copied argument

namespace WellFormed

variable {given copied : String → Prop} {found file : Invocation}

theorem empty : WellFormed given copied .empty where
  defines := nofun
  includes := nofun
  compiler := .inl rfl
  options := nofun
  trash := nofun

theorem trash_of_more (h : WellFormed given copied found) (more : List String) {argument : String}
    (ha : argument ∈ found.trash) :
    Rejected argument ∨ argument ∈ found.options ++ more ∧ copied argument := by
  rcases h.trash argument ha with hrejected | ⟨hoption, hcopied⟩
  · exact .inl hrejected
  · exact .inr ⟨List.mem_append_left more hoption, hcopied⟩

theorem add {p : Part} (h : WellFormed given copied found) (hp : p.Sound)
    (hgiven : ∀ argument ∈ p.options, given argument) (d : DirectoryOptions) :
    WellFormed given copied (p.add d found) where
  defines := List.forall_mem_append.mpr ⟨h.defines, hp.defines⟩
  includes := List.forall_mem_append.mpr ⟨h.includes, hp.includes d⟩
  compiler := by
    show (if _ then _ else _) = "" ∨ Argument.ofText (if _ then _ else _) = .compiler
    split
    · exact h.compiler
    · cases p with
      | compiler name => exact .inr hp
      | _ => exact h.compiler
  options := List.forall_mem_append.mpr
    ⟨h.options, fun argument ha => ⟨hp.options argument ha, hgiven argument ha⟩⟩
  trash := by
    intro argument ha
    rcases List.mem_append.mp ha with ha | ha
    · exact h.trash_of_more p.options ha
    · exact .inl (hp.trashed argument ha)

theorem splice {given' copied' : String → Prop} (h : WellFormed given copied found)
    (hfile : WellFormed given' copied' file)
    (hgiven : ∀ argument, given' argument → given argument ∧ copied argument) :
    WellFormed given copied (splice file found) where
  defines := List.forall_mem_append.mpr ⟨h.defines, hfile.defines⟩
  includes := List.forall_mem_append.mpr ⟨h.includes, hfile.includes⟩
  compiler := h.compiler
  options := by
    intro argument ha
    rcases List.mem_append.mp ha with ha | ha
    · exact h.options argument ha
    · obtain ⟨hkept, horigin⟩ := hfile.options argument ha
      exact ⟨hkept, (hgiven argument horigin).1⟩
  trash := by
    intro argument ha
    rcases List.mem_append.mp ha with ha | ha
    · exact h.trash_of_more file.options ha
    · obtain ⟨_, horigin⟩ := hfile.options argument ha
      exact .inr ⟨List.mem_append_right _ ha, (hgiven argument horigin).2⟩

end WellFormed

/-- What a call finds is well formed, if what it adds to is. -/
def Call.Forms (reader : TextReader) (found : Invocation) : Call → Prop
  | line ps before => ∀ given copied : String → Prop, (∀ p ∈ ps, p.Sound) →
      (∀ p ∈ ps, ∀ argument ∈ p.options, given argument) →
      (∀ argument, FromFile reader (ps.filterMap Part.path?) argument →
        given argument ∧ copied argument) →
      WellFormed given copied before → WellFormed given copied found
  | file path => WellFormed (FromFile reader [path]) (FromFile reader [path]) found

theorem Returns.forms {reader : TextReader} {call : Call} {s t : Expansion} {levels : Nat}
    {outcome : Except ExpansionError Invocation} {found : Invocation}
    (h : Returns (fun _ => reader) call s levels outcome t) (hok : outcome = .ok found) :
    call.Forms reader found := by
  induction h generalizing found with
  | finished =>
      cases hok
      intro given copied _ _ _ hbefore
      exact hbefore
  | @part p rest before s _ _ _ hp _ ih =>
      intro given copied hsound hgiven hfile hbefore
      rw [List.filterMap_cons_none hp] at hfile
      obtain ⟨hpSound, hrestSound⟩ := List.forall_mem_cons.mp hsound
      obtain ⟨hpGiven, hrestGiven⟩ := List.forall_mem_cons.mp hgiven
      apply ih hok given copied hrestSound hrestGiven hfile
      exact hbefore.add hpSound hpGiven s.directories
  | @spliced reference path rest before s _ file _ _ _ _ _ _ ihFile ihRest =>
      intro given copied hsound hgiven hfile hbefore
      have hpaths : (Part.file reference path :: rest).filterMap Part.path? =
          path :: rest.filterMap Part.path? := rfl
      rw [hpaths] at hfile
      obtain ⟨hmeaning, hrestSound⟩ := List.forall_mem_cons.mp hsound
      obtain ⟨_, hrestGiven⟩ := List.forall_mem_cons.mp hgiven
      apply ihRest hok given copied hrestSound hrestGiven fun argument ha => hfile argument ha.later
      -- The name of the file goes to the trash, behind the options of the file.
      have htrash : (Part.trash reference).Sound := .inr (.inr ⟨path, hmeaning⟩)
      rw [sortOut_of_ne_option (Argument.sorted_of_ofText_responseFile hmeaning) _ s.directories]
      refine WellFormed.add ?_ htrash nofun s.directories
      exact hbefore.splice (ihFile rfl) fun argument ha => hfile argument ha.of_singleton
  | failed => cases hok
  | refused => cases hok
  | expanded henter _ ih =>
      obtain ⟨_, hread, rfl⟩ := Expansion.of_enter_ok henter
      apply ih hok _ _ Part.sound_of_mem_parts
      · intro p hp argument ha
        rw [Part.eq_flag_of_mem_options ha] at hp
        exact .first hread hp
      · intro argument ha
        exact ⟨.inside hread ha, .inside hread ha⟩
      · exact .empty

/-- The buckets of a line hold what fits them: no define and no include directory is empty, the
compiler and every option are such by their meaning, and so is the trash but for the options that a
response file gave. Without a response file no option is trash. -/
theorem buckets_are_well_formed (reader : TextReader) (d : DirectoryOptions) (line : String)
    (found : Invocation) (h : (readLine reader d line).value.outcome = .ok found) :
    (∀ value ∈ found.defines, value ≠ "") ∧ (∀ path ∈ found.includes, path ≠ "") ∧
    (found.compiler = "" ∨ Argument.ofText found.compiler = .compiler) ∧
    (∀ argument ∈ found.options, Argument.IsFlag argument ∧
      (Argument.ofText argument = .option ∨ ∃ key, Argument.ofText argument = .directory key "")) ∧
    (∀ argument ∈ found.trash,
      Argument.ofText argument = .trash ∨ Argument.ofText argument = .residual ∨
      (∃ path, Argument.ofText argument = .responseFile path) ∨
      argument ∈ found.options ∧
        ∃ m text, Mentions reader (references (argumentsOf line)) m ∧ reader m.path = .ok text ∧
          .flag argument ∈ parts (argumentsOf text)) ∧
    (references (argumentsOf line) = [] → ∀ argument ∈ found.options, argument ∉ found.trash) := by
  obtain ⟨levels, outcome, t, hreturns, hvalue⟩ := exists_returns_readLine reader d line
  rw [hvalue] at h
  cases outcome with
  | error error => cases h
  | ok gathered =>
      cases h
      have hgathered := hreturns.forms rfl (fun _ => True)
        (FromFile reader (references (argumentsOf line))) Part.sound_of_mem_parts
        (fun _ _ _ _ => trivial) (fun _ ha => ⟨trivial, ha⟩) .empty
      refine ⟨hgathered.defines, hgathered.includes, hgathered.compiler,
        fun argument ha => (hgathered.options argument ha).1, ?_, ?_⟩
      · intro argument ha
        rcases hgathered.trash argument ha with (htrash | hresidual | hfile) | hcopied
        · exact .inl htrash
        · exact .inr (.inl hresidual)
        · exact .inr (.inr (.inl hfile))
        · exact .inr (.inr (.inr hcopied))
      · intro hnone argument hoption htrash
        rcases hgathered.trash argument htrash with hrejected | ⟨_, m, _, hm, _⟩
        · exact (hgathered.options argument hoption).1.not_rejected hrejected
        · rw [hnone] at hm
          cases hm

/-- A keyword without a path that comes from a file in a file, and is trash of the line. -/
theorem buckets_are_well_formed_of_nested_file :
    let reader : TextReader := fun path =>
      if path = "a" then .ok "-Wall @b"
      else if path = "b" then .ok "-isystem" else .error (.ofSystem .notFound)
    let line := "g++ @a -Dx -Ip -w"
    let found : Invocation :=
      ⟨"g++", ["p"], ["x"], ["-Wall", "-isystem", "-w"], ["-Wall", "-isystem", "@a"], .unset⟩
    (readLine reader .empty line).value.outcome = .ok found ∧
      Argument.ofText found.compiler = .compiler ∧
      Argument.ofText "-isystem" = .directory .system "" ∧
      ∃ m text, Mentions reader (references (argumentsOf line)) m ∧ reader m.path = .ok text ∧
        .flag "-isystem" ∈ parts (argumentsOf text) := by
  intro reader line found
  have hline : parts (argumentsOf line) =
      [.compiler "g++", .file "@a" "a", .define "x", .includePath "p", .flag "-w"] := by decide
  have houter : parts (argumentsOf "-Wall @b") = [.flag "-Wall", .file "@b" "b"] := by decide
  have hinner : parts (argumentsOf "-isystem") = [.flag "-isystem"] := by decide
  have hinnerReturns : Returns (fun _ => reader) (.line (parts (argumentsOf "-isystem")) .empty)
      ⟨.empty, ["a", "b"], [⟨[], "a"⟩, ⟨["a"], "b"⟩]⟩ 0
      (.ok ⟨"", [], [], ["-isystem"], [], .unset⟩)
      ⟨.empty, ["a", "b"], [⟨[], "a"⟩, ⟨["a"], "b"⟩]⟩ := by
    rw [hinner]
    exact .part rfl .finished
  have houterReturns : Returns (fun _ => reader) (.line (parts (argumentsOf "-Wall @b")) .empty)
      ⟨.empty, ["a"], [⟨[], "a"⟩]⟩ 1
      (.ok ⟨"", [], [], ["-Wall", "-isystem"], ["-isystem", "@b"], .unset⟩)
      ⟨.empty, ["a"], [⟨[], "a"⟩, ⟨["a"], "b"⟩]⟩ := by
    rw [houter]
    exact .part rfl (.spliced (.expanded rfl hinnerReturns) .finished)
  have hreturns : Returns (fun _ => reader) (.line (parts (argumentsOf line)) .empty)
      (.start .empty) 2 (.ok found) ⟨.empty, [], [⟨[], "a"⟩, ⟨["a"], "b"⟩]⟩ := by
    rw [hline]
    exact .part rfl (.spliced (.expanded rfl houterReturns)
      (.part rfl (.part rfl (.part rfl .finished))))
  have hread : (readLine reader .empty line).value.outcome = .ok found := by
    rw [readLine_of_returns hreturns]
    decide
  obtain ⟨_, _, hcompiler, _, htrash, _⟩ :=
    buckets_are_well_formed reader .empty line found hread
  have hmeaning : Argument.ofText "-isystem" = .directory .system "" := by decide
  refine ⟨hread, hcompiler.resolve_left (by decide), hmeaning, ?_⟩
  rcases htrash "-isystem" (by decide) with hother | hother | ⟨_, hother⟩ | ⟨_, hfile⟩
  · cases hmeaning.symm.trans hother
  · cases hmeaning.symm.trans hother
  · cases hmeaning.symm.trans hother
  · exact hfile

end CompilerLog.Gcc
