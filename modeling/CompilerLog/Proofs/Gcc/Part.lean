import CompilerLog.Gcc.CommandLine
import CompilerLog.Proofs.Gcc.Argument
/-!
# Parts of a command line

The arguments of a command fall into parts from left to right: a directory keyword that waits for
its path takes the next argument, unless that is a flag, and every other argument is a part of its
own. What a part adds to an invocation depends on nothing but the directory options declared before
it, so that reading a line is running through its parts.
-/

namespace CompilerLog.Gcc

/-- The arguments of a line: its words without the quotes that the shell left around them. -/
def argumentsOf (line : String) : List String := (Shell.tokenize line).value.map unwrap

/-- Whether an argument is a flag, so that it is no path of the keyword before it. -/
def startsFlag (argument : String) : Bool := ['-'].isPrefixOf argument.toList

theorem isFlag_eq (word : String) : isFlag word = startsFlag (unwrap word) := rfl

/-- What an argument, or a directory keyword with its path, counts as. -/
inductive Part where
  | define (value : String)
  | includePath (value : String)
  | compiler (name : String)
  | directory (option : DirectoryOption) (path : String)
  | flag (argument : String)
  | trash (argument : String)
  | file (reference path : String)
  deriving DecidableEq, Repr

namespace Part

def single (argument : String) : Part :=
  match Argument.ofText argument with
  | .define value => define value
  | .includePath value => includePath value
  | .compiler => compiler argument
  | .directory option path => if path = "" then flag argument else directory option path
  | .responseFile path => file argument path
  | .trash | .residual => trash argument
  | .option => flag argument

/-- The directory option that an argument names without a path. -/
def pathless? (argument : String) : Option DirectoryOption :=
  match Argument.ofText argument with
  | .directory option path => if path = "" then some option else none
  | _ => none

/-- A directory keyword with the argument behind it, if the one waits for a path and the other is
no flag. -/
def pair? (argument next : String) : Option Part :=
  if startsFlag next then none else (pathless? argument).map (directory · next)

@[simp] def path? : Part → Option String
  | file _ path => some path
  | _ => none

@[simp] def defines : Part → List String
  | define value => [value]
  | _ => []

/-- The include directories that a part adds. A path that needs a prefix adds none where no prefix
is declared. -/
@[simp] def includes (d : DirectoryOptions) : Part → List String
  | includePath value => [value]
  | directory option path =>
    if option.usesPrefix then (d.declaredPrefix?.map (· ++ path)).toList else []
  | _ => []

@[simp] def options : Part → List String
  | flag argument => [argument]
  | _ => []

@[simp] def trashed : Part → List String
  | trash argument => [argument]
  | _ => []

@[simp] def compilers : Part → List String
  | compiler name => [name]
  | _ => []

@[simp] def directories (d : DirectoryOptions) : Part → DirectoryOptions
  | directory option path => if option.usesPrefix then d else d.push option path
  | _ => d

/-- Adds a part that names no file to what is found before it. -/
def add (d : DirectoryOptions) (found : Invocation) (p : Part) : Invocation :=
  { found with
    compiler := if found.hasCompiler then found.compiler else p.compilers.headD found.compiler
    includes := found.includes ++ p.includes d
    defines := found.defines ++ p.defines
    options := found.options ++ p.options
    trash := found.trash ++ p.trashed }

end Part

/-- The parts that the arguments of a line fall into. -/
def parts : List String → List Part
  | [] => []
  | [argument] => [.single argument]
  | argument :: next :: rest =>
    match Part.pair? argument next with
    | some part => part :: parts rest
    | none => .single argument :: parts (next :: rest)

namespace Part

theorem exists_of_pair? {argument next : String} {p : Part} (h : pair? argument next = some p) :
    startsFlag next = false ∧ ∃ option, Argument.ofText argument = .directory option "" ∧
      p = directory option next := by
  unfold pair? at h
  split at h
  · cases h
  rename_i hflag
  obtain ⟨option, hpathless, rfl⟩ := Option.map_eq_some_iff.mp h
  unfold pathless? at hpathless
  split at hpathless
  · rename_i hmeaning
    obtain ⟨rfl, hoption⟩ := Option.ite_none_right_eq_some.mp hpathless
    cases hoption
    exact ⟨by simpa using hflag, option, hmeaning, rfl⟩
  · cases hpathless

theorem ofText_ne_responseFile {argument next : String} {p : Part}
    (h : pair? argument next = some p) (path : String) :
    Argument.ofText argument ≠ .responseFile path := by
  obtain ⟨_, _, hmeaning, _⟩ := exists_of_pair? h
  rw [hmeaning]
  nofun

theorem path?_of_pair? {argument next : String} {p : Part} (h : pair? argument next = some p) :
    p.path? = none := by
  obtain ⟨_, _, _, rfl⟩ := exists_of_pair? h
  rfl

theorem eq_file_of_path? {p : Part} {path : String} (h : p.path? = some path) :
    ∃ reference, p = file reference path := by
  cases p <;> cases h
  exact ⟨_, rfl⟩

theorem single_of_path? {argument path : String} (h : (single argument).path? = some path) :
    single argument = file argument path ∧ Argument.ofText argument = .responseFile path := by
  cases hmeaning : Argument.ofText argument with
  | responseFile other =>
      have hpath : other = path := by simpa [single, hmeaning] using h
      exact ⟨by simp [single, hmeaning, hpath], congrArg _ hpath⟩
  | directory option other =>
      by_cases hother : other = "" <;> simp [single, hmeaning, hother] at h
  | _ => simp [single, hmeaning] at h

theorem single_responseFile {argument path : String}
    (h : Argument.ofText argument = .responseFile path) : single argument = file argument path := by
  simp [single, h]

theorem ne_empty_of_mem_compilers {argument name : String}
    (h : name ∈ (single argument).compilers) : name ≠ "" := by
  cases hmeaning : Argument.ofText argument with
  | compiler =>
      obtain rfl : name = argument := by simpa [single, hmeaning] using h
      intro hempty
      rw [hempty] at hmeaning
      revert hmeaning
      decide
  | directory option path =>
      by_cases hpath : path = "" <;> simp [single, hmeaning, hpath] at h
  | _ => simp [single, hmeaning] at h

end Part

/-- The first part is a keyword with its path, or else the first argument by itself. -/
theorem parts_eq_cons {arguments : List String} {p : Part} {rest : List Part}
    (h : parts arguments = p :: rest) :
    (∃ keyword next left, arguments = keyword :: next :: left ∧
      Part.pair? keyword next = some p ∧ parts left = rest) ∨
    (∃ argument left, arguments = argument :: left ∧
      (∀ next ∈ left.head?, Part.pair? argument next = none) ∧
      p = .single argument ∧ parts left = rest) := by
  match arguments with
  | [] => cases h
  | [argument] =>
      obtain ⟨hp, hrest⟩ := List.cons.inj h
      exact .inr ⟨argument, [], rfl, by simp, hp.symm, hrest⟩
  | argument :: next :: left =>
      cases hpair : Part.pair? argument next with
      | some q =>
          simp only [parts, hpair, List.cons.injEq] at h
          obtain ⟨rfl, hrest⟩ := h
          exact .inl ⟨argument, next, left, rfl, hpair, hrest⟩
      | none =>
          simp only [parts, hpair, List.cons.injEq] at h
          obtain ⟨rfl, hrest⟩ := h
          exact .inr ⟨argument, next :: left, rfl, by simp [hpair], rfl, hrest⟩

theorem parts_eq_cons_file {arguments : List String} {reference path : String}
    {rest : List Part} (h : parts arguments = .file reference path :: rest) :
    ∃ left, arguments = reference :: left ∧ parts left = rest ∧
      Argument.ofText reference = .responseFile path := by
  rcases parts_eq_cons h with ⟨_, _, _, _, hpair, _⟩ | ⟨argument, left, rfl, _, hsingle, hleft⟩
  · cases Part.path?_of_pair? hpair
  · obtain ⟨hfile, hmeaning⟩ := Part.single_of_path? (congrArg Part.path? hsingle.symm)
    obtain ⟨rfl, _⟩ := Part.file.inj (hsingle.trans hfile)
    exact ⟨left, rfl, hleft, hmeaning⟩

theorem forall_mem_parts {P : Part → Prop} {arguments : List String}
    (hsingle : ∀ argument ∈ arguments, P (.single argument))
    (hpair : ∀ path ∈ arguments, ∀ key, P (.directory key path)) : ∀ p ∈ parts arguments, P p := by
  induction arguments using parts.induct with
  | case1 => nofun
  | case2 argument =>
      intro p hp
      rw [List.mem_singleton.mp hp]
      exact hsingle argument (List.mem_singleton.mpr rfl)
  | case3 argument next rest part hpart ih =>
      simp only [parts, hpart]
      obtain ⟨_, key, _, rfl⟩ := Part.exists_of_pair? hpart
      have hrest : ∀ other ∈ rest, other ∈ argument :: next :: rest := by
        intro other hother
        exact List.mem_cons_of_mem _ (List.mem_cons_of_mem _ hother)
      rw [List.forall_mem_cons]
      constructor
      · exact hpair next (by simp) key
      · exact ih (fun other ho => hsingle other (hrest other ho))
          (fun other ho => hpair other (hrest other ho))
  | case4 argument next rest hpart ih =>
      simp only [parts, hpart]
      rw [List.forall_mem_cons]
      constructor
      · exact hsingle argument List.mem_cons_self
      · exact ih (fun other ho => hsingle other (List.mem_cons_of_mem _ ho))
          (fun other ho => hpair other (List.mem_cons_of_mem _ ho))

theorem eq_nil_of_parts {arguments : List String} (h : parts arguments = []) : arguments = [] := by
  match arguments with
  | [] => rfl
  | [_] => cases h
  | argument :: next :: _ => cases hpair : Part.pair? argument next <;> simp [parts, hpair] at h

theorem value_place (option : DirectoryOption) (path : String) (found : Invocation)
    (d : DirectoryOptions) :
    (place option path found d).value =
      ((Part.directory option path).add d found, (Part.directory option path).directories d) := by
  cases hp : option.usesPrefix <;> cases hb : d.declaredPrefix? <;> simp [place, Part.add, hp, hb]

theorem value_nameCompiler (argument : String) (found : Invocation) (d : DirectoryOptions) :
    (nameCompiler argument found).value = (Part.compiler argument).add d found := by
  cases h : found.hasCompiler <;> simp [nameCompiler, Part.add, h]

theorem sortOut_of_option {argument : String} (h : Argument.sorted argument = .option)
    (found : Invocation) (d : DirectoryOptions) :
    sortOut argument found = (Part.flag argument).add d found := by
  simp [sortOut, h, Part.add]

theorem sortOut_of_ne_option {argument : String} (h : Argument.sorted argument ≠ .option)
    (found : Invocation) (d : DirectoryOptions) :
    sortOut argument found = (Part.trash argument).add d found := by
  unfold sortOut
  split
  · exact absurd ‹_› h
  · simp [Part.add]

section Reading

variable (reader : TextReader) (opened : List String) (found : Invocation) (d : DirectoryOptions)

theorem value_readWords_nil : (readWords reader opened [] found d).value = ⟨.ok found, d⟩ := by
  rw [readWords]
  rfl

theorem takePath_of_pathless {word : String} {rest : List String} {option : DirectoryOption}
    (hnext : ∀ next ∈ rest.head?, Part.pair? (unwrap word) (unwrap next) = none)
    (h : Part.pathless? (unwrap word) = some option) : takePath "" rest = none := by
  cases rest with
  | nil => rfl
  | cons next rest =>
      have hpair := hnext next rfl
      unfold Part.pair? at hpair
      split at hpair
      · rename_i hflag
        simp [takePath, isFlag_eq, hflag]
      · simp [h] at hpair

theorem value_readWords_single {word : String} {rest : List String}
    (hnext : ∀ next ∈ rest.head?, Part.pair? (unwrap word) (unwrap next) = none)
    (hfile : (Part.single (unwrap word)).path? = none) :
    (readWords reader opened (word :: rest) found d).value =
      (readWords reader opened rest ((Part.single (unwrap word)).add d found)
        ((Part.single (unwrap word)).directories d)).value := by
  rw [readWords]
  dsimp only
  cases hmeaning : Argument.ofText (unwrap word) with
  | define value =>
      simp [Part.single, hmeaning, Part.add]
  | includePath value =>
      simp [Part.single, hmeaning, Part.add]
  | compiler =>
      simp [Part.single, hmeaning, value_nameCompiler _ _ d]
  | directory option glued =>
      by_cases hglued : glued = ""
      · subst hglued
        have hpathless : Part.pathless? (unwrap word) = some option := by
          simp [Part.pathless?, hmeaning]
        dsimp only
        split
        · rename_i htake
          cases (takePath_of_pathless hnext hpathless).symm.trans htake
        · rw [sortOut_of_option (Argument.sorted_of_ofText_directory hmeaning) found d]
          simp [Part.single, hmeaning]
      · have htake : takePath glued rest = some (glued, rest) := if_pos hglued
        dsimp only
        split
        · rename_i htaken
          cases htake.symm.trans htaken
          simp [Part.single, hmeaning, hglued, value_place]
        · rename_i htaken
          cases htake.symm.trans htaken
  | responseFile path =>
      simp [Part.single, hmeaning] at hfile
  | trash =>
      simp [Part.single, hmeaning, Part.add]
  | option =>
      simp [Part.single, hmeaning, Part.add]
  | residual =>
      simp [Part.single, hmeaning, Part.add]

theorem value_readWords_pair {word next : String} {rest : List String} {p : Part}
    (hpair : Part.pair? (unwrap word) (unwrap next) = some p) :
    (readWords reader opened (word :: next :: rest) found d).value =
      (readWords reader opened rest (p.add d found) (p.directories d)).value := by
  obtain ⟨hflag, option, hmeaning, rfl⟩ := Part.exists_of_pair? hpair
  have htake : takePath "" (next :: rest) = some (unwrap next, rest) := by
    simp [takePath, isFlag_eq, hflag]
  rw [readWords]
  dsimp only
  rw [hmeaning]
  dsimp only
  split
  · rename_i htaken
    cases htake.symm.trans htaken
    simp [value_place]
  · rename_i htaken
    cases htake.symm.trans htaken

/-- A response file is read where it is named, unless it cannot be entered. -/
theorem value_readWords_file {word path : String} {rest : List String}
    (hmeaning : Argument.ofText (unwrap word) = .responseFile path) :
    (readWords reader opened (word :: rest) found d).value =
      match ResponseFile.read reader opened path with
      | .error error => ⟨.error error, d⟩
      | .ok text =>
        let nested :=
          (readWords reader (opened ++ [path]) (Shell.tokenize text).value .empty d).value
        match nested.outcome with
        | .error error => ⟨.error error, nested.directories⟩
        | .ok file =>
          (readWords reader opened rest (sortOut (unwrap word) (splice file found))
            nested.directories).value := by
  rw [readWords]
  dsimp only
  rw [hmeaning]
  dsimp only
  split
  · rename_i hread
    simp [hread]
  · rename_i text hread
    simp only [hread, Logged.value_bind]
    split <;> simp_all

end Reading

theorem exists_left_of_parts {words : List String} {p : Part} {rest : List Part}
    (h : parts (words.map unwrap) = p :: rest) (hp : p.path? = none) :
    ∃ left, parts (left.map unwrap) = rest ∧ ∀ reader opened found d,
      (readWords reader opened words found d).value =
        (readWords reader opened left (p.add d found) (p.directories d)).value := by
  rcases parts_eq_cons h with
    ⟨_, _, _, hwords, hpair, rfl⟩ | ⟨_, _, hwords, hnext, rfl, rfl⟩
  · obtain ⟨word, rest', rfl, rfl, hrest'⟩ := List.map_eq_cons_iff.mp hwords
    obtain ⟨word', left, rfl, rfl, rfl⟩ := List.map_eq_cons_iff.mp hrest'
    exact ⟨left, rfl, fun reader opened found d =>
      value_readWords_pair reader opened found d hpair⟩
  · obtain ⟨word, left, rfl, rfl, rfl⟩ := List.map_eq_cons_iff.mp hwords
    refine ⟨left, rfl, fun reader opened found d =>
      value_readWords_single reader opened found d ?_ hp⟩
    simpa using hnext

end CompilerLog.Gcc
