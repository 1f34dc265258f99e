import CompilerLog.Proofs.Gcc.Declared
import CompilerLog.Proofs.Gcc.Inlining
import Mathlib.Algebra.BigOperators.Group.List.Basic
import Mathlib.Algebra.Ring.Nat
/-!
# Accounting for arguments

A line that names no response file is an account of its arguments: they fall into groups from left
to right, a directory keyword being in a group with the next argument if that is its path, and every
group is entered once: in a bucket of the invocation, among the directory options, or among what is
dropped. The buckets hold nothing else.
-/

namespace CompilerLog.Gcc

/-- An argument by itself, or a directory keyword with the argument that is its path. -/
inductive Group where
  | single (argument : String)
  | keyed (key : DirectoryOption) (keyword path : String)
  deriving DecidableEq, Repr

namespace Group

def arguments : Group → List String
  | single argument => [argument]
  | keyed _ keyword path => [keyword, path]

def part : Group → Part
  | single argument => .single argument
  | keyed key _ path => .directory key path

def isKeyed : Group → Bool
  | single _ => false
  | keyed _ _ _ => true

/-- A keyword with the argument behind it, if the one waits for a path and the other is no flag. -/
def keyed? (argument next : String) : Option Group :=
  if startsFlag next then none else (Part.pathless? argument).map (keyed · argument next)

end Group

/-- The groups of a line. A keyword without a path takes the next argument unless there is none or
it is a flag. -/
inductive Grouped : List String → List Group → Prop
  | nil : Grouped [] []
  | keyed {keyword key next rest groups} (hkey : Argument.ofText keyword = .directory key "")
      (hnext : startsFlag next = false) : Grouped rest groups →
      Grouped (keyword :: next :: rest) (.keyed key keyword next :: groups)
  | single {argument rest groups} (hnext : ∀ key, Argument.ofText argument = .directory key "" →
      ∀ next ∈ rest.head?, startsFlag next = true) : Grouped rest groups →
      Grouped (argument :: rest) (.single argument :: groups)

def groupsOf : List String → List Group
  | [] => []
  | [argument] => [.single argument]
  | argument :: next :: rest =>
    match Group.keyed? argument next with
    | some group => group :: groupsOf rest
    | none => .single argument :: groupsOf (next :: rest)

/-- Where a group can be entered. -/
inductive Bucket where
  | define
  | includePath
  | option
  | trash
  | compiler
  /-- The paths of a directory keyword. -/
  | path (key : DirectoryOption)
  /-- Paths that need a prefix where none is declared. -/
  | dropped
  deriving DecidableEq, Repr

structure Entry where
  bucket : Bucket
  text : String
  deriving DecidableEq, Repr

/-- The entry of a part, given the directory options declared before it. -/
def Part.entry (d : DirectoryOptions) : Part → Entry
  | define value => ⟨.define, value⟩
  | includePath path => ⟨.includePath, path⟩
  | compiler name => ⟨.compiler, name⟩
  | directory key path =>
    if key.usesPrefix then
      match d.declaredPrefix? with
      | some base => ⟨.includePath, base ++ path⟩
      | none => ⟨.dropped, path⟩
    else ⟨.path key, path⟩
  | flag argument => ⟨.option, argument⟩
  | trash argument => ⟨.trash, argument⟩
  | file reference _ => ⟨.trash, reference⟩

/-- The entries of groups, one for each. -/
def entries (d : DirectoryOptions) : List Group → List Entry
  | [] => []
  | g :: rest => g.part.entry d :: entries (g.part.directories d) rest

def textsIn (b : Bucket) (added : List Entry) : List String :=
  (added.filter (·.bucket = b)).map Entry.text

def Bucket.all : List Bucket :=
  [define, includePath, option, trash, compiler, dropped] ++ DirectoryOption.all.map path

section Counting

theorem length_textsIn_cons (b : Bucket) (e : Entry) (added : List Entry) :
    (textsIn b (e :: added)).length =
      (if e.bucket = b then 1 else 0) + (textsIn b added).length := by
  by_cases h : e.bucket = b
  · simp [textsIn, h, Nat.add_comm]
  · simp [textsIn, h]

theorem Bucket.sum_indicator (b : Bucket) :
    (Bucket.all.map fun other => if b = other then 1 else 0).sum = 1 := by
  cases b with
  | path key => cases key <;> decide
  | _ => decide

/-- Every entry is in one of the buckets and in no other. -/
theorem sum_length_textsIn (added : List Entry) :
    (Bucket.all.map fun b => (textsIn b added).length).sum = added.length := by
  induction added with
  | nil => decide
  | cons e added ih =>
      simp only [length_textsIn_cons]
      rw [List.sum_map_add, Bucket.sum_indicator, ih, List.length_cons, Nat.add_comm]

theorem length_entries (d : DirectoryOptions) (groups : List Group) :
    (entries d groups).length = groups.length := by
  induction groups generalizing d with
  | nil => rfl
  | cons g groups ih => simp [entries, ih]

end Counting

namespace Grouped

variable {arguments : List String} {groups : List Group}

theorem flatMap_arguments (h : Grouped arguments groups) :
    groups.flatMap Group.arguments = arguments := by
  induction h with
  | nil => rfl
  | keyed _ _ _ ih => rw [List.flatMap_cons, ih]; rfl
  | single _ _ ih => rw [List.flatMap_cons, ih]; rfl

/-- A group of two stands for one argument more than it has entries. -/
theorem length_arguments (h : Grouped arguments groups) :
    arguments.length = groups.length + groups.countP Group.isKeyed := by
  induction h with
  | nil => rfl
  | keyed _ _ _ ih =>
      rw [List.countP_cons_of_pos rfl, List.length_cons, List.length_cons, List.length_cons, ih]
      omega
  | single _ _ ih =>
      rw [List.countP_cons_of_neg (by simp [Group.isKeyed]), List.length_cons, List.length_cons, ih]
      omega

theorem unique (h : Grouped arguments groups) {other : List Group} (h' : Grouped arguments other) :
    other = groups := by
  induction h generalizing other with
  | nil =>
      cases h'
      rfl
  | keyed hkey hnext _ ih =>
      cases h' with
      | keyed hkey' _ hrest =>
          cases hkey.symm.trans hkey'
          rw [ih hrest]
      | single hflag _ => cases hnext.symm.trans (hflag _ hkey _ rfl)
  | single hflag _ ih =>
      cases h' with
      | keyed hkey hnext _ => cases hnext.symm.trans (hflag _ hkey _ rfl)
      | single _ hrest => rw [ih hrest]

end Grouped

theorem Part.pathless?_eq_some_iff {argument : String} {key : DirectoryOption} :
    pathless? argument = some key ↔ Argument.ofText argument = .directory key "" := by
  unfold pathless?
  split
  · rename_i other path hmeaning
    rw [hmeaning]
    by_cases hpath : path = "" <;> simp [hpath]
  · rename_i hmeaning
    simpa using hmeaning key ""

namespace Group

variable {argument next : String}

theorem map_part_keyed? : (keyed? argument next).map part = Part.pair? argument next := by
  unfold keyed? Part.pair?
  split
  · rfl
  · rw [Option.map_map]
    rfl

theorem exists_of_keyed? {g : Group} (h : keyed? argument next = some g) :
    startsFlag next = false ∧ ∃ key, Argument.ofText argument = .directory key "" ∧
      g = keyed key argument next := by
  obtain ⟨hflag, hkey⟩ := Option.ite_none_left_eq_some.mp h
  obtain ⟨key, hpathless, rfl⟩ := Option.map_eq_some_iff.mp hkey
  exact ⟨by simpa using hflag, key, Part.pathless?_eq_some_iff.mp hpathless, rfl⟩

theorem startsFlag_of_keyed? (h : keyed? argument next = none) {key : DirectoryOption}
    (hkey : Argument.ofText argument = .directory key "") : startsFlag next = true := by
  by_contra hflag
  rw [keyed?, if_neg hflag, Part.pathless?_eq_some_iff.mpr hkey] at h
  cases h

end Group

theorem grouped_groupsOf (arguments : List String) : Grouped arguments (groupsOf arguments) := by
  induction arguments using groupsOf.induct with
  | case1 => exact .nil
  | case2 argument => exact .single (by simp) .nil
  | case3 argument next rest g hkeyed ih =>
      simp only [groupsOf, hkeyed]
      obtain ⟨hnext, key, hkey, rfl⟩ := Group.exists_of_keyed? hkeyed
      exact .keyed hkey hnext ih
  | case4 argument next rest hkeyed ih =>
      simp only [groupsOf, hkeyed]
      refine .single ?_ ih
      rintro key hkey _ ⟨⟩
      exact Group.startsFlag_of_keyed? hkeyed hkey

theorem map_part_groupsOf (arguments : List String) :
    (groupsOf arguments).map Group.part = parts arguments := by
  induction arguments using groupsOf.induct with
  | case1 => rfl
  | case2 argument => rfl
  | case3 argument next rest g hkeyed ih =>
      simp [groupsOf, parts, ← Group.map_part_keyed?, hkeyed, ih]
  | case4 argument next rest hkeyed ih =>
      simp [groupsOf, parts, ← Group.map_part_keyed?, hkeyed, ih, Group.part]

/-- Entries that hold what parts add, bucket by bucket. -/
structure Records (d : DirectoryOptions) (ps : List Part) (added : List Entry) : Prop where
  defines : textsIn .define added = ps.flatMap Part.defines
  includes : textsIn .includePath added = includesOf d ps
  options : textsIn .option added = ps.flatMap Part.options
  trashed : textsIn .trash added = ps.flatMap Part.trashed
  compilers : textsIn .compiler added = ps.flatMap Part.compilers
  paths : ∀ key, textsIn (.path key) added = declared key ps

theorem textsIn_cons (b : Bucket) (e : Entry) (added : List Entry) :
    textsIn b (e :: added) = textsIn b [e] ++ textsIn b added := by
  rw [textsIn, textsIn, textsIn, ← List.map_append, ← List.filter_append, List.singleton_append]

theorem Records.cons {d : DirectoryOptions} {p : Part} {ps : List Part} {e : Entry}
    {added : List Entry} (h : Records d [p] [e]) (h' : Records (p.directories d) ps added) :
    Records d (p :: ps) (e :: added) where
  defines := by
    rw [textsIn_cons, h.defines, h'.defines]
    simp
  includes := by
    rw [textsIn_cons, h.includes, h'.includes]
    simp [includesOf]
  options := by
    rw [textsIn_cons, h.options, h'.options]
    simp
  trashed := by
    rw [textsIn_cons, h.trashed, h'.trashed]
    simp
  compilers := by
    rw [textsIn_cons, h.compilers, h'.compilers]
    simp
  paths key := by
    rw [textsIn_cons, h.paths, h'.paths]
    simp [declared]

theorem records_directory (d : DirectoryOptions) (key : DirectoryOption) (path : String) :
    Records d [.directory key path] [(Part.directory key path).entry d] := by
  cases huses : key.usesPrefix with
  | false =>
      have hentry : (Part.directory key path).entry d = ⟨.path key, path⟩ := by
        simp [Part.entry, huses]
      rw [hentry]
      constructor
      case paths =>
        intro other
        by_cases hother : key = other
        · subst hother
          simp [textsIn, declared, Part.declared, huses]
        · simp [textsIn, declared, Part.declared, hother]
      all_goals simp [textsIn, includesOf, huses]
  | true =>
      have hdeclared (other : DirectoryOption) : declared other [.directory key path] = [] := by
        simp [declared, Part.declared, huses]
      cases hbase : d.declaredPrefix? with
      | none =>
          have hentry : (Part.directory key path).entry d = ⟨.dropped, path⟩ := by
            simp [Part.entry, huses, hbase]
          rw [hentry]
          constructor <;> simp [textsIn, includesOf, huses, hbase, hdeclared]
      | some base =>
          have hentry : (Part.directory key path).entry d = ⟨.includePath, base ++ path⟩ := by
            simp [Part.entry, huses, hbase]
          rw [hentry]
          constructor <;> simp [textsIn, includesOf, huses, hbase, hdeclared]

theorem records_entry (d : DirectoryOptions) {p : Part} (hp : p.path? = none) :
    Records d [p] [p.entry d] := by
  cases p with
  | directory key path => exact records_directory d key path
  | file reference path => cases hp
  | _ => constructor <;> simp [Part.entry, Part.declared, textsIn, includesOf, declared]

theorem records_entries {groups : List Group} (hfile : ∀ g ∈ groups, g.part.path? = none)
    (d : DirectoryOptions) : Records d (groups.map Group.part) (entries d groups) := by
  induction groups generalizing d with
  | nil => exact ⟨rfl, rfl, rfl, rfl, rfl, fun _ => rfl⟩
  | cons g groups ih =>
      obtain ⟨hg, hrest⟩ := List.forall_mem_cons.mp hfile
      exact (records_entry d hg).cons (ih hrest _)

theorem Group.ne_empty_of_mem_compilers (g : Group) : ∀ name ∈ g.part.compilers, name ≠ "" := by
  cases g with
  | single argument => exact fun _ => Part.ne_empty_of_mem_compilers
  | keyed key keyword path => simp [Group.part]

/-- Groups that name no file are read whatever the reader answers. -/
theorem returns_groups (reader : AdaptiveReader) {groups : List Group}
    (hfile : ∀ g ∈ groups, g.part.path? = none) (found : Invocation) (s : Expansion) :
    Returns reader (.line (groups.map Group.part) found) s 0
      (.ok (extend s.directories 0 (groups.map fun g => (0, g.part)) found))
      { s with directories := (groups.map Group.part).foldl Part.directories s.directories } := by
  induction groups generalizing found s with
  | nil =>
      rw [List.map_nil, List.map_nil, extend_nil]
      exact .finished
  | cons g groups ih =>
      obtain ⟨hg, hrest⟩ := List.forall_mem_cons.mp hfile
      rw [List.map_cons, List.map_cons, extend_cons _ _ g.ne_empty_of_mem_compilers]
      exact .part hg (ih hrest _ _)

theorem path?_of_references {arguments : List String} (h : references arguments = []) :
    ∀ g ∈ groupsOf arguments, g.part.path? = none := by
  intro g hg
  rw [references, ← map_part_groupsOf] at h
  exact List.filterMap_eq_nil_iff.mp h _ (List.mem_map_of_mem hg)

/-- The buckets hold what is entered, in order, and nothing else. -/
theorem exists_found_of_references (reader : TextReader) (d : DirectoryOptions) {line : String}
    (h : references (argumentsOf line) = []) :
    let added := entries d (groupsOf (argumentsOf line))
    ∃ found, (readLine reader d line).value.outcome = .ok found ∧
      found.defines = textsIn .define added ∧
      found.includes = textsIn .includePath added ∧
      found.options = textsIn .option added ∧
      found.trash = textsIn .trash added ∧
      found.compiler = (textsIn .compiler added).headD "" ∧
      ∀ key, (readLine reader d line).value.directories.get key =
        d.get key ++ textsIn (.path key) added := by
  have hfile := path?_of_references h
  have hparts := map_part_groupsOf (argumentsOf line)
  have hrecords := records_entries hfile d
  have hreturns := returns_groups (fun _ => reader) hfile .empty (.start d)
  rw [hparts] at hreturns
  have hread := readLine_of_returns hreturns
  generalize groupsOf (argumentsOf line) = groups at *
  have hflat : (groups.map fun g => (0, g.part)).map Prod.snd = groups.map Group.part := by
    rw [List.map_map]
    rfl
  intro added
  refine ⟨_, congrArg Reading.outcome hread, ?_, ?_, ?_, ?_, ?_, fun key => ?_⟩
  · rw [hrecords.defines, ← hflat]
    rfl
  · rw [hrecords.includes, ← hflat]
    rfl
  · rw [hrecords.options, ← hflat]
    rfl
  · rw [hrecords.trashed, List.flatMap_map]
    simp [extend, trashAt, List.flatMap_map, Invocation.empty]
  · rw [hrecords.compilers, List.flatMap_map]
    simp [extend, compilersAt, List.flatMap_map, Invocation.empty, Invocation.hasCompiler]
  · rw [hrecords.paths, hread, hparts]
    exact get_foldl_directories _ d

/-- No argument of a line is lost, and none counts twice. The arguments fall into groups in one way
only, each group has one entry, and the buckets hold these entries in order and nothing else, so
that what they hold and what is taken, dropped or ignored adds up to the words of the line. -/
theorem every_argument_counts_once (reader : TextReader) (d : DirectoryOptions) (line : String)
    (h : references (argumentsOf line) = []) :
    let groups := groupsOf (argumentsOf line)
    let added := entries d groups
    (Grouped (argumentsOf line) groups ∧
      (∀ other, Grouped (argumentsOf line) other → other = groups) ∧
      groups.flatMap Group.arguments = argumentsOf line ∧ added.length = groups.length) ∧
    ∃ found, (readLine reader d line).value.outcome = .ok found ∧
      found.defines = textsIn .define added ∧
      found.includes = textsIn .includePath added ∧
      found.options = textsIn .option added ∧
      found.trash = textsIn .trash added ∧
      found.compiler = (textsIn .compiler added).headD "" ∧
      (∀ key, (readLine reader d line).value.directories.get key =
        d.get key ++ textsIn (.path key) added) ∧
      found.defines.length + found.includes.length + found.options.length + found.trash.length +
          (textsIn .compiler added).length +
          (DirectoryOption.all.map fun key => (textsIn (.path key) added).length).sum +
          (textsIn .dropped added).length + groups.countP Group.isKeyed =
        (Shell.tokenize line).value.length := by
  intro groups added
  have hgroups : Grouped (argumentsOf line) groups := grouped_groupsOf _
  obtain ⟨found, hfound, hdefines, hincludes, hoptions, htrash, hcompiler, hpaths⟩ :=
    exists_found_of_references reader d h
  refine ⟨⟨hgroups, fun _ => hgroups.unique, hgroups.flatMap_arguments, length_entries d groups⟩,
    found, hfound, hdefines, hincludes, hoptions, htrash, hcompiler, hpaths, ?_⟩
  have hwords : (Shell.tokenize line).value.length = (argumentsOf line).length :=
    (List.length_map unwrap).symm
  have hbuckets := sum_length_textsIn added
  rw [length_entries] at hbuckets
  simp only [Bucket.all, List.map_append, List.sum_append, List.map_map, Function.comp_def,
    List.map_cons, List.map_nil, List.sum_cons, List.sum_nil] at hbuckets
  have hheld : found.defines.length + found.includes.length + found.options.length +
      found.trash.length = (textsIn .define added).length + (textsIn .includePath added).length +
        (textsIn .option added).length + (textsIn .trash added).length := by
    rw [hdefines, hincludes, hoptions, htrash]
  rw [hwords, hgroups.length_arguments, hheld]
  omega

/-- A path that is dropped, one that is taken, a keyword in front of a flag, and a compiler that
comes second. -/
theorem every_argument_counts_once_of_dropped_path :
    let reader : TextReader := fun _ => .error (.ofSystem .notFound)
    let line := "g++ -DA -iwithprefix p -isystem /x -isystem -c a.o c++/g++"
    references (argumentsOf line) = [] ∧
      ∃ found, (readLine reader .empty line).value.outcome = .ok found ∧
        found.defines = ["A"] ∧ found.includes = [] ∧ found.options = ["-isystem"] ∧
        found.trash = ["-c", "a.o"] ∧ found.compiler = "g++" ∧
        (readLine reader .empty line).value.directories.get .system = ["/x"] ∧
        1 + 0 + 1 + 2 + 2 + 1 + 1 + 2 = (Shell.tokenize line).value.length := by
  intro reader line
  have h : references (argumentsOf line) = [] := by decide
  have hadded : entries .empty (groupsOf (argumentsOf line)) =
      [⟨.compiler, "g++"⟩, ⟨.define, "A"⟩, ⟨.dropped, "p"⟩, ⟨.path .system, "/x"⟩,
        ⟨.option, "-isystem"⟩, ⟨.trash, "-c"⟩, ⟨.trash, "a.o"⟩, ⟨.compiler, "c++/g++"⟩] := by
    decide
  have hkeyed : (groupsOf (argumentsOf line)).countP Group.isKeyed = 2 := by decide
  obtain ⟨_, found, hfound, hdefines, hincludes, hoptions, htrash, hcompiler, hpaths, hsum⟩ :=
    every_argument_counts_once reader .empty line h
  rw [hadded] at hdefines hincludes hoptions htrash hcompiler hpaths hsum
  rw [hkeyed, hdefines, hincludes, hoptions, htrash] at hsum
  exact ⟨h, found, hfound, hdefines, hincludes, hoptions, htrash, hcompiler, hpaths .system, hsum⟩

end CompilerLog.Gcc
