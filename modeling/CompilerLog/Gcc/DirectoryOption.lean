/-!
# Directory options

The `-i<keyword>` options of gcc that name a directory, and the paths that were given to them. The
paths of one keyword keep their order; a keyword once given stays known, even without a path.
-/

namespace CompilerLog.Gcc

/-- The keyword of a directory option. -/
inductive DirectoryOption where
  | basePrefix
  | withPrefix
  | withPrefixBefore
  | sysroot
  | multilib
  | pluginDir
  | quote
  | system
  | dirAfter
  deriving DecidableEq, Repr

namespace DirectoryOption

/-- All keywords, in their order. -/
def all : List DirectoryOption :=
  [basePrefix, withPrefix, withPrefixBefore, sysroot, multilib, pluginDir, quote, system, dirAfter]

theorem mem_all (o : DirectoryOption) : o ∈ all := by cases o <;> decide

def keyword : DirectoryOption → String
  | basePrefix => "prefix"
  | withPrefix => "withprefix"
  | withPrefixBefore => "withprefixbefore"
  | sysroot => "sysroot"
  | multilib => "multilib"
  | pluginDir => "plugindir"
  | quote => "quote"
  | system => "system"
  | dirAfter => "dirafter"

def ofKeyword? (keyword : String) : Option DirectoryOption :=
  all.find? (·.keyword = keyword)

theorem ofKeyword?_keyword (o : DirectoryOption) : ofKeyword? o.keyword = some o := by
  cases o <;> decide

def usesPrefix : DirectoryOption → Bool
  | withPrefix | withPrefixBefore => true
  | _ => false

def text (o : DirectoryOption) : String := "-i" ++ o.keyword

end DirectoryOption

/-- The paths given to each keyword; none for a keyword that was never given. -/
structure DirectoryOptions where
  paths? : DirectoryOption → Option (List String)

namespace DirectoryOptions

def empty : DirectoryOptions := ⟨fun _ => none⟩

instance : Inhabited DirectoryOptions := ⟨empty⟩

@[ext] theorem ext {d e : DirectoryOptions} (h : ∀ o, d.paths? o = e.paths? o) : d = e := by
  cases d; cases e; congr; exact funext h

/-- The paths given to a keyword, in order. -/
def get (d : DirectoryOptions) (o : DirectoryOption) : List String := (d.paths? o).getD []

def set (d : DirectoryOptions) (o : DirectoryOption) (paths : List String) : DirectoryOptions :=
  ⟨fun k => if k = o then some paths else d.paths? k⟩

def push (d : DirectoryOptions) (o : DirectoryOption) (path : String) : DirectoryOptions :=
  d.set o (d.get o ++ [path])

@[simp] theorem get_set (d : DirectoryOptions) (o k : DirectoryOption) (paths : List String) :
    (d.set o paths).get k = if k = o then paths else d.get k := by
  by_cases h : k = o <;> simp [get, set, h]

theorem get_push (d : DirectoryOptions) (o k : DirectoryOption) (path : String) :
    (d.push o path).get k = if k = o then d.get k ++ [path] else d.get k := by
  by_cases h : k = o <;> simp [push, h]

/-- The first prefix that was declared, unless it is empty. Later ones have no effect. -/
def declaredPrefix? (d : DirectoryOptions) : Option String :=
  (d.get .basePrefix).head?.filter (· ≠ "")

def isEmpty (d : DirectoryOptions) : Bool :=
  DirectoryOption.all.all fun o => (d.get o).isEmpty

/-- The known keywords with their paths, in the order of the keywords. -/
def toList (d : DirectoryOptions) : List (DirectoryOption × List String) :=
  DirectoryOption.all.filterMap fun o => (d.paths? o).map (o, ·)

/-- The options with the given entries; of two entries for one keyword the later one counts. -/
def ofList (entries : List (DirectoryOption × List String)) : DirectoryOptions :=
  entries.foldl (fun d entry => d.set entry.1 entry.2) empty

end DirectoryOptions

end CompilerLog.Gcc
