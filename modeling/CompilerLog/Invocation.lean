/-!
# Compiler invocations

What one compiler command of a build log says: the compiler, its include directories, its defines
and the language standard. Every argument of the command is in one of the lists.
-/

namespace CompilerLog

/-- The C++ standard that a command selects. -/
inductive Standard where
  | unset
  | cpp98
  | cpp11
  | cpp14
  | cpp17
  | cpp20
  deriving DecidableEq, Repr

namespace Standard

def all : List Standard := [unset, cpp98, cpp11, cpp14, cpp17, cpp20]

theorem mem_all (s : Standard) : s ∈ all := by cases s <;> decide

def ofVersion? (version : String) : Option Standard :=
  if version = "98" then some cpp98
  else if version = "11" then some cpp11
  else if version = "14" then some cpp14
  else if version = "17" then some cpp17
  else if version = "20" then some cpp20
  else none

/-- The name of a standard in the properties file; empty where none is selected. -/
def name : Standard → String
  | unset => ""
  | cpp98 => "c++98"
  | cpp11 => "c++11"
  | cpp14 => "c++14"
  | cpp17 => "c++17"
  | cpp20 => "c++20"

def ofName? (name : String) : Option Standard :=
  all.find? (·.name = name)

theorem ofName?_name (s : Standard) : ofName? s.name = some s := by cases s <;> decide

def text : Standard → String
  | unset => "none"
  | s => s.name

end Standard

/-- The classified arguments of a compiler command. -/
structure Invocation where
  /-- The compiler; empty when the command names none. -/
  compiler : String
  /-- The include directories, in order. -/
  includes : List String
  /-- The defines, each a name or a name with a value, in order. -/
  defines : List String
  /-- The flags that are kept as they are. -/
  options : List String
  /-- The arguments of no use to a reader of the sources. -/
  trash : List String
  standard : Standard
  deriving DecidableEq, Repr

namespace Invocation

def empty : Invocation := ⟨"", [], [], [], [], .unset⟩

instance : Inhabited Invocation := ⟨empty⟩

def hasCompiler (i : Invocation) : Bool := i.compiler ≠ ""

end Invocation

end CompilerLog
