/-!
# Built-in information of compilers

What a compiler adds to every command without being asked: include directories and defines. Asking
for it may fail; a failure is a value that can be kept and answered again.
-/

namespace CompilerLog

/-- The include directories and defines that a compiler brings along. -/
structure BuiltInInfo where
  includes : List String
  defines : List String
  deriving DecidableEq, Repr

def BuiltInInfo.isEmpty (info : BuiltInInfo) : Bool :=
  info.includes.isEmpty && info.defines.isEmpty

/-- Why a compiler told nothing about itself. -/
inductive InfoError where
  | notFound (compiler : String)
  | execution (compiler reason : String)
  /-- The compiler ended with an exit code other than zero, or without one. -/
  | status (compiler : String) (code : Option Int)
  deriving DecidableEq, Repr

namespace InfoError

def codeText : Option Int → String
  | some code => s!"Some({code})"
  | none => "None"

def message : InfoError → String
  | notFound compiler => s!"Compiler not found: {compiler}"
  | execution compiler reason => s!"Failed to execute compiler {compiler}: {reason}"
  | status compiler code => s!"Compiler {compiler} failed with exit code {codeText code}"

end InfoError

/-- An answer about a compiler: what it told, nothing, or a failure. -/
abbrev InfoAnswer := Except InfoError (Option BuiltInInfo)

end CompilerLog
