import CompilerLog.BuiltIn.Source
import CompilerLog.Text.Utf8
/-!
# Probing compilers by running them

A compiler is looked for among the programs of the system, and run without input and with the
arguments that make it tell about itself. What it prints counts only if it ends well.
-/

namespace CompilerLog

/-- How a program ended: with an exit code, unless it was killed, and with what it had printed. -/
structure ProgramRun where
  code : Option Int
  output : List UInt8
  error : List UInt8
  deriving DecidableEq, Repr

/-- The programs of the system. -/
structure Programs where
  /-- The file of the program that a name stands for. -/
  find? : String → Option String
  /-- Runs a program file with arguments, or answers why it cannot be run. This may depend on the
  compilers that were asked before. -/
  run : (asked : List String) → (file : String) → (arguments : List String) →
    Except String ProgramRun

namespace CommandProbe

/-- The arguments that make a compiler print its macros and its include directories. -/
def arguments : List String := ["-xc++", "-E", "-v", "-dM", "-"]

def outcome (compiler : String) : Except String ProgramRun → Except InfoError ProbeOutput
  | .error reason => .error (.execution compiler reason)
  | .ok run =>
    if run.code = some 0 then
      .ok ⟨String.ofList (Text.Utf8.decodeLossy run.output),
        String.ofList (Text.Utf8.decodeLossy run.error)⟩
    else .error (.status compiler run.code)

def ofPrograms (programs : Programs) : Probe := fun asked compiler =>
  match programs.find? compiler with
  | none => pure (.error (.notFound compiler))
  | some file => do
    log .debug s!"Probing compiler: {file}"
    pure (outcome compiler (programs.run asked file arguments))

end CommandProbe

end CompilerLog
