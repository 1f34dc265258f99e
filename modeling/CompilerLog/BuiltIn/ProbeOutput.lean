import CompilerLog.BuiltIn.Info
import CompilerLog.Text.Blank
import CompilerLog.Text.Cut
/-!
# What a probed compiler prints

A compiler that preprocesses an empty source prints its macros to the standard output, and the
list of its include directories, between markers, to the standard error.
-/

namespace CompilerLog

/-- The captured output of a compiler. -/
structure ProbeOutput where
  stdout : String
  stderr : String
  deriving DecidableEq, Repr

namespace ProbeOutput

def defineMarker : String := "#define "

def quoteMarker : String := "#include \"...\" search starts here:"

def angleMarker : String := "#include <...> search starts here:"

def endMarker : String := "End of search list."

def frameworkEnding : String := " (framework directory)"

/-- The define of a macro, from its name and its value: both end at the first blank. -/
def defineOf? (definition : String) : Option String :=
  let text := (Text.trim definition).toList
  let name := text.takeWhile (· ≠ ' ')
  match text.drop name.length with
  | [] => if name = [] then none else some (String.ofList name)
  | _ :: value => some (String.ofList (name ++ '=' :: value.dropWhile Text.isBlank))

def defineOfLine? (line : String) : Option String :=
  (defineMarker.toList.isPrefixOf? line.toList).bind fun rest => defineOf? (String.ofList rest)

def defines (stdout : String) : List String :=
  (Text.lines stdout).filterMap defineOfLine?

def directoryOf (line : String) : String :=
  match frameworkEnding.toList.isSuffixOf? line.toList with
  | some path => String.ofList path
  | none => line

/-- The directories in the given lines, which stand inside a list or not. -/
def directories (inside : Bool) : List String → List String
  | [] => []
  | line :: rest =>
    let line := Text.trim line
    if line = quoteMarker ∨ line = angleMarker then directories true rest
    else if line = endMarker then directories false rest
    else if inside ∧ line ≠ "" then directoryOf line :: directories inside rest
    else directories inside rest

def info (output : ProbeOutput) : BuiltInInfo :=
  ⟨directories false (Text.lines output.stderr), defines output.stdout⟩

end ProbeOutput

end CompilerLog
