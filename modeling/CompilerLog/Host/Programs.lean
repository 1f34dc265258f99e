import CompilerLog.BuiltIn.CommandProbe
import CompilerLog.Files.Tree
import CompilerLog.Host.Script.Run
import CompilerLog.Text.Cut
/-!
# Programs in a file tree

In a file tree the only programs that can be run are shell scripts, and only those that are named by
a path.
-/

namespace CompilerLog.Programs

/-- Whether a name is a path, and so is not looked for among the installed programs. -/
def isPath (name : String) : Bool := 1 < (Path.components name).length

def script? (tree : FileTree) (name : String) : Option (List UInt8) :=
  if isPath name then
    match tree.find name with
    | .ok (.file bytes true) => some bytes
    | _ => none
  else none

/-- What a script names as its interpreter. -/
inductive Interpreter where
  /-- The script does not begin with an interpreter. -/
  | missing
  | shell
  /-- A program that looks for the interpreter, which is not installed. -/
  | notInstalled
  /-- A file that does not exist. -/
  | absent
  deriving DecidableEq, Repr

def shells : List String := ["sh", "bash", "dash"]

def directories : List String := ["/bin/", "/usr/bin/"]

def installed (programs : List String) : List String :=
  directories.flatMap fun directory => programs.map (directory ++ ·)

def Interpreter.ofText (text : List Char) : Interpreter :=
  match text with
  | '#' :: '!' :: rest =>
    let words := Text.runs (fun c => c = ' ' || c = '\t') (rest.takeWhile (· ≠ '\n'))
    match words.map String.ofList with
    | [] => .missing
    | program :: words =>
      if (installed shells).contains program then .shell
      else if (installed ["env"]).contains program then
        if words.head?.any shells.contains then .shell else .notInstalled
      else .absent
  | _ => .missing

def runScript (name : String) (arguments : List String) (text : List Char) : ProgramRun :=
  let run := Shell.Script.run ⟨name, arguments, "4711"⟩ text
  match run.result with
  | .exit code => ⟨some code, run.output, run.error⟩
  | .killed => ⟨none, run.output, run.error⟩

def runBytes (name : String) (arguments : List String) (bytes : List UInt8) :
    Except String ProgramRun :=
  let text := Text.Utf8.decodeLossy bytes
  match Interpreter.ofText text with
  | .missing => .error "Exec format error (os error 8)"
  | .shell => .ok (runScript name arguments text)
  | .notInstalled => .ok ⟨some 127, [], []⟩
  | .absent => .error (FileError.ofSystem .notFound).text

def ofTree (tree : FileTree) : Programs where
  find? := fun name => (script? tree name).map fun _ => name
  run := fun _ file arguments =>
    match script? tree file with
    | none => .error (FileError.ofSystem .notFound).text
    | some bytes => runBytes file arguments bytes

end CompilerLog.Programs
