import CompilerLog.Files.Tree
import CompilerLog.Log
import CompilerLog.Settings.Validation
/-!
# Settings files

Where settings are looked for, and what is read from the first file that is there. Settings that
come from a file are valid. The format of the file is that of the decoder, and the directories with
the settings of the user are those that the system names.
-/

namespace CompilerLog

/-- Why no settings could be read from a file. -/
inductive SettingsError where
  | access (path : String) (cause : FileError)
  | unreadable (path fault : String)
  | invalid (path : String) (report : Report)
  deriving DecidableEq, Repr

def SettingsError.message : SettingsError → String
  | access path cause => s!"Failed to access configuration file '{path}': {cause.text}"
  | unreadable path fault => s!"Failed to parse configuration from file '{path}': {fault}"
  | invalid _ report =>
    let detail := report.message?.getD ""
    s!"Configuration validation failed: {detail}"

/-- The directories that hold settings, for all programs of the user and for this one: those of this
machine and those of all machines. There are none if the user has no home. -/
structure SettingsDirectories where
  user? : Option (String × String)
  program? : Option (String × String)
  deriving DecidableEq, Repr

def SettingsDirectories.all (d : SettingsDirectories) : List String :=
  (d.user?.toList ++ d.program?.toList).flatMap fun pair => [pair.1, pair.2]

/-- Reads the settings that a document spells, or answers what is wrong with it. Reading the
document may have failed already. -/
abbrev SettingsDecoder := (document : Except FileError (List UInt8)) → Except String Settings

namespace Settings

def fileName : String := "ccparse.yml"

def dropRepeated : List String → List String
  | [] => []
  | path :: rest =>
    match dropRepeated rest with
    | [] => [path]
    | next :: others => if Path.same path next then path :: others else path :: next :: others

/-- The files that settings are looked for in, in order: the one in the given directory, and those
in the directories that hold settings. -/
def locations (directories : SettingsDirectories) (directory : String) : List String :=
  (dropRepeated (directory :: directories.all)).map (Path.join · fileName)

section

variable (compile : RegexCompiler) (decode : SettingsDecoder)

/-- Decodes an open file and checks what it says. A directory can be opened, but not read. -/
def ofFile (path : String) (node : FileNode) : Except SettingsError Settings :=
  let document := match node with
    | .directory => .error (.ofSystem .isADirectory)
    | .file bytes _ => .ok bytes
  match decode document with
  | .error fault => .error (.unreadable path fault)
  | .ok s =>
    match s.validate compile with
    | .valid => .ok s
    | report => .error (.invalid path report)

def loadFile (tree : FileTree) (path : String) : Logged (Except SettingsError Settings) := do
  log .info s!"Loading configuration file: {path}"
  pure <| match tree.find path with
    | .error failure => .error (.access path (.ofSystem failure))
    | .ok node => ofFile compile decode path node

/-- Reads the first of the given files that is there; without one, the defaults count. -/
def loadFirst (tree : FileTree) : List String → Logged (Except SettingsError Settings)
  | [] => do
    log .debug "Configuration file not found. Using the default configuration."
    pure (.ok default)
  | path :: rest => do
    log .debug s!"Checking configuration file: {path}"
    if tree.contains path then loadFile compile decode tree path else loadFirst tree rest

/-- Loads the settings from a file that is named, or else from where they are looked for. -/
def load (directories : SettingsDirectories) (tree : FileTree) (directory : String)
    (path : Option String) : Logged (Except SettingsError Settings) :=
  match path with
  | some path => loadFile compile decode tree path
  | none => loadFirst compile decode tree (locations directories directory)

end

end Settings

end CompilerLog
