import CompilerLog.Arguments
import CompilerLog.BuiltIn.CommandProbe
import CompilerLog.Invocation.Codec
import CompilerLog.Properties.Document
import CompilerLog.Scan
import CompilerLog.Settings.File
/-!
# The application

Arguments and settings are put together once, before anything is read. A run then scans the build
log for the first invocation and stores it in the properties file; it reads from a file tree and
answers the tree that it leaves.
-/

namespace CompilerLog

/-- Where the build log comes from. -/
inductive LogOrigin where
  | standardInput
  | file (path : String)
  deriving DecidableEq, Repr

def LogOrigin.text : LogOrigin → String
  | standardInput => "Stdin"
  | file path => "File(" ++ Text.Quoted.quote path ++ ")"

/-- Why the application cannot be set up. -/
inductive SetupError where
  | trigger (error : TriggerError)
  | emptyName
  deriving DecidableEq, Repr

def SetupError.message : SetupError → String
  | trigger error => s!"Invalid parser trigger: {error.message}"
  | emptyName => "Invalid configuration: empty configuration name"

/-- An application that is set up. -/
structure Application (σ : Type) where
  origin : LogOrigin
  dispatcher : Dispatcher σ
  target : Target

/-- Why a run fails. -/
inductive RunError where
  | unopened (path : String) (cause : FileError)
  | unreadable (cause : FileError)
  | unstored (error : DocumentError)
  deriving DecidableEq, Repr

/-- The text of an error; `describe` tells what is wrong with a text that holds no content. -/
def RunError.message (describe : String → String) : RunError → String
  | unopened path cause => s!"Failed to open build log {path}: {cause.text}"
  | unreadable cause => cause.text
  | unstored error => error.message describe

def EngineSettings.engine {σ : Type} (e : EngineSettings) (compile : RegexCompiler)
    (reader : TextReader) (source : σ) (infoEnabled : Bool) : Except TriggerError (Engine σ) := do
  let trigger ← Trigger.ofPatterns compile e.required e.forbidden
  let dialect := match e.dialect with
    | .gcc => Dialect.gcc reader e.directories
  pure { trigger, dialect, source := some source, infoEnabled := e.infoEnabled && infoEnabled,
         result := none }

namespace Application

variable {σ : Type}

/-- The name of the configuration to be written: the one in the arguments counts before that in the
settings. -/
def effectiveName (a : Arguments) (s : Settings) : String := a.name.getD s.output.configuration

/-- How to merge: the mode in the arguments counts before that in the settings. -/
def effectiveMode (a : Arguments) (s : Settings) : MergeMode := a.merge.getD s.output.merge

/-- Sets the application up. Every engine gets a source of its own. -/
def configure (compile : RegexCompiler) (reader : TextReader) (source : σ) (a : Arguments)
    (s : Settings) : Logged (Except SetupError (Application σ)) :=
  match s.engines.mapM fun e => e.engine compile reader source a.infoEnabled with
  | .error error => pure (.error (.trigger error))
  | .ok engines => do
    log .debug s!"Parser engines configured: {engines.length}"
    let name := effectiveName a s
    let mode := effectiveMode a s
    if Text.isAllBlank name then pure (.error .emptyName)
    else do
      log .debug s!"Writing configuration '{name}' with merge mode {mode.name}"
      pure (.ok { origin := if a.readsStandardInput then .standardInput else .file a.input,
                  dispatcher := .ofEngines engines, target := ⟨a.output, name, mode⟩ })

/-- The build log, which a directory can be opened as, but not read. -/
def openLog (origin : LogOrigin) (tree : FileTree) (standardInput : Input) :
    Except RunError Input :=
  match origin with
  | .standardInput => .ok standardInput
  | .file path =>
    match tree.find path with
    | .error failure => .error (.unopened path (.ofSystem failure))
    | .ok .directory => .ok ⟨[], some (.ofSystem .isADirectory)⟩
    | .ok (.file bytes _) => .ok ⟨bytes, none⟩

/-- Scans the build log and stores what is found. Answers whether something was found, and the tree
afterwards. -/
def execute [InfoSource σ] (app : Application σ) (tree : FileTree) (standardInput : Input) :
    Logged (Except RunError Bool × FileTree) :=
  match openLog app.origin tree standardInput with
  | .error error => pure (.error error, tree)
  | .ok input => do
    let scan ← app.dispatcher.scan input
    match scan.outcome with
    | .error cause => pure (.error (.unreadable cause), tree)
    | .ok none => do
      log .warn s!"No compiler invocation found in {app.origin.text}"
      pure (.ok false, tree)
    | .ok (some found) => do
      log .info found.summary
      let (stored, tree) ← app.target.store found tree
      pure <| match stored with
        | .error error => (.error (.unstored error), tree)
        | .ok _ => (.ok true, tree)

/-- Runs the application and reports a failure. Answers whether the run succeeds, and the tree
afterwards. -/
def run [InfoSource σ] (app : Application σ) (describe : String → String) (tree : FileTree)
    (standardInput : Input) : Logged (Bool × FileTree) := do
  let (outcome, tree) ← app.execute tree standardInput
  match outcome with
  | .error error => do
    log .error s!"ccparse: {error.message describe}"
    pure (false, tree)
  | .ok success => pure (success, tree)

end Application

/-- What the program leaves to libraries and to the system that it runs on. -/
structure Host where
  /-- Compiles the regular expressions of triggers. -/
  compile : RegexCompiler
  /-- Reads the settings that a document spells. -/
  decode : SettingsDecoder
  /-- Tells what is wrong with a text that holds no content of a properties file. -/
  describe : String → String
  directories : SettingsDirectories
  /-- Runs compilers. -/
  probe : Probe

def Application.configureIn (host : Host) (tree : FileTree) (a : Arguments) (s : Settings) :
    Logged (Except SetupError (Application CachingSource)) :=
  configure host.compile tree.readText (.ofProbe host.probe) a s

/-- Why the program ends before it runs. -/
inductive StartError where
  | usage (error : UsageError)
  | settings (error : SettingsError)
  | setup (error : SetupError)
  deriving DecidableEq, Repr

def StartError.message : StartError → String
  | usage error => error.message
  | settings error => error.message
  | setup error => error.message

/-- The whole program in a file tree: its arguments are read, the settings are loaded, and the
application is set up and run. Answers whether the run succeeds, and the tree afterwards. -/
def runProgram (host : Host) (words : List String) (directory : String) (tree : FileTree)
    (standardInput : Input) : Logged (Except StartError Bool × FileTree) :=
  match Arguments.ofList words with
  | .error error => pure (.error (.usage error), tree)
  | .ok arguments => do
    let loaded ← Settings.load host.compile host.decode host.directories tree directory
      arguments.config
    match loaded with
    | .error error => pure (.error (.settings error), tree)
    | .ok settings => do
      let configured ← Application.configureIn host tree arguments settings
      match configured with
      | .error error => pure (.error (.setup error), tree)
      | .ok app => do
        let (success, tree) ← app.run host.describe tree standardInput
        pure (.ok success, tree)

end CompilerLog
