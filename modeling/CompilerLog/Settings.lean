import CompilerLog.Gcc.DirectoryOption
import CompilerLog.Properties.Configuration
import CompilerLog.Trigger
/-!
# Settings

What a settings file says: which engines read the build log, and where their result goes. A file
that says nothing about either gets the defaults.
-/

namespace CompilerLog

/-- The dialects that an engine can be set to. -/
inductive DialectName where
  | gcc
  deriving DecidableEq, Repr

namespace DialectName

def name : DialectName → String
  | gcc => "gcc"

def ofName? (name : String) : Option DialectName :=
  if name = "gcc" then some gcc else none

theorem ofName?_name (d : DialectName) : ofName? d.name = some d := by cases d; rfl

end DialectName

/-- How one engine is set up. -/
structure EngineSettings where
  dialect : DialectName
  /-- The patterns that have to be found in a line. -/
  required : List Pattern
  /-- The patterns that must not be found in it. -/
  forbidden : List Pattern
  /-- Whether the compiler is asked for its built-in information. -/
  infoEnabled : Bool
  /-- The directory options known from the start. -/
  directories : Gcc.DirectoryOptions

namespace EngineSettings

/-- The names of the fields, in order. -/
def fieldNames : List String :=
  ["dialect", "match", "dont_match", "builtin_info", "directory_options"]

def unset : EngineSettings := ⟨.gcc, [], [], true, .empty⟩

def gcc : EngineSettings where
  dialect := .gcc
  required := [.regex "(?:^|-)g\\+\\+\\s+", .regex "\\s+-c\\s+"]
  forbidden := [.regex "-o\\s/dev/null"]
  infoEnabled := true
  directories := .empty

end EngineSettings

/-- Where the result goes in the properties file. -/
structure OutputSettings where
  configuration : String
  merge : MergeMode
  deriving DecidableEq, Repr

namespace OutputSettings

/-- The names of the fields, in order. -/
def fieldNames : List String := ["configuration", "merge"]

def default : OutputSettings := ⟨"ccparse", .replace⟩

end OutputSettings

/-- The whole of the settings. -/
structure Settings where
  /-- The version of the layout of the file. -/
  schema : String
  engines : List EngineSettings
  output : OutputSettings

namespace Settings

/-- The names of the fields, in order. -/
def fieldNames : List String := ["schema", "parsers", "properties"]

def supportedSchema : String := "1.0"

/-- One engine for gcc, and the default output. -/
def default : Settings := ⟨supportedSchema, [.gcc], .default⟩

instance : Inhabited Settings := ⟨default⟩

end Settings

end CompilerLog
