import CompilerLog.Invocation
import CompilerLog.Json.Record
/-!
# Configurations

One named entry of the properties file, with the lists and texts that an editor needs to read the
sources, and the three ways to bring a new entry into an old one of the same name.
-/

namespace CompilerLog

/-- How a configuration is brought into the stored one of its name. -/
inductive MergeMode where
  /-- The new one takes the place of the stored one. -/
  | replace
  /-- What is stored stays in place, what is new follows it. -/
  | unique
  /-- What is new comes first, followed by what only the stored one has. -/
  | keepOrder
  deriving DecidableEq, Repr

namespace MergeMode

def all : List MergeMode := [replace, unique, keepOrder]

def name : MergeMode → String
  | replace => "replace"
  | unique => "unique"
  | keepOrder => "keep-order"

def ofName? (name : String) : Option MergeMode :=
  all.find? (·.name = name)

theorem ofName?_name (m : MergeMode) : ofName? m.name = some m := by cases m <;> decide

def unknownMessage (name : String) : String := s!"Unknown merge mode: {name}"

def ofJson? (value : Json) : Option MergeMode := value.asCase?.bind ofName?

end MergeMode

/-- A named entry of the properties file. -/
structure Configuration where
  name : String
  compilerPath : String
  compilerArgs : List String
  intelliSenseMode : String
  includePath : List String
  forcedInclude : List String
  cStandard : String
  cppStandard : String
  defines : List String
  deriving DecidableEq, Repr

namespace Configuration

def empty : Configuration := ⟨"", "", [], "", [], [], "", "", []⟩

instance : Inhabited Configuration := ⟨empty⟩

def gccMode : String := "gcc-x64"

def ofInvocation (name : String) (i : Invocation) : Configuration where
  name := name
  compilerPath := i.compiler
  compilerArgs := i.options
  intelliSenseMode := gccMode
  includePath := i.includes
  forcedInclude := []
  cStandard := ""
  cppStandard := i.standard.name
  defines := i.defines

def mergeText (stored incoming : String) : String := if incoming = "" then stored else incoming

/-- Adds the entries that are not in the list yet, each once. -/
def appendNew (stored incoming : List String) : List String :=
  incoming.foldl (fun found entry => if entry ∈ found then found else found ++ [entry]) stored

def putFirst (stored incoming : List String) : List String :=
  incoming ++ stored.filter fun entry => entry ∉ incoming

def mergeWith (lists : List String → List String → List String)
    (stored incoming : Configuration) : Configuration where
  name := stored.name
  compilerPath := mergeText stored.compilerPath incoming.compilerPath
  compilerArgs := lists stored.compilerArgs incoming.compilerArgs
  intelliSenseMode := mergeText stored.intelliSenseMode incoming.intelliSenseMode
  includePath := lists stored.includePath incoming.includePath
  forcedInclude := lists stored.forcedInclude incoming.forcedInclude
  cStandard := mergeText stored.cStandard incoming.cStandard
  cppStandard := mergeText stored.cppStandard incoming.cppStandard
  defines := lists stored.defines incoming.defines

def merge (mode : MergeMode) (stored incoming : Configuration) : Configuration :=
  match mode with
  | .replace => incoming
  | .unique => mergeWith appendNew stored incoming
  | .keepOrder => mergeWith putFirst stored incoming

theorem name_merge (mode : MergeMode) {stored incoming : Configuration}
    (h : stored.name = incoming.name) : (merge mode stored incoming).name = stored.name := by
  cases mode with
  | replace => exact h.symm
  | unique => rfl
  | keepOrder => rfl

/-- The names of the fields, in order. -/
def fieldNames : List String :=
  ["name", "compilerPath", "compilerArgs", "intelliSenseMode", "includePath", "forcedInclude",
    "cStandard", "cppStandard", "defines"]

def toJson (c : Configuration) : Json :=
  .ofFields
    [("name", .ofString c.name), ("compilerPath", .ofString c.compilerPath),
      ("compilerArgs", .ofStrings c.compilerArgs),
      ("intelliSenseMode", .ofString c.intelliSenseMode),
      ("includePath", .ofStrings c.includePath), ("forcedInclude", .ofStrings c.forcedInclude),
      ("cStandard", .ofString c.cStandard), ("cppStandard", .ofString c.cppStandard),
      ("defines", .ofStrings c.defines)]

def ofJson? (value : Json) : Option Configuration := do
  let text := Json.optional? "" Json.asString?
  let list := Json.optional? [] Json.asStrings?
  let fields ← value.asRecord? fieldNames
  match fields with
  | [name, compilerPath, compilerArgs, intelliSenseMode, includePath, forcedInclude, cStandard,
      cppStandard, defines] =>
    let name ← text name
    let compilerPath ← text compilerPath
    let compilerArgs ← list compilerArgs
    let intelliSenseMode ← text intelliSenseMode
    let includePath ← list includePath
    let forcedInclude ← list forcedInclude
    let cStandard ← text cStandard
    let cppStandard ← text cppStandard
    let defines ← list defines
    pure { name, compilerPath, compilerArgs, intelliSenseMode, includePath, forcedInclude,
           cStandard, cppStandard, defines }
  | _ => none

end Configuration

end CompilerLog
