import CompilerLog.Settings.Codec
import CompilerLog.Text.Cut
import CompilerLog.Text.Utf8
import CompilerLog.Host.Yaml.Decode
import CompilerLog.Host.Yaml.Node.Parser
import CompilerLog.Host.Yaml.Printer
/-!
# Settings in a YAML file

The settings that a document spells, and the document that shows settings. The schema is checked
where it stands, so that its fault is reported unless another one comes before it.
-/

namespace CompilerLog

/-- Why a document spells no settings. -/
inductive SettingsFault where
  | malformed
  | wrongSchema (schema : String)
  deriving DecidableEq, Repr

namespace SettingsFault

def message : SettingsFault → String
  | malformed => "malformed document"
  | wrongSchema schema =>
    s!"Unsupported schema version: {schema}. Expected: {Settings.supportedSchema}"

/-- What is read, or else the fault of a malformed document. -/
def orMalformed {α : Type} (found : Option α) : Except SettingsFault α :=
  match found with
  | some value => .ok value
  | none => .error .malformed

end SettingsFault

open SettingsFault (orMalformed)

/-- The pattern that a mapping spells. It is a literal if it can be read as one. -/
def Pattern.ofNode? (node : Yaml.Node) : Option Pattern :=
  match node with
  | .mapping _ entries =>
    if Yaml.Held.canHold node then
      ((Yaml.Held.textOf? "literal" entries).map .literal).or
        ((Yaml.Held.textOf? "regex" entries).map .regex)
    else none
  | _ => none

def Pattern.listOfNode? (node : Yaml.Node) : Option (List Pattern) :=
  node.asItems?.bind fun items => items.mapM Pattern.ofNode?

namespace Gcc.DirectoryOptions

def entryOfNodes? (entry : Yaml.Node × Yaml.Node) : Option (DirectoryOption × List String) := do
  let option ← entry.1.asCase?.bind DirectoryOption.ofKeyword?
  let paths ← entry.2.asTexts?
  pure (option, paths)

/-- The directory options that a mapping spells; every key in it has to be a keyword. -/
def ofNode? (node : Yaml.Node) : Option DirectoryOptions :=
  node.asEntries?.bind fun entries => (entries.mapM entryOfNodes?).map ofList

end Gcc.DirectoryOptions

namespace EngineSettings

def readField (e : EngineSettings) (key : String) (value : Yaml.Node) :
    Except SettingsFault EngineSettings :=
  orMalformed <|
    if key = "dialect" then
      (value.asCase?.bind DialectName.ofName?).map fun dialect => { e with dialect }
    else if key = "match" then
      (Pattern.listOfNode? value).map fun required => { e with required }
    else if key = "dont_match" then
      (Pattern.listOfNode? value).map fun forbidden => { e with forbidden }
    else if key = "builtin_info" then
      value.asTruth?.map fun infoEnabled => { e with infoEnabled }
    else (Gcc.DirectoryOptions.ofNode? value).map fun directories => { e with directories }

def ofNode (node : Yaml.Node) : Except SettingsFault EngineSettings := do
  let entries ← orMalformed node.asEntries?
  Yaml.readFields .malformed fieldNames readField [] unset entries

end EngineSettings

namespace OutputSettings

def readField (o : OutputSettings) (key : String) (value : Yaml.Node) :
    Except SettingsFault OutputSettings :=
  orMalformed <|
    if key = "configuration" then value.asText?.map fun configuration => { o with configuration }
    else (value.asCase?.bind MergeMode.ofName?).map fun merge => { o with merge }

def ofNode (node : Yaml.Node) : Except SettingsFault OutputSettings := do
  let entries ← orMalformed node.asEntries?
  Yaml.readFields .malformed fieldNames readField [] default entries

end OutputSettings

namespace Settings

/-- The schema that a scalar names, if it is the supported one. -/
def schemaOfNode (node : Yaml.Node) : Except SettingsFault String := do
  let schema ← orMalformed node.asText?
  if schema = supportedSchema then .ok schema else .error (.wrongSchema schema)

/-- Reads a field, and whether it is the schema. -/
def readField (found : Bool × Settings) (key : String) (value : Yaml.Node) :
    Except SettingsFault (Bool × Settings) :=
  let (hasSchema, s) := found
  if key = "schema" then do
    let schema ← schemaOfNode value
    pure (true, { s with schema })
  else if key = "parsers" then do
    let items ← orMalformed value.asItems?
    let engines ← items.mapM EngineSettings.ofNode
    pure (hasSchema, { s with engines })
  else do
    let output ← OutputSettings.ofNode value
    pure (hasSchema, { s with output })

def ofNode (node : Yaml.Node) : Except SettingsFault Settings := do
  let entries ← orMalformed node.asEntries?
  let (hasSchema, s) ← Yaml.readFields .malformed fieldNames readField [] (false, default) entries
  if hasSchema then .ok s else .error .malformed

def ofText (text : List Char) : Except SettingsFault Settings := do
  let document := Yaml.Document.ofText text
  let s ← ofNode document.root
  if document.isLast then .ok s else .error .malformed

def ofBytes (bytes : List UInt8) : Except SettingsFault Settings := do
  let text ← orMalformed (Text.Utf8.decode? bytes)
  ofText text

/-- The settings as the log shows them: a heading and the lines of a document. -/
def listing (s : Settings) : String :=
  let lines := Text.lines (Yaml.Printer.document s.toJson)
  String.join (("Configuration:" :: lines).map (· ++ "\n"))

end Settings

end CompilerLog
