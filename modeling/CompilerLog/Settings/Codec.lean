import CompilerLog.Gcc.DirectoryOption.Codec
import CompilerLog.Json.Record
import CompilerLog.Settings
/-!
# Settings as JSON

The record of the settings. All fields but the schema may be missing; only the supported schema is
read.
-/

namespace CompilerLog

def Pattern.toJson : Pattern → Json
  | .literal text => .ofFields [("literal", .ofString text)]
  | .regex expression => .ofFields [("regex", .ofString expression)]

def Pattern.field? (name : String) (fields : List (Option String × Json)) : Option String :=
  match Json.valuesOf name fields with
  | [value] => value.asString?
  | _ => none

/-- The pattern that an object holds. It is a literal if it can be read as one. -/
def Pattern.ofJson? : Json → Option Pattern
  | .object fields =>
    ((field? "literal" fields).map .literal).or ((field? "regex" fields).map .regex)
  | _ => none

def DialectName.ofJson? (value : Json) : Option DialectName := value.asCase?.bind ofName?

namespace EngineSettings

def toJson (e : EngineSettings) : Json :=
  .ofFields
    [("dialect", .ofString e.dialect.name), ("match", .array (e.required.map Pattern.toJson)),
      ("dont_match", .array (e.forbidden.map Pattern.toJson)),
      ("builtin_info", .bool e.infoEnabled), ("directory_options", e.directories.toJson)]

def ofJson? (value : Json) : Option EngineSettings := do
  let patterns := Json.optional? [] (Json.asList? Pattern.ofJson?)
  let fields ← value.asRecord? fieldNames
  match fields with
  | [dialect, required, forbidden, infoEnabled, directories] =>
    let dialect ← Json.optional? .gcc DialectName.ofJson? dialect
    let required ← patterns required
    let forbidden ← patterns forbidden
    let infoEnabled ← Json.optional? true Json.asBool? infoEnabled
    let directories ← Json.optional? .empty Gcc.DirectoryOptions.ofJson? directories
    pure { dialect, required, forbidden, infoEnabled, directories }
  | _ => none

end EngineSettings

namespace OutputSettings

def toJson (o : OutputSettings) : Json :=
  .ofFields [("configuration", .ofString o.configuration), ("merge", .ofString o.merge.name)]

def ofJson? (value : Json) : Option OutputSettings := do
  let fields ← value.asRecord? fieldNames
  match fields with
  | [configuration, merge] =>
    let configuration ← Json.optional? default.configuration Json.asString? configuration
    let merge ← Json.optional? default.merge MergeMode.ofJson? merge
    pure { configuration, merge }
  | _ => none

end OutputSettings

namespace Settings

def toJson (s : Settings) : Json :=
  .ofFields
    [("schema", .ofString s.schema), ("parsers", .array (s.engines.map EngineSettings.toJson)),
      ("properties", s.output.toJson)]

/-- The schema that a value names, if it is the supported one. -/
def schemaOfJson? (value : Json) : Option String :=
  value.asString?.filter (· = supportedSchema)

def ofJson? (value : Json) : Option Settings := do
  let fields ← value.asRecord? fieldNames
  match fields with
  | [schema, engines, output] =>
    let schema ← Json.required? schemaOfJson? schema
    let engines ← Json.optional? default.engines (Json.asList? EngineSettings.ofJson?) engines
    let output ← Json.optional? default.output OutputSettings.ofJson? output
    pure { schema, engines, output }
  | _ => none

end Settings

end CompilerLog
