import CompilerLog.Gcc.DirectoryOption
import CompilerLog.Json.Record
/-!
# Directory options as JSON

An object from keywords to lists of paths. A keyword may stand twice; then the later list counts.
-/

namespace CompilerLog.Gcc.DirectoryOptions

def toJson (d : DirectoryOptions) : Json :=
  .ofFields (d.toList.map fun (option, paths) => (option.keyword, .ofStrings paths))

def entry? (field : Option String × Json) : Option (DirectoryOption × List String) := do
  let option ← field.1.bind DirectoryOption.ofKeyword?
  let paths ← field.2.asStrings?
  pure (option, paths)

/-- The directory options that an object holds; every name in it has to be a keyword. -/
def ofJson? : Json → Option DirectoryOptions
  | .object fields => (fields.mapM entry?).map ofList
  | _ => none

end CompilerLog.Gcc.DirectoryOptions
