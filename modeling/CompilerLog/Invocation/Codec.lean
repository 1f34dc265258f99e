import CompilerLog.Invocation
import CompilerLog.Json.Printer
import CompilerLog.Json.Record
import CompilerLog.Text.Quoted
/-!
# Invocations as text and as JSON

The one-line summary of an invocation for the log, and its record in JSON.
-/

namespace CompilerLog

/-- An invocation in one line: the compiler, and how much there is of everything else. -/
def Invocation.summary (i : Invocation) : String :=
  s!"compiler: {Text.Quoted.quote i.compiler}, includes: {i.includes.length}, " ++
    s!"defines: {i.defines.length}, options: {i.options.length}, trash: {i.trash.length}, " ++
    s!"standard: {i.standard.text}"

/-- The names of the fields of an invocation, in order. -/
def Invocation.fieldNames : List String :=
  ["compiler", "includes", "defines", "options", "trash", "cppStandard"]

def Standard.ofJson? (value : Json) : Option Standard :=
  value.asCase?.bind Standard.ofName?

def Invocation.toJson (i : Invocation) : Json :=
  .ofFields
    [("compiler", .ofString i.compiler), ("includes", .ofStrings i.includes),
      ("defines", .ofStrings i.defines), ("options", .ofStrings i.options),
      ("trash", .ofStrings i.trash), ("cppStandard", .ofString i.standard.name)]

def Invocation.ofJson? (value : Json) : Option Invocation := do
  let fields ← value.asRecord? Invocation.fieldNames
  match fields with
  | [compiler, includes, defines, options, trash, standard] =>
    let compiler ← Json.required? Json.asString? compiler
    let includes ← Json.required? Json.asStrings? includes
    let defines ← Json.required? Json.asStrings? defines
    let options ← Json.required? Json.asStrings? options
    let trash ← Json.required? Json.asStrings? trash
    let standard ← Json.required? Standard.ofJson? standard
    pure { compiler, includes, defines, options, trash, standard }
  | _ => none

end CompilerLog
