import CompilerLog.Json.Parser
import CompilerLog.Json.Printer
import CompilerLog.Properties.Configuration
/-!
# The content of a properties file

A version and named configurations. Contents are merged configuration by configuration: an incoming
one goes into the first stored one of its name, or behind all others.
-/

namespace CompilerLog

/-- What a properties file holds. -/
structure Content where
  version : UInt32
  configurations : List Configuration
  deriving DecidableEq, Repr

namespace Content

def currentVersion : UInt32 := 4

def ofConfigurations (configurations : List Configuration) : Content :=
  ⟨currentVersion, configurations⟩

def empty : Content := ofConfigurations []

instance : Inhabited Content := ⟨empty⟩

def configuration? (c : Content) (name : String) : Option Configuration :=
  c.configurations.find? (·.name = name)

/-- Brings a configuration into the first one of its name, or puts it last. -/
def mergeInto (mode : MergeMode) (incoming : Configuration) :
    List Configuration → List Configuration
  | [] => [incoming]
  | stored :: rest =>
    if stored.name = incoming.name then stored.merge mode incoming :: rest
    else stored :: mergeInto mode incoming rest

/-- The content with the configurations of another one brought into it, in order. -/
def merge (mode : MergeMode) (stored incoming : Content) : Content :=
  { stored with
    configurations :=
      incoming.configurations.foldl (fun found c => mergeInto mode c found)
        stored.configurations }

@[simp] theorem version_merge (mode : MergeMode) (stored incoming : Content) :
    (merge mode stored incoming).version = stored.version := rfl

/-- Merges a content into the stored one. Answers whether that changed it. -/
def update (mode : MergeMode) (stored incoming : Content) : Bool × Content :=
  let merged := merge mode stored incoming
  (decide (merged ≠ stored), merged)

@[simp] theorem update_fst (mode : MergeMode) (stored incoming : Content) :
    (update mode stored incoming).1 = decide (merge mode stored incoming ≠ stored) := rfl

@[simp] theorem update_snd (mode : MergeMode) (stored incoming : Content) :
    (update mode stored incoming).2 = merge mode stored incoming := rfl

/-- The names of the fields, in order. -/
def fieldNames : List String := ["version", "configurations"]

def toJson (c : Content) : Json :=
  .ofFields
    [("version", .ofNat c.version.toNat),
      ("configurations", .array (c.configurations.map Configuration.toJson))]

def ofJson? (value : Json) : Option Content := do
  let fields ← value.asRecord? fieldNames
  match fields with
  | [version, configurations] =>
    let version ← Json.optional? currentVersion Json.asUInt32? version
    let configurations ← Json.optional? [] (Json.asList? Configuration.ofJson?) configurations
    pure { version, configurations }
  | _ => none

def toText (c : Content) : String := Json.print Json.indented c.toJson

def ofText? (text : String) : Option Content := (Json.parse? text).bind ofJson?

end Content

end CompilerLog
