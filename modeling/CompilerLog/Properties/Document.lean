import CompilerLog.Files.Tree
import CompilerLog.Log
import CompilerLog.Properties.Content
/-!
# Properties documents

A document is a content in memory that is read from a file, merged into, and written back. It
remembers whether a merge has changed it since it was read or written, and is written only then.
-/

namespace CompilerLog

/-- Why a properties file could not be read or written. -/
inductive DocumentError where
  | access (path : String) (cause : FileError)
  /-- The text in the file holds no content. -/
  | malformed (path text : String)
  deriving DecidableEq, Repr

/-- The text of an error; `describe` tells what is wrong with a text that holds no content. -/
def DocumentError.message (describe : String → String) : DocumentError → String
  | access path cause => s!"Failed to access properties file '{path}': {cause.text}"
  | malformed path text => s!"Failed to parse properties file '{path}': {describe text}"

/-- A content in memory, if there is one, and whether it has changed. -/
structure Document where
  content : Option Content
  changed : Bool
  deriving DecidableEq, Repr

namespace Document

def empty : Document := ⟨none, false⟩

instance : Inhabited Document := ⟨empty⟩

/-- Takes the content from the answer to reading a file. Answers whether there was a file; without
one, and after a failure, the document stays as it is. -/
def load (d : Document) (path : String) (file : Except FileError String) :
    Logged (Except DocumentError Bool × Document) :=
  match file with
  | .error error =>
    if error.kind = .notFound then do
      log .debug s!"Properties file not found: {path}"
      pure (.ok false, d)
    else pure (.error (.access path error), d)
  | .ok text =>
    match Content.ofText? text with
    | none => pure (.error (.malformed path text), d)
    | some content => pure (.ok true, ⟨some content, false⟩)

def read (d : Document) (tree : FileTree) (path : String) :
    Logged (Except DocumentError Bool × Document) :=
  d.load path (tree.readText path)

/-- Merges a content into the document. Answers whether the document changed. -/
def merge (d : Document) (mode : MergeMode) (incoming : Content) : Bool × Document :=
  match d.content with
  | none => (true, ⟨some incoming, true⟩)
  | some content =>
    let (differs, merged) := content.update mode incoming
    (differs, ⟨some merged, d.changed || differs⟩)

/-- The text to be written, if the document has changed. -/
def pending? (d : Document) : Option String :=
  if d.changed then d.content.map Content.toText else none

/-- Writes a document that has changed. Answers whether it was written; after a failure it counts
as changed still. -/
def write (d : Document) (tree : FileTree) (path : String) :
    Logged (Except DocumentError Bool × Document × FileTree) :=
  match d.pending? with
  | none => pure (.ok false, d, tree)
  | some text =>
    match tree.writeFile path (Text.Utf8.encode text) with
    | (.error error, tree) => pure (.error (.access path error), d, tree)
    | (.ok (), tree) => do
      log .info s!"Properties written to: {path}"
      pure (.ok true, { d with changed := false }, tree)

end Document

/-- Where and how the result of a scan is stored. -/
structure Target where
  path : String
  name : String
  mode : MergeMode
  deriving DecidableEq, Repr

/-- Merges an invocation into the properties file under the name of the target. Answers whether the
file was written. -/
def Target.store (target : Target) (found : Invocation) (tree : FileTree) :
    Logged (Except DocumentError Bool × FileTree) := do
  let (loaded, document) ← Document.empty.read tree target.path
  match loaded with
  | .error error => pure (.error error, tree)
  | .ok _ => do
    let configuration := Configuration.ofInvocation target.name found
    let (changed, document) := document.merge target.mode (.ofConfigurations [configuration])
    if !changed then log .info s!"Properties are up to date: {target.path}"
    let (written, _, tree) ← document.write tree target.path
    pure (written, tree)

end CompilerLog
