import CompilerLog.Files.Failure
import CompilerLog.Files.Path
/-!
# Response files

A response file may refer to further ones, up to `maxDepth` files at a time and to none that is
still being read. `ResponseFile.read` is the only place where a file is opened.
-/

namespace CompilerLog.Gcc

/-- Why the arguments of a command could not be expanded. -/
inductive ExpansionError where
  | unreadable (path : String) (cause : FileError)
  | tooDeep (path : String)
  | cycle (path : String)
  deriving DecidableEq, Repr

namespace ResponseFile

def maxDepth : Nat := 32

/-- The text of a response file, where the files with the paths `opened` are being read. -/
def read (reader : TextReader) (opened : List String) (path : String) :
    Except ExpansionError String :=
  if opened.any (Path.same path) then .error (.cycle path)
  else if maxDepth ≤ opened.length then .error (.tooDeep path)
  else match reader path with
    | .error cause => .error (.unreadable path cause)
    | .ok text => .ok text

theorem length_lt_of_read {reader : TextReader} {opened : List String} {path text : String}
    (h : read reader opened path = .ok text) : opened.length < maxDepth := by
  unfold read at h
  split at h
  · cases h
  · split at h
    · cases h
    · omega

end ResponseFile

def ExpansionError.message : ExpansionError → String
  | .unreadable path cause => s!"Failed to read response file {path}: {cause.text}"
  | .tooDeep path =>
    s!"Response file {path} is nested deeper than {ResponseFile.maxDepth} levels"
  | .cycle path => s!"Response file {path} includes itself"

end CompilerLog.Gcc
