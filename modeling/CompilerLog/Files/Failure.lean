/-!
# Failures of file access

The kinds of failure that the program tells apart, each with the text that the operating system
prints for it.
-/

namespace CompilerLog

/-- What kept a file from being read or written. -/
inductive FileFailure where
  | notFound
  | permissionDenied
  | isADirectory
  | notADirectory
  | alreadyExists
  | invalidData
  | invalidInput
  | brokenPipe
  | resourceBusy
  | directoryNotEmpty
  | other
  deriving DecidableEq, Repr

/-- A failed access: its kind and the text that describes it. -/
structure FileError where
  kind : FileFailure
  text : String
  deriving DecidableEq, Repr

namespace FileError

def ofSystem (kind : FileFailure) : FileError :=
  ⟨kind, match kind with
    | .notFound => "No such file or directory (os error 2)"
    | .permissionDenied => "Permission denied (os error 13)"
    | .isADirectory => "Is a directory (os error 21)"
    | .notADirectory => "Not a directory (os error 20)"
    | .alreadyExists => "File exists (os error 17)"
    | .invalidData => "stream did not contain valid UTF-8"
    | .invalidInput => "file name contained an unexpected NUL byte"
    | .brokenPipe => "Broken pipe (os error 32)"
    | .resourceBusy => "Device or resource busy (os error 16)"
    | .directoryNotEmpty => "Directory not empty (os error 39)"
    | .other => "other error"⟩

end FileError

/-- Answers the text of the file with the given path. -/
abbrev TextReader := String → Except FileError String

end CompilerLog
