import CompilerLog.Log
import CompilerLog.Text.Blank
/-!
# Words of a command line

A line is split into words as a POSIX shell does it, with the quotes removed. An automaton reads
the line character by character; it holds the words completed and the text of the word begun, so
that the state after a line that ends inside a quote still shows both.
-/

namespace CompilerLog.Shell

/-- Where in a line the reader stands. -/
inductive Mode where
  /-- Between two words. -/
  | between
  /-- Behind a backslash between two words. -/
  | betweenEscape
  /-- In a word, outside quotes. -/
  | bare
  /-- Behind a backslash in a word, outside quotes. -/
  | bareEscape
  /-- Between single quotes. -/
  | single
  /-- Between double quotes. -/
  | double
  /-- Behind a backslash between double quotes. -/
  | doubleEscape
  /-- In a comment. -/
  | comment
  deriving DecidableEq, Repr

/-- What is known of a line after reading a part of it. -/
structure Reading where
  mode : Mode
  /-- The words that are complete. -/
  words : List (List Char)
  /-- The text of the word begun; empty between two words. -/
  word : List Char
  deriving DecidableEq, Repr

namespace Reading

def start : Reading := ⟨.between, [], []⟩

def turn (r : Reading) (mode : Mode) : Reading := { r with mode }

def add (r : Reading) (text : List Char) (mode : Mode) : Reading :=
  { r with word := r.word ++ text, mode }

def complete (r : Reading) : Reading := ⟨.between, r.words ++ [r.word], []⟩

def separates (c : Char) : Bool := c = ' ' || c = '\t' || c = '\n'

def escapable (c : Char) : Bool := c = '$' || c = '`' || c = '"' || c = '\\'

def step (r : Reading) (c : Char) : Reading :=
  match r.mode with
  | .between =>
    if c = '\'' then r.turn .single
    else if c = '"' then r.turn .double
    else if c = '\\' then r.turn .betweenEscape
    else if separates c then r
    else if c = '#' then r.turn .comment
    else r.add [c] .bare
  | .betweenEscape => if c = '\n' then r.turn .between else r.add [c] .bare
  | .bare =>
    if c = '\'' then r.turn .single
    else if c = '"' then r.turn .double
    else if c = '\\' then r.turn .bareEscape
    else if separates c then r.complete
    else r.add [c] .bare
  | .bareEscape => if c = '\n' then r.turn .bare else r.add [c] .bare
  | .single => if c = '\'' then r.turn .bare else r.add [c] .single
  | .double =>
    if c = '"' then r.turn .bare
    else if c = '\\' then r.turn .doubleEscape
    else r.add [c] .double
  | .doubleEscape =>
    if c = '\n' then r.turn .double
    else if escapable c then r.add [c] .double
    else r.add ['\\', c] .double
  | .comment => if c = '\n' then r.turn .between else r

def run (r : Reading) (text : List Char) : Reading := text.foldl step r

theorem run_append (r : Reading) (a b : List Char) : r.run (a ++ b) = (r.run a).run b := by
  simp [run]

/-- The words when the line ends here; none when it ends inside a quote. A backslash that stands
last stands for itself. -/
def finish? (r : Reading) : Option (List (List Char)) :=
  match r.mode with
  | .between | .comment => some r.words
  | .bare => some (r.words ++ [r.word])
  | .betweenEscape | .bareEscape => some (r.words ++ [r.word ++ ['\\']])
  | .single | .double | .doubleEscape => none

end Reading

/-- The words of a line, empty ones included; none when a quote is not closed. -/
def split? (line : List Char) : Option (List (List Char)) :=
  (Reading.start.run line).finish?

@[simp] theorem split?_nil : split? [] = some [] := rfl

/-- What is tried in turn behind a line that ends inside a quote. None of them helps a line that
ends with a backslash between double quotes. -/
def closings : List (List Char) := [['"'], ['\''], ['\\', '"', '"']]

/-- The words of a line with its last quote closed at the end of the line. A line that no closing
helps is cut at its blanks, quotes and all. -/
def splitClosed (line : List Char) : List (List Char) :=
  (closings.findSome? fun closing => split? (line ++ closing)).getD (Text.runs Text.isBlank line)

/-- The words of a line that are not empty. A line that ends inside a quote is reported, and read
with the quote closed at its end if that can be done. -/
def tokenize (line : String) : Logged (List String) := do
  let words ←
    match split? line.toList with
    | some words => pure words
    | none => do
      log .debug s!"Best-effort split of line with missing closing quote: {line}"
      pure (splitClosed line.toList)
  pure ((words.filter (· ≠ [])).map String.ofList)

end CompilerLog.Shell
