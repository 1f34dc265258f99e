import CompilerLog.Host.Script
/-!
# Running shell scripts

What a script prints and how it ends. The commands known are those that print text, those that end
the script, and those that read the standard input, which is empty; any other one is not found.
-/

namespace CompilerLog.Shell.Script

/-- How a script ends: with an exit code, or killed. -/
inductive Ending where
  | exit (code : Nat)
  | killed
  deriving DecidableEq, Repr

/-- What a script knows from its caller. -/
structure Surroundings where
  name : String
  arguments : List String
  /-- Its number among the processes. -/
  process : String

/-- The state of a running script. -/
structure Run where
  output : List UInt8
  error : List UInt8
  /-- The exit code of the last command. -/
  status : Nat
  ending : Option Ending

namespace Run

def start : Run := ⟨[], [], 0, none⟩

/-- Where the two streams of a command lead; nowhere if there is no stream. -/
structure Routes where
  output : Option Stream
  error : Option Stream

def Routes.direct : Routes := ⟨some .output, some .error⟩

def Routes.target (routes : Routes) : Stream → Option Stream
  | .output => routes.output
  | .error => routes.error

def Routes.lead (routes : Routes) (source : Stream) (target : Option Stream) : Routes :=
  match source with
  | .output => { routes with output := target }
  | .error => { routes with error := target }

def write (r : Run) (target : Option Stream) (bytes : List UInt8) : Run :=
  match target with
  | some .output => { r with output := r.output ++ bytes }
  | some .error => { r with error := r.error ++ bytes }
  | none => r

/-! ### Words -/

/-- The words that pieces stand for: one, unless all arguments are in it. -/
def expand (s : Surroundings) (status : Nat) : List Piece → List String
  | [.arguments false] => s.arguments
  | pieces =>
    let textOf : Piece → String
      | .text text => String.ofList text
      | .arguments _ => " ".intercalate s.arguments
      | .argument 0 => s.name
      | .argument (place + 1) => s.arguments[place]?.getD ""
      | .count => toString s.arguments.length
      | .process => s.process
      | .status => toString status
    [String.join (pieces.map textOf)]

def resolve (s : Surroundings) (status : Nat) (routes : Routes) :
    List Item → List String × Routes
  | [] => ([], routes)
  | .redirect source :: .word _ :: rest => resolve s status (routes.lead source none) rest
  | .redirect source :: rest => resolve s status (routes.lead source none) rest
  | .join source target :: rest =>
    resolve s status (routes.lead source (routes.target target)) rest
  | .word pieces :: rest =>
    let (words, routes) := resolve s status routes rest
    (expand s status pieces ++ words, routes)
  | .connector _ :: rest => resolve s status routes rest

/-! ### Commands that print -/

def escapedByte? (c : Char) : Option UInt8 :=
  if c = 'a' then some 0x07
  else if c = 'b' then some 0x08
  else if c = 'f' then some 0x0C
  else if c = 'n' then some 0x0A
  else if c = 'r' then some 0x0D
  else if c = 't' then some 0x09
  else if c = 'v' then some 0x0B
  else if c = '\\' then some 0x5C
  else none

def isOctal (c : Char) : Bool := '0' ≤ c && c ≤ '7'

def octalByte (digits : List Char) : UInt8 :=
  UInt8.ofNat (digits.foldl (fun n c => n * 8 + (c.toNat - '0'.toNat)) 0)

def bytesOf (c : Char) : List UInt8 := Text.Utf8.encode c.toString

/-- The octal digits at the beginning of a text, at most as many as given. -/
def octalDigits (most : Nat) (text : List Char) : List Char := (text.take most).takeWhile isOctal

/-- An escape at the beginning of a text, behind its backslash, and how many characters it has. An
octal number is introduced by a zero, or has no introduction. -/
def readEscape (zeroFirst : Bool) (text : List Char) : List UInt8 × Nat :=
  match text with
  | [] => ([0x5C], 0)
  | c :: rest =>
    match escapedByte? c with
    | some byte => ([byte], 1)
    | none =>
      if zeroFirst then
        if c = '0' then
          let digits := octalDigits 3 rest
          ([octalByte digits], 1 + digits.length)
        else ([0x5C], 0)
      else
        let digits := octalDigits 3 text
        if digits = [] then (if c = '"' then ([0x22], 1) else ([0x5C], 0))
        else ([octalByte digits], digits.length)

/-- The bytes of a text with escapes; `skipped` characters of it are read already. -/
def unescape (zeroFirst : Bool) (skipped : Nat) : List Char → List UInt8
  | [] => []
  | c :: rest =>
    match skipped with
    | skipped + 1 => unescape zeroFirst skipped rest
    | 0 =>
      if c = '\\' then
        let (bytes, length) := readEscape zeroFirst rest
        bytes ++ unescape zeroFirst length rest
      else bytesOf c ++ unescape zeroFirst 0 rest

def echo : List String → List UInt8
  | "-n" :: words => unescape true 0 (" ".intercalate words).toList
  | words => unescape true 0 (" ".intercalate words).toList ++ [0x0A]

def formatOnce (skipped : Nat) (words : List String) : List Char → List UInt8 × List String
  | [] => ([], words)
  | c :: rest =>
    match skipped with
    | skipped + 1 => formatOnce skipped words rest
    | 0 =>
      if c = '\\' then
        let (bytes, length) := readEscape false rest
        let (more, words) := formatOnce length words rest
        (bytes ++ more, words)
      else if c = '%' then
        let word := words.headD ""
        let (bytes, left) :=
          match rest.head? with
          | some 's' => (Text.Utf8.encode word, words.tail)
          | some 'd' => (Text.Utf8.encode (if word = "" then "0" else word), words.tail)
          | some 'b' => (unescape true 0 word.toList, words.tail)
          | some '%' => ([0x25], words)
          | _ => ([], words)
        let (more, words) := formatOnce 1 left rest
        (bytes ++ more, words)
      else
        let (more, words) := formatOnce 0 words rest
        (bytesOf c ++ more, words)

/-- Passes over a format until no word is left, at most the given number of times. -/
def format : Nat → List Char → List String → List UInt8
  | 0, _, _ => []
  | n + 1, form, words =>
    let (bytes, left) := formatOnce 0 words form
    bytes ++ if left = [] ∨ left.length = words.length then [] else format n form left

def printf : List String → List UInt8
  | [] => []
  | form :: words => format (words.length + 1) form.toList words

/-! ### Commands -/

def isDeadly (words : List String) : Bool := !words.contains "-0"

def command (s : Surroundings) (routes : Routes) (r : Run) : List String → Run
  | [] => r
  | "echo" :: words => { r.write routes.output (echo words) with status := 0 }
  | "printf" :: words => { r.write routes.output (printf words) with status := 0 }
  | "exit" :: words =>
    let code := (words.head?.bind String.toNat?).getD r.status
    { r with ending := some (.exit (code % 256)) }
  | "kill" :: words =>
    if words.getLast? = some s.process ∧ isDeadly words then { r with ending := some .killed }
    else { r with status := if isDeadly words then 1 else 0 }
  | "true" :: _ | ":" :: _ | "cat" :: _ => { r with status := 0 }
  | "false" :: _ | "read" :: _ => { r with status := 1 }
  | name :: _ =>
    { r.write routes.error (Text.Utf8.encode s!"{s.name}: {name}: not found\n") with status := 127 }

def isDue (r : Run) : Connector → Bool
  | .always => true
  | .onSuccess => r.status = 0
  | .onFailure => r.status ≠ 0

def commands (s : Surroundings) (r : Run) : List Command → Run
  | [] => r
  | c :: rest =>
    if r.ending.isSome then r
    else if r.isDue c.connector then
      let (words, routes) := resolve s r.status .direct c.items
      commands s (command s routes r words) rest
    else commands s r rest

/-- How a script has ended. Behind its last command it ends with the exit code of that one. -/
def result (r : Run) : Ending := r.ending.getD (.exit r.status)

end Run

/-- Runs a script. One that cannot be read ends with a failure. -/
def run (s : Surroundings) (text : List Char) : Run :=
  match items? text with
  | some items => Run.start.commands s (commands .always items)
  | none => { Run.start with status := 2 }

end CompilerLog.Shell.Script
