import CompilerLog.Text.Utf8
/-!
# Shell scripts

The simple commands of a script for the POSIX shell: words with quotes and parameters, redirections
between the two output streams, and what joins one command to the next. An automaton reads the
script character by character.
-/

namespace CompilerLog.Shell.Script

/-- A part of a word. -/
inductive Piece where
  | text (text : List Char)
  /-- All arguments, as words of their own or joined by spaces. -/
  | arguments (joined : Bool)
  | argument (place : Nat)
  | count
  | process
  | status
  deriving DecidableEq, Repr

/-- When a command runs, after the one before it. -/
inductive Connector where
  | always
  | onSuccess
  | onFailure
  deriving DecidableEq, Repr

/-- The two streams that a script writes to. -/
inductive Stream where
  | output
  | error
  deriving DecidableEq, Repr

/-- What a script is made of. -/
inductive Item where
  | word (pieces : List Piece)
  /-- What is written to one stream goes to the other one. -/
  | join (source target : Stream)
  /-- What is written to a stream goes to the file that the next word names. -/
  | redirect (source : Stream)
  | connector (connector : Connector)
  deriving DecidableEq, Repr

/-- Where in a script the reader stands. -/
inductive Mode where
  | bare
  | bareEscape
  | bareDollar
  | single
  | double
  | doubleEscape
  | doubleDollar
  | comment
  | ampersand
  | bar
  | greater (source : Stream)
  | greaterAmpersand (source : Stream)
  /-- Here the script cannot be read. -/
  | failed
  deriving DecidableEq, Repr

/-- What is known of a script after reading a part of it. -/
structure Reading where
  mode : Mode
  items : List Item
  /-- The word begun. -/
  word : Option (List Piece)
  deriving DecidableEq, Repr

namespace Reading

def start : Reading := ⟨.bare, [], none⟩

def turn (r : Reading) (mode : Mode) : Reading := { r with mode }

def add (r : Reading) (piece : Piece) (mode : Mode) : Reading :=
  { r with word := some (r.word.getD [] ++ [piece]), mode }

/-- Begins a word, unless one is begun. -/
def openWord (r : Reading) (mode : Mode) : Reading := { r with word := some (r.word.getD []), mode }

def complete (r : Reading) : Reading :=
  ⟨.bare, r.items ++ (r.word.map .word).toList, none⟩

def put (r : Reading) (item : Item) : Reading :=
  let r := r.complete
  { r with items := r.items ++ [item] }

def parameter? (quoted : Bool) (c : Char) : Option Piece :=
  if c = '*' then some (.arguments quoted)
  else if c = '@' then some (.arguments false)
  else if c = '#' then some .count
  else if c = '$' then some .process
  else if c = '?' then some .status
  else if c.isDigit then some (.argument (c.toNat - '0'.toNat))
  else none

/-- Reads the sign of a redirection. A number before it names the stream. -/
def readGreater (r : Reading) : Reading :=
  if r.word = some [.text ['1']] then { r with word := none, mode := .greater .output }
  else if r.word = some [.text ['2']] then { r with word := none, mode := .greater .error }
  else r.complete.turn (.greater .output)

def readBare (r : Reading) (c : Char) : Reading :=
  if c = '\'' then r.openWord .single
  else if c = '"' then r.openWord .double
  else if c = '\\' then r.turn .bareEscape
  else if c = '$' then r.turn .bareDollar
  else if c = ' ' ∨ c = '\t' then r.complete
  else if c = '\n' ∨ c = ';' then r.put (.connector .always)
  else if c = '&' then r.complete.turn .ampersand
  else if c = '|' then r.complete.turn .bar
  else if c = '>' then r.readGreater
  else if c = '#' ∧ r.word = none then r.turn .comment
  else r.add (.text [c]) .bare

def readDouble (r : Reading) (c : Char) : Reading :=
  if c = '"' then r.turn .bare
  else if c = '\\' then r.turn .doubleEscape
  else if c = '$' then r.turn .doubleDollar
  else r.add (.text [c]) .double

def step (r : Reading) (c : Char) : Reading :=
  match r.mode with
  | .bare => r.readBare c
  | .bareEscape => if c = '\n' then r.turn .bare else r.add (.text [c]) .bare
  | .bareDollar =>
    match parameter? false c with
    | some piece => r.add piece .bare
    | none => (r.add (.text ['$']) .bare).readBare c
  | .single => if c = '\'' then r.turn .bare else r.add (.text [c]) .single
  | .double => r.readDouble c
  | .doubleEscape =>
    if c = '\n' then r.turn .double
    else if ['$', '`', '"', '\\'].contains c then r.add (.text [c]) .double
    else r.add (.text ['\\', c]) .double
  | .doubleDollar =>
    match parameter? true c with
    | some piece => r.add piece .double
    | none => (r.add (.text ['$']) .double).readDouble c
  | .comment => if c = '\n' then r.put (.connector .always) else r
  | .ampersand =>
    if c = '&' then r.put (.connector .onSuccess)
    else (r.put (.connector .always)).readBare c
  | .bar => if c = '|' then r.put (.connector .onFailure) else r.turn .failed
  | .greater source =>
    if c = '&' then r.turn (.greaterAmpersand source) else (r.put (.redirect source)).readBare c
  | .greaterAmpersand source =>
    if c = '1' then r.put (.join source .output)
    else if c = '2' then r.put (.join source .error)
    else r.turn .failed
  | .failed => r

/-- The items of a script that ends here; none when it ends inside a quote. -/
def finish? (r : Reading) : Option (List Item) :=
  match r.mode with
  | .bare | .comment | .ampersand => some r.complete.items
  | .bareEscape => some (r.add (.text ['\\']) .bare).complete.items
  | .bareDollar => some (r.add (.text ['$']) .bare).complete.items
  | _ => none

end Reading

def items? (text : List Char) : Option (List Item) :=
  (text.foldl Reading.step Reading.start).finish?

/-- A simple command: when it runs, its words and its redirections. -/
structure Command where
  connector : Connector
  items : List Item

/-- Cuts items into commands, the first of which runs as given. -/
def commands (connector : Connector) : List Item → List Command
  | [] => [⟨connector, []⟩]
  | .connector next :: rest => ⟨connector, []⟩ :: commands next rest
  | item :: rest =>
    match commands connector rest with
    | [] => [⟨connector, [item]⟩]
    | command :: others => { command with items := item :: command.items } :: others

end CompilerLog.Shell.Script
