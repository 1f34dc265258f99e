import CompilerLog.Properties.Configuration
/-!
# Arguments of the program

The options of the command line. An option takes its value glued to it or from the next argument;
such a value is checked only when the next option comes, or at the end, so that an argument which
is not known at all is reported first.
-/

namespace CompilerLog

/-- What the command line says. -/
structure Arguments where
  /-- The settings file to be read instead of the usual ones. -/
  config : Option String
  /-- The build log. -/
  input : String
  /-- The properties file. -/
  output : String
  /-- The name of the configuration, instead of the one in the settings. -/
  name : Option String
  /-- How to merge, instead of what the settings say. -/
  merge : Option MergeMode
  /-- Whether compilers may be asked for their built-in information. -/
  infoEnabled : Bool
  deriving DecidableEq, Repr

/-- An option with a value. -/
inductive ValueOption where
  | config
  | input
  | output
  | name
  | merge
  deriving DecidableEq, Repr

/-- An option without a value. -/
inductive Switch where
  | noBuiltIn
  | help
  | version
  deriving DecidableEq, Repr

/-- An option of the command line. -/
inductive CommandOption where
  | value (option : ValueOption)
  | switch (option : Switch)
  deriving DecidableEq, Repr

namespace CommandOption

def all : List CommandOption :=
  [.value .config, .value .input, .value .output, .value .name, .value .merge,
    .switch .noBuiltIn, .switch .help, .switch .version]

/-- The word for an option, behind two dashes. -/
def word : CommandOption → String
  | .value .config => "config"
  | .value .input => "input"
  | .value .output => "output"
  | .value .name => "name"
  | .value .merge => "merge"
  | .switch .noBuiltIn => "no-builtin"
  | .switch .help => "help"
  | .switch .version => "version"

/-- The letter for an option, behind one dash. -/
def letter? : CommandOption → Option Char
  | .value .config => some 'c'
  | .value .input => some 'i'
  | .value .output => some 'o'
  | .value .name => some 'n'
  | .value .merge => some 'm'
  | .switch .noBuiltIn => none
  | .switch .help => some 'h'
  | .switch .version => some 'V'

def ofWord? (word : String) : Option CommandOption := all.find? (·.word = word)

def ofLetter? (letter : Char) : Option CommandOption := all.find? (·.letter? = some letter)

end CommandOption

/-- Why the program does not run. -/
inductive UsageError where
  | unknownArgument (argument : String)
  | missingValue (option : CommandOption)
  | invalidValue (option : CommandOption) (value : String)
  | unexpectedValue (option : CommandOption) (value : String)
  | repeated (option : CommandOption)
  /-- The help is asked for. -/
  | help
  /-- The version is asked for. -/
  | version
  deriving DecidableEq, Repr

namespace UsageError

def versionText : String := "ccparse 0.1.0\n"

def helpText : String :=
  "Extracts include paths, defines and flags from compiler invocations found in build logs.\n" ++
  "\n" ++
  "Usage: ccparse [OPTIONS]\n" ++
  "\n" ++
  "Options:\n" ++
  "  -c, --config <FILE>  Path of the config file\n" ++
  "  -i, --input <FILE>   Path of the build log, '-' reads the standard input [default: -]\n" ++
  "  -o, --output <FILE>  Path of the properties file [default: .vscode/c_cpp_properties.json]\n" ++
  "  -n, --name <NAME>    Name of the configuration to write\n" ++
  "  -m, --merge <MODE>   How to merge into the existing configuration " ++
  "[possible values: replace, unique, keep-order]\n" ++
  "      --no-builtin     Do not query the compiler for its built-in includes and defines\n" ++
  "  -h, --help           Print help\n" ++
  "  -V, --version        Print version\n"

def message : UsageError → String
  | unknownArgument argument => s!"error: unexpected argument '{argument}' found\n"
  | missingValue option => s!"error: a value is required for '--{option.word}'\n"
  | invalidValue option value => s!"error: invalid value '{value}' for '--{option.word}'\n"
  | unexpectedValue option value =>
    s!"error: unexpected value '{value}' for '--{option.word}' found\n"
  | repeated option => s!"error: the argument '--{option.word}' cannot be used multiple times\n"
  | help => helpText
  | version => versionText

end UsageError

namespace Arguments

/-- What is given so far, and the option whose value is not checked yet: its value, once it is
there. -/
structure Reading where
  config : Option String
  input : Option String
  output : Option String
  name : Option String
  merge : Option MergeMode
  noBuiltIn : Bool
  pending : Option (ValueOption × Option String)

namespace Reading

def start : Reading := ⟨none, none, none, none, none, false, none⟩

def has (r : Reading) : ValueOption → Bool
  | .config => r.config.isSome
  | .input => r.input.isSome
  | .output => r.output.isSome
  | .name => r.name.isSome
  | .merge => r.merge.isSome

def assign (r : Reading) (option : ValueOption) (value : String) : Except UsageError Reading :=
  if r.has option then .error (.repeated (.value option))
  else match option with
    | .config => .ok { r with config := some value }
    | .input => .ok { r with input := some value }
    | .output => .ok { r with output := some value }
    | .name => .ok { r with name := some value }
    | .merge =>
      match MergeMode.ofName? value with
      | some mode => .ok { r with merge := some mode }
      | none => .error (.invalidValue (.value .merge) value)

def settle (r : Reading) : Except UsageError Reading :=
  match r.pending with
  | none => .ok r
  | some (option, none) => .error (.missingValue (.value option))
  | some (option, some value) => { r with pending := none }.assign option value

def turnOn (r : Reading) : Switch → Except UsageError Reading
  | .noBuiltIn =>
    if r.noBuiltIn then .error (.repeated (.switch .noBuiltIn))
    else .ok { r with noBuiltIn := true }
  | .help => .error .help
  | .version => .error .version

/-- Reads an option whose value, if there is one, is glued to it. -/
def readOption (r : Reading) (option : ValueOption) (glued : Option String) :
    Except UsageError Reading := do
  let r ← r.settle
  match glued with
  | some value => r.assign option value
  | none => pure { r with pending := some (option, none) }

/-- Reads an option by its word, which a value may follow behind an equals sign. -/
def readWord (r : Reading) (text : List Char) : Except UsageError Reading :=
  let word := text.takeWhile (· ≠ '=')
  let glued := match text.dropWhile (· ≠ '=') with
    | [] => none
    | _ :: value => some (String.ofList value)
  match CommandOption.ofWord? (String.ofList word), glued with
  | some (.value option), glued => r.readOption option glued
  | some (.switch option), none => do (← r.settle).turnOn option
  | some option, some value => .error (.unexpectedValue option value)
  | none, _ => .error (.unknownArgument (String.ofList ('-' :: '-' :: text)))

/-- Reads options by their letters. What follows the letter of an option with a value is the value,
also behind an equals sign. -/
def readLetters (r : Reading) : List Char → Except UsageError Reading
  | [] => .ok r
  | c :: rest =>
    match CommandOption.ofLetter? c with
    | some (.switch option) => do
      let r ← (← r.settle).turnOn option
      readLetters r rest
    | some (.value option) =>
      r.readOption option <| match rest with
        | [] => none
        | '=' :: value => some (String.ofList value)
        | value => some (String.ofList value)
    | none => .error (.unknownArgument (String.ofList ['-', c]))

/-- Reads one argument. One that is no option is the value that the last option waits for. -/
def readArgument (r : Reading) (argument : String) : Except UsageError Reading :=
  match argument.toList with
  | '-' :: '-' :: c :: rest => r.readWord (c :: rest)
  | '-' :: c :: rest => r.readLetters (c :: rest)
  | _ =>
    match r.pending with
    | some (option, none) => .ok { r with pending := some (option, some argument) }
    | _ => .error (.unknownArgument argument)

/-- Reads arguments up to the end. Two dashes end the options, and nothing may follow them. -/
def readAll (r : Reading) : List String → Except UsageError Reading
  | [] => r.settle
  | argument :: rest =>
    if argument = "--" then
      match rest with
      | [] => r.settle
      | next :: _ => .error (.unknownArgument next)
    else do
      let r ← r.readArgument argument
      readAll r rest

end Reading

def standardInput : String := "-"

def defaultOutput : String := ".vscode/c_cpp_properties.json"

def ofList (words : List String) : Except UsageError Arguments := do
  let r ← Reading.start.readAll words
  pure { config := r.config, input := r.input.getD standardInput,
         output := r.output.getD defaultOutput, name := r.name, merge := r.merge,
         infoEnabled := !r.noBuiltIn }

def readsStandardInput (a : Arguments) : Bool := a.input = standardInput

def summary (a : Arguments) : String :=
  let part (label : String) (value : Option String) :=
    match value with
    | some value => s!", {label}={value}"
    | none => ""
  s!"Arguments: input={a.input}, output={a.output}" ++ part "config" a.config ++
    part "name" a.name ++ part "merge" (a.merge.map MergeMode.name) ++
    if a.infoEnabled then "" else ", built-in info disabled"

end Arguments

end CompilerLog
