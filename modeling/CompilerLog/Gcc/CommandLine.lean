import CompilerLog.Gcc.Argument
import CompilerLog.Gcc.ResponseFile
import CompilerLog.Invocation
import CompilerLog.Shell.Words
/-!
# Reading a gcc command line

The arguments of a command are read from left to right into an `Invocation`. Directory options
outlive the command: they are handed from one command to the next, also when reading fails. The
arguments of a response file are read where the file is named.

The response files that are being read are an argument of `readWords`, so that no call can leave
another stack behind than it found. `Proofs.Gcc.Expansion` tells the same function by rules that
enter and leave files on a stack, for readers that may answer differently each time
(`Gcc.Returns`); its theorem `exists_returns_readLine` says that both answer alike.
-/

namespace CompilerLog.Gcc

/-- What reading a command line leads to. The directory options are kept in either case. -/
structure Reading where
  outcome : Except ExpansionError Invocation
  directories : DirectoryOptions

/-- Adds an argument to the options or to the trash, as it is sorted. -/
def sortOut (argument : String) (found : Invocation) : Invocation :=
  match Argument.sorted argument with
  | .option => { found with options := found.options ++ [argument] }
  | _ => { found with trash := found.trash ++ [argument] }

/-- Adds what a response file holds to what is found in the line that names it. Its options count
as trash of the line too; its compiler and its trash count for nothing. -/
def splice (file found : Invocation) : Invocation :=
  { found with
    defines := found.defines ++ file.defines
    includes := found.includes ++ file.includes
    trash := found.trash ++ file.options
    options := found.options ++ file.options }

/-- Whether a word is a flag, so that it is no path of the flag before it. -/
def isFlag (word : String) : Bool := ['-'].isPrefixOf (unwrap word).toList

/-- The path of a directory option with the words left: the one glued to the keyword, or else the
next word unless that is a flag. -/
def takePath (glued : String) (rest : List String) : Option (String × List String) :=
  if glued ≠ "" then some (glued, rest)
  else match rest with
    | [] => none
    | next :: rest => if isFlag next then none else some (unwrap next, rest)

theorem length_takePath_le {glued path : String} {rest left : List String}
    (h : takePath glued rest = some (path, left)) : left.length ≤ rest.length := by
  unfold takePath at h
  split at h
  · cases h; exact Nat.le_refl _
  · split at h
    · cases h
    · split at h
      · cases h
      · cases h; simp

/-- Records the path of a directory option. A path that needs a prefix becomes an include
directory, or is dropped when no prefix is declared. -/
def place (option : DirectoryOption) (path : String) (found : Invocation)
    (directories : DirectoryOptions) : Logged (Invocation × DirectoryOptions) :=
  if option.usesPrefix then
    match directories.declaredPrefix? with
    | some base => pure ({ found with includes := found.includes ++ [base ++ path] }, directories)
    | none => do
      log .debug s!"No prefix declared before {option.text}, dropping: {path}"
      pure (found, directories)
  else pure (found, directories.push option path)

def nameCompiler (argument : String) (found : Invocation) : Logged Invocation :=
  if found.hasCompiler then do
    log .debug s!"Compiler already found, ignoring: {argument}"
    pure found
  else pure { found with compiler := argument }

/-- Reads words into what is already found, while the response files `opened` are being read. -/
def readWords (reader : TextReader) (opened : List String) (words : List String)
    (found : Invocation) (directories : DirectoryOptions) : Logged Reading :=
  match words with
  | [] => pure ⟨.ok found, directories⟩
  | word :: rest =>
    let argument := unwrap word
    match Argument.ofText argument with
    | .define value =>
      readWords reader opened rest { found with defines := found.defines ++ [value] } directories
    | .includePath value =>
      readWords reader opened rest { found with includes := found.includes ++ [value] } directories
    | .compiler => do
      let found ← nameCompiler argument found
      readWords reader opened rest found directories
    | .directory option glued =>
      match _h : takePath glued rest with
      | some (path, left) => do
        let (found, directories) ← place option path found directories
        readWords reader opened left found directories
      | none => readWords reader opened rest (sortOut argument found) directories
    | .responseFile path =>
      match _h : ResponseFile.read reader opened path with
      | .error error => pure ⟨.error error, directories⟩
      | .ok text => do
        log .debug s!"Expanding response file: {path} (depth {opened.length + 1})"
        let words ← Shell.tokenize text
        let nested ← readWords reader (opened ++ [path]) words .empty directories
        match nested.outcome with
        | .error error => pure ⟨.error error, nested.directories⟩
        | .ok file =>
          readWords reader opened rest (sortOut argument (splice file found)) nested.directories
    | .trash | .residual =>
      readWords reader opened rest { found with trash := found.trash ++ [argument] } directories
    | .option =>
      readWords reader opened rest { found with options := found.options ++ [argument] } directories
termination_by (ResponseFile.maxDepth - opened.length, words.length)
decreasing_by
  all_goals first
    | (apply Prod.Lex.right; simp; done)
    | (apply Prod.Lex.right; simp; have := length_takePath_le ‹_›; omega)
    | (apply Prod.Lex.left; simp; have := ResponseFile.length_lt_of_read ‹_›; omega)

/-- The standard that an option selects, if it is one that is known. -/
def standardOf? (option : String) : Option Standard :=
  (("-std=c++".toList.isPrefixOf? option.toList).or
    ("-std=gnu++".toList.isPrefixOf? option.toList)).bind
      fun version => Standard.ofVersion? (String.ofList version)

def standardOf (options : List String) : Standard :=
  (options.findSome? standardOf?).getD .unset

def readLine (reader : TextReader) (directories : DirectoryOptions) (line : String) :
    Logged Reading := do
  let words ← Shell.tokenize line
  let reading ← readWords reader [] words .empty directories
  pure { reading with
    outcome := reading.outcome.map fun found =>
      { found with standard := standardOf found.options } }

end CompilerLog.Gcc
