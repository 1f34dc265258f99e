import CompilerLog.Gcc.DirectoryOption
import CompilerLog.Text.Blank
/-!
# Kinds of compiler arguments

`Argument.ofText` says what an argument of a gcc command line means. The kinds are tried in a
fixed order and the first that fits is the answer; `Argument.sorted` is the end of that order,
which every argument fits.
-/

namespace CompilerLog.Gcc

/-- What an argument means. -/
inductive Argument where
  /-- A macro definition. -/
  | define (value : String)
  /-- An include directory. -/
  | includePath (value : String)
  /-- The compiler itself. -/
  | compiler
  /-- A directory option; with an empty path the path is the next argument. -/
  | directory (option : DirectoryOption) (path : String)
  /-- A file that holds further arguments. -/
  | responseFile (path : String)
  /-- Outputs, optimisation, debugging, compile-only flags and sources. -/
  | trash
  /-- Any other flag. -/
  | option
  /-- Anything else. -/
  | residual
  deriving DecidableEq, Repr

namespace Argument

def oneLine (text : List Char) : Bool := !text.contains '\n'

def flagValue? (letter : Char) : List Char → Option String
  | '-' :: c :: value =>
    if c = letter ∧ value ≠ [] ∧ oneLine value then some (String.ofList value) else none
  | _ => none

/-- What may stand before the name of the compiler: nothing, one slash of either kind, or text that
is no flag and no file reference and ends a directory or a target name. -/
def namesTarget (text : List Char) : Bool :=
  match text with
  | [] => true
  | [c] => c = '/' || c = '\\'
  | c :: rest =>
    c ≠ '-' && c ≠ '@' && oneLine rest.dropLast &&
      rest.getLast?.any fun last => last = '-' || last = '/' || last = '\\'

/-- Whether an argument is the compiler: `g++` or `g++.exe`, possibly with a directory and a
target name. -/
def isCompiler (text : List Char) : Bool :=
  ("g++".toList.isSuffixOf? text).any namesTarget ||
    ("g++.exe".toList.isSuffixOf? text).any namesTarget

def dropBlank : List Char → List Char
  | c :: rest => if Text.isBlank c then rest else c :: rest
  | [] => []

/-- The keywords, each behind all that it begins. -/
def longestFirst : List DirectoryOption :=
  [.withPrefixBefore, .withPrefix, .pluginDir, .multilib, .dirAfter, .sysroot, .basePrefix,
    .system, .quote]

/-- The directory option with its path, which is on one line. -/
def directory? (text : List Char) : Option Argument :=
  longestFirst.findSome? fun option =>
    match option.text.toList.isPrefixOf? text with
    | none => none
    | some rest =>
      let path := dropBlank rest
      if oneLine path then some (.directory option (String.ofList path)) else none

/-- The path of a response file. A blank is a path of its own when nothing follows it. -/
def responseFile? : List Char → Option Argument
  | '@' :: path =>
    let trimmed := dropBlank path
    if trimmed ≠ [] ∧ oneLine trimmed then some (.responseFile (String.ofList trimmed))
    else if path ≠ [] ∧ oneLine path then some (.responseFile (String.ofList path))
    else none
  | _ => none

def trashFlags : List (List Char) := ["-o".toList, "-O".toList, "-g".toList, "-c".toList]

def sourceEndings : List (List Char) := ["cpp".toList, "cpp.o".toList]

def sorted (text : String) : Argument :=
  let chars := text.toList
  if trashFlags.any (·.isPrefixOf chars) || sourceEndings.any (·.isSuffixOf chars) then .trash
  else if ['-'].isPrefixOf chars then .option
  else .residual

def ofText (text : String) : Argument :=
  let chars := text.toList
  match flagValue? 'D' chars with
  | some value => .define value
  | none =>
    match flagValue? 'I' chars with
    | some value => .includePath value
    | none =>
      if isCompiler chars then .compiler
      else ((directory? chars).or (responseFile? chars)).getD (sorted text)

end Argument

def unescapeQuotes : List Char → List Char
  | '\\' :: '"' :: rest => '"' :: unescapeQuotes rest
  | c :: rest => c :: unescapeQuotes rest
  | [] => []

/-- The argument inside a pair of double quotes that was kept by the shell. Text that is not
enclosed, or encloses nothing, stays as it is. -/
def unwrap (word : String) : String :=
  match word.toList with
  | '"' :: rest =>
    match rest.reverse with
    | '"' :: inner => if inner = [] then word else String.ofList (unescapeQuotes inner.reverse)
    | _ => word
  | _ => word

end CompilerLog.Gcc
