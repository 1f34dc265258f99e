import CompilerLog.Host.Tree
/-!
# The command line

What the program needs to see of the file system is put into a file tree, the program is run in it,
and a properties file that it has changed is written back. Compilers are not run from here, so that
no built-in information is found.
-/

namespace CompilerLog.Main

/-- The names that a path leads to, from the given working directory. -/
def namesOf (working : List String) (path : String) : List String :=
  (Path.pieces path.toList).foldl FileTree.step
    (if path.toList.head? = some '/' then [] else working)

def pathOf (names : List String) : String := "/" ++ "/".intercalate names

/-- Puts what stands under a path into the tree, with the directories that lead to it. -/
def look (tree : FileTree) (path : String) : IO FileTree := do
  let names := namesOf tree.working path
  let base ← IO.currentDir
  let place := base / pathOf names
  let above := base / pathOf names.dropLast
  let tree := if ← above.isDir then tree.ensureAbove names else tree
  if ← place.isDir then pure (tree.ensure names)
  else if ← place.pathExists then
    let bytes ← IO.FS.readBinFile place
    pure (tree.put names (.file bytes.toList false))
  else pure tree

def lookAll (tree : FileTree) : List String → IO FileTree
  | [] => pure tree
  | path :: rest => do
    let tree ← look tree path
    lookAll tree rest

def responseFiles (text : String) : List String :=
  (Text.lines text).flatMap fun line =>
    (Shell.tokenize line).value.filterMap fun word =>
      match Gcc.Argument.ofText (Gcc.unwrap word) with
      | .responseFile path => some path
      | _ => none

/-- Puts response files into the tree, and those that they name. -/
partial def lookNested (tree : FileTree) (seen : List String) : List String → IO FileTree
  | [] => pure tree
  | path :: rest =>
    if seen.contains path then lookNested tree seen rest
    else do
      let tree ← look tree path
      let nested := match tree.readText path with
        | .ok text => responseFiles text
        | .error _ => []
      lookNested tree (path :: seen) (nested ++ rest)

def logBytes (tree : FileTree) (a : Arguments) (standardInput : List UInt8) : List UInt8 :=
  if a.readsStandardInput then standardInput
  else match tree.readBytes a.input with
    | .ok bytes => bytes
    | .error _ => []

/-- Writes the file that names lead to, if the program has changed it. -/
def writeBack (before after : FileTree) (path : String) : IO Unit := do
  let names := namesOf after.working path
  match after.node? names with
  | some (.file bytes _) =>
    if before.node? names ≠ after.node? names then
      let base ← IO.currentDir
      let place := base / pathOf names
      let draft := base / (pathOf names ++ ".new")
      IO.FS.createDirAll (base / pathOf names.dropLast)
      IO.FS.writeBinFile draft (ByteArray.mk bytes.toArray)
      IO.FS.rename draft place
  | _ => pure ()

/-- The rank of the level that the environment asks for; errors are always shown. -/
def rankOf (level : Option String) : Nat :=
  match [Level.error, .warn, .info, .debug, .trace].find? fun l => some l.label = level with
  | some l => l.rank
  | none => Level.error.rank

/-- Prints an error that kept the program from running, and answers the exit code. -/
def report (error : StartError) : IO UInt32 := do
  match error with
  | .usage .help | .usage .version =>
    IO.print error.message
    pure 0
  | .usage _ =>
    IO.eprint error.message
    pure 2
  | _ =>
    IO.eprintln s!"Error: {error.message}"
    pure 1

/-- Runs the program with its arguments, and answers the exit code. -/
def run (words : List String) : IO UInt32 := do
  match Arguments.ofList words with
  | .error error => report (.usage error)
  | .ok arguments =>
    let directories := Host.directoriesOf (← IO.getEnv "HOME") (← IO.getEnv "XDG_CONFIG_HOME")
    let working := namesOf [] (← IO.currentDir).toString
    let standardInput ←
      if arguments.readsStandardInput then (← IO.getStdin).readBinToEnd else pure ByteArray.empty
    let named := arguments.config.toList ++ Settings.locations directories "." ++
      [arguments.input, arguments.output]
    let tree ← lookAll (.empty working) named
    let log := logBytes tree arguments standardInput.toList
    let before ← lookNested tree [] (responseFiles (String.ofList (Text.Utf8.decodeLossy log)))
    let host := Host.ofTree directories before
    let answer := runProgram host words "." before ⟨standardInput.toList, none⟩
    for line in linesUpTo (rankOf (← IO.getEnv "CCPARSE_LOG")) answer.records do
      IO.eprintln line
    let (outcome, after) := answer.value
    match outcome with
    | .error error => report error
    | .ok success =>
      writeBack before after arguments.output
      pure (if success then 0 else 1)

end CompilerLog.Main

def main (words : List String) : IO UInt32 := CompilerLog.Main.run words
