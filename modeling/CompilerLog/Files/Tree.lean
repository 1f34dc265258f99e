import CompilerLog.Files.Failure
import CompilerLog.Files.Path
import CompilerLog.Text.Utf8
/-!
# File trees

The files and directories that a program sees, as a value: each is known by the names that lead to
it from the root. Paths are followed as the operating system follows them, step by step and only
through directories, from the root or from the working directory.
-/

namespace CompilerLog

/-- What names lead to. -/
inductive FileNode where
  | directory
  | file (bytes : List UInt8) (executable : Bool)
  deriving DecidableEq, Repr

/-- Files and directories, and the working directory. -/
structure FileTree where
  nodes : List (List String × FileNode)
  /-- The names that lead to the working directory. -/
  working : List String
  deriving DecidableEq, Repr

namespace FileTree

/-- What the given names lead to; without a name, that is the root. -/
def node? (t : FileTree) (names : List String) : Option FileNode :=
  match names with
  | [] => some .directory
  | names => t.nodes.lookup names

/-- Puts a node where the given names lead to, instead of what stands there. -/
def put (t : FileTree) (names : List String) (node : FileNode) : FileTree :=
  { t with nodes := (names, node) :: t.nodes.filter fun entry => entry.1 ≠ names }

def erase (t : FileTree) (names : List String) : FileTree :=
  { t with nodes := t.nodes.filter fun entry => entry.1 ≠ names }

theorem node?_put_self (t : FileTree) {names : List String} (node : FileNode) (h : names ≠ []) :
    (t.put names node).node? names = some node := by
  cases names with
  | nil => exact absurd rfl h
  | cons first rest => simp [node?, put]

theorem node?_put_of_ne (t : FileTree) {names other : List String} (node : FileNode)
    (h : other ≠ names) : (t.put names node).node? other = t.node? other := by
  have skip (entries : List (List String × FileNode)) :
      (entries.filter fun entry => entry.1 ≠ names).lookup other = entries.lookup other := by
    induction entries with
    | nil => rfl
    | cons entry rest ih =>
      by_cases he : entry.1 = names
      · rw [List.filter_cons_of_neg (by simp [he]), ih, List.lookup_cons,
          beq_eq_false_iff_ne.2 (he ▸ h)]
      · rw [List.filter_cons_of_pos (by simp [he]), List.lookup_cons, List.lookup_cons, ih]
  cases other with
  | nil => rfl
  | cons first rest =>
    show List.lookup (first :: rest) ((names, node) :: _) = _
    rw [List.lookup_cons, beq_eq_false_iff_ne.2 h]
    exact skip t.nodes

/-- Puts a directory where the given names lead to, unless something stands there. -/
def ensure (t : FileTree) (names : List String) : FileTree :=
  if (t.node? names).isSome then t else t.put names .directory

def ensureAbove (t : FileTree) (names : List String) : FileTree :=
  (List.range names.length).foldl (fun t count => t.ensure (names.take count)) t

/-- An empty working directory, and nothing but the directories that lead to it. -/
def empty (working : List String) : FileTree :=
  (FileTree.mk [] working).ensureAbove working |>.ensure working

/-- Takes one step of a path from a directory. Nothing is above the root. -/
def step (names : List String) (piece : List Char) : List String :=
  match Path.Component.ofPiece? piece with
  | some (.name text) => names ++ [String.ofList text]
  | some .parent => names.dropLast
  | _ => names

/-- Follows the steps of a path; whatever is left by a step has to be a directory. -/
def follow (t : FileTree) (names : List String) :
    List (List Char) → Except FileFailure (List String)
  | [] => .ok names
  | piece :: rest =>
    match t.node? names with
    | none => .error .notFound
    | some (.file _ _) => .error .notADirectory
    | some .directory => follow t (step names piece) rest

def resolve (t : FileTree) (path : String) : Except FileFailure (List String) :=
  let text := path.toList
  if text = [] then .error .notFound
  else if text.contains '\x00' then .error .invalidInput
  else if text.head? = some '/' then follow t [] (Path.pieces text)
  else follow t t.working (Path.pieces text)

def find (t : FileTree) (path : String) : Except FileFailure FileNode :=
  match t.resolve path with
  | .error failure => .error failure
  | .ok names =>
    match t.node? names with
    | some node => .ok node
    | none => .error .notFound

def contains (t : FileTree) (path : String) : Bool := (t.find path).isOk

def isDirectory (t : FileTree) (path : String) : Bool :=
  match t.find path with
  | .ok .directory => true
  | _ => false

def readBytes (t : FileTree) (path : String) : Except FileError (List UInt8) :=
  match t.find path with
  | .error failure => .error (.ofSystem failure)
  | .ok .directory => .error (.ofSystem .isADirectory)
  | .ok (.file bytes _) => .ok bytes

def readText (t : FileTree) (path : String) : Except FileError String :=
  match t.readBytes path with
  | .error error => .error error
  | .ok bytes =>
    match Text.Utf8.decode? bytes with
    | some text => .ok (String.ofList text)
    | none => .error (.ofSystem .invalidData)

/-- Makes one directory, in a directory that exists. -/
def makeDirectory (t : FileTree) (path : String) : Except FileFailure FileTree :=
  match t.resolve path with
  | .error failure => .error failure
  | .ok names =>
    if (t.node? names).isSome then .error .alreadyExists else .ok (t.put names .directory)

/-- Makes a directory, given by its components in reverse, and those above it that are missing.
Directories once made stay when a later one fails. -/
def makeDirectories (t : FileTree) :
    List Path.Component → Except FileFailure Unit × FileTree
  | [] => (.ok (), t)
  | component :: above =>
    let path := Path.ofComponents (component :: above).reverse
    let settle (t : FileTree) (failure : FileFailure) : Except FileFailure Unit × FileTree :=
      if t.isDirectory path then (.ok (), t) else (.error failure, t)
    match t.makeDirectory path with
    | .ok made => (.ok (), made)
    | .error .notFound =>
      match makeDirectories t above with
      | (.error failure, t) => (.error failure, t)
      | (.ok (), t) =>
        match t.makeDirectory path with
        | .ok made => (.ok (), made)
        | .error failure => settle t failure
    | .error failure => settle t failure

def directoryOf (path : String) : String :=
  match Path.parent? path with
  | some parent => if parent = "" then "." else parent
  | none => "."

/-- Puts a file in the place of the one that a path names, in a directory that exists. -/
def replaceFile (t : FileTree) (path : String) (bytes : List UInt8) :
    Except FileFailure FileTree :=
  let pieces := Path.pieces path.toList
  if path = "" then .error .notFound
  else if pieces.all (· = []) then .error .resourceBusy
  else match pieces.getLast? with
    | some [] => .error .notADirectory
    | some ['.'] | some ['.', '.'] => .error .resourceBusy
    | _ =>
      match t.resolve path with
      | .error failure => .error failure
      | .ok names =>
        if t.node? names = some .directory then .error .isADirectory
        else .ok (t.put names (.file bytes false))

/-- Writes a file together with the directories that lead to it. The file is replaced as a whole or
stays as it was. -/
def writeFile (t : FileTree) (path : String) (bytes : List UInt8) :
    Except FileError Unit × FileTree :=
  match t.makeDirectories (Path.components (directoryOf path)).reverse with
  | (.error failure, t) => (.error (.ofSystem failure), t)
  | (.ok (), t) =>
    match t.replaceFile path bytes with
    | .error failure => (.error (.ofSystem failure), t)
    | .ok t => (.ok (), t)

def removeFile (t : FileTree) (path : String) : Except FileError FileTree :=
  match t.resolve path with
  | .error failure => .error (.ofSystem failure)
  | .ok names =>
    match t.node? names with
    | none => .error (.ofSystem .notFound)
    | some .directory => .error (.ofSystem .isADirectory)
    | some (.file _ _) => .ok (t.erase names)

/-- The path of an entry below the working directory, a slash behind a directory. -/
def pathOf? (t : FileTree) (entry : List String × FileNode) : Option String :=
  match t.working.isPrefixOf? entry.1 with
  | none | some [] => none
  | some names =>
    some ("/".intercalate names ++ if entry.2 = .directory then "/" else "")

def paths (t : FileTree) : List String := t.nodes.filterMap t.pathOf?

end FileTree

end CompilerLog
