/-!
# File paths

A path is text; two paths are the same when their components are. Repeated and trailing slashes
and a dot that is not the first component name nothing, two dots do.
-/

namespace CompilerLog.Path

/-- One step of a path. -/
inductive Component where
  | root
  | current
  | parent
  | name (text : List Char)
  deriving DecidableEq, Repr

/-- The text between the slashes of a path, empty pieces included. -/
def pieces : List Char → List (List Char)
  | [] => [[]]
  | c :: rest =>
    if c = '/' then [] :: pieces rest
    else match pieces rest with
      | [] => [[c]]
      | piece :: others => (c :: piece) :: others

def Component.ofPiece? (piece : List Char) : Option Component :=
  if piece = [] ∨ piece = ['.'] then none
  else if piece = ['.', '.'] then some .parent
  else some (.name piece)

/-- The components of a path. Only a first piece can be a root or a dot. -/
def components (path : String) : List Component :=
  match pieces path.toList with
  | [] => []
  | [[]] => []
  | [] :: rest => .root :: rest.filterMap Component.ofPiece?
  | ['.'] :: rest => .current :: rest.filterMap Component.ofPiece?
  | first :: rest => (first :: rest).filterMap Component.ofPiece?

def same (a b : String) : Bool := components a = components b

theorem same_iff {a b : String} : same a b = true ↔ components a = components b := by
  simp [same]

def Component.text : Component → String
  | .root => ""
  | .current => "."
  | .parent => ".."
  | .name text => String.ofList text

def ofComponents : List Component → String
  | [.root] => "/"
  | parts => "/".intercalate (parts.map Component.text)

/-- The path without its last component; none for the root and for the empty path. -/
def parent? (path : String) : Option String :=
  match (components path).reverse with
  | [] | .root :: _ => none
  | _ :: rest => some (ofComponents rest.reverse)

def join (directory file : String) : String :=
  if directory = "" ∨ directory.toList.getLast? = some '/' then directory ++ file
  else directory ++ "/" ++ file

end CompilerLog.Path
