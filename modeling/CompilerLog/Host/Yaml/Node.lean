import CompilerLog.Host.Yaml.Scalar
/-!
# YAML documents

The tree that a YAML text stands for. A malformed text still has a tree, which ends where the text
breaks off.
-/

namespace CompilerLog.Yaml

/-- A node of a document. -/
inductive Node where
  | scalar (tag : Option String) (style : Style) (text : String)
  | sequence (tag : Option String) (items : List Node)
  | mapping (tag : Option String) (entries : List (Node × Node))
  /-- Here the text breaks off; everything behind it is unknown. -/
  | broken
  deriving Repr

instance : Inhabited Node := ⟨.broken⟩

namespace Node

def empty : Node := scalar none .plain ""

def isEmpty : Node → Bool
  | scalar _ .plain "" => true
  | _ => false

mutual

def isWhole : Node → Bool
  | scalar _ _ _ => true
  | sequence _ items => areWhole items
  | mapping _ entries => haveWhole entries
  | broken => false

def areWhole : List Node → Bool
  | [] => true
  | item :: rest => item.isWhole && areWhole rest

def haveWhole : List (Node × Node) → Bool
  | [] => true
  | (key, value) :: rest => key.isWhole && value.isWhole && haveWhole rest

end

end Node

/-- A document, and whether nothing but the end follows it. -/
structure Document where
  root : Node
  isLast : Bool

end CompilerLog.Yaml
