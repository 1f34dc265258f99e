import CompilerLog.Unicode.Category
import CompilerLog.Unicode.Folding
import CompilerLog.Unicode.Property
import CompilerLog.Unicode.Script
/-!
# Sets of characters in patterns

The sets that a pattern can name: Unicode and ASCII classes, properties, and what is built from
them. A set also carries its weight, a rough measure of the memory that a compiled form takes; a
pattern that is too heavy is refused.
-/

namespace CompilerLog.Regex

/-- A set of characters with its weight. -/
structure CharSet where
  has : Char → Bool
  weight : Nat

namespace CharSet

def none : CharSet := ⟨fun _ => false, 0⟩

def single (c : Char) : CharSet := ⟨(· = c), 32 * c.utf8Size⟩

/-- The characters between two, both included. -/
def range (low high : Char) : CharSet :=
  ⟨fun c => low ≤ c && c ≤ high, 32 * high.utf8Size⟩

def union (a b : CharSet) : CharSet := ⟨fun c => a.has c || b.has c, a.weight + b.weight⟩

def inter (a b : CharSet) : CharSet := ⟨fun c => a.has c && b.has c, max a.weight b.weight⟩

def diff (a b : CharSet) : CharSet := ⟨fun c => a.has c && !b.has c, max a.weight b.weight⟩

def symmDiff (a b : CharSet) : CharSet := ⟨fun c => a.has c != b.has c, a.weight + b.weight⟩

def compl (a : CharSet) : CharSet := ⟨fun c => !a.has c, a.weight + 600⟩

/-- The set, or its complement. -/
def complIf (negated : Bool) (a : CharSet) : CharSet := if negated then a.compl else a

def otherCase (c : Char) : Char :=
  if c.isUpper then c.toLower else if c.isLower then c.toUpper else c

def foldCase (unicode : Bool) (a : CharSet) : CharSet :=
  if unicode then ⟨fun c => (Unicode.caseVariants c).any a.has, 2 * a.weight⟩
  else ⟨fun c => a.has c || a.has (otherCase c), 2 * a.weight⟩

/-- Whether the set has no byte outside ASCII, where a set stands for bytes. -/
def isAscii (a : CharSet) : Bool :=
  (List.range 128).all fun n => !a.has (Char.ofNat (128 + n))

/-- The decimal digits of all scripts, or of ASCII. -/
def digit (unicode : Bool) : CharSet :=
  if unicode then ⟨fun c => Unicode.Category.ofChar c = .decimalNumber, 4500⟩
  else ⟨Char.isDigit, 32⟩

/-- The blanks of all scripts, or those of ASCII. -/
def space (unicode : Bool) : CharSet :=
  if unicode then ⟨Text.isBlank, 900⟩
  else ⟨fun c => c = ' ' || ('\t' ≤ c && c ≤ '\r'), 40⟩

/-- Whether a character is part of a word in some script: a letter, mark, digit, connector or
joiner. -/
def isWordChar (c : Char) : Bool :=
  if c.toNat < 0x80 then c.isAlphanum || c = '_'
  else match Unicode.Category.ofChar c with
    | .uppercaseLetter | .lowercaseLetter | .titlecaseLetter | .modifierLetter | .otherLetter
    | .letterNumber | .nonspacingMark | .spacingMark | .enclosingMark | .decimalNumber
    | .connectorPunctuation => true
    | _ => c = '\u200c' || c = '\u200d' || ((Unicode.property? "alphabetic").any (· c))

/-- The characters of words in all scripts, or in ASCII. -/
def word (unicode : Bool) : CharSet :=
  if unicode then ⟨isWordChar, 47000⟩
  else ⟨fun c => c.isAlphanum || c = '_', 40⟩

/-- The ASCII classes, each with its name. -/
def asciiClasses : List (String × (Char → Bool)) :=
  [("alnum", Char.isAlphanum),
   ("alpha", Char.isAlpha),
   ("ascii", fun c => c.toNat < 0x80),
   ("blank", fun c => c = '\t' || c = ' '),
   ("cntrl", fun c => c.toNat < 0x20 || c.toNat = 0x7f),
   ("digit", Char.isDigit),
   ("graph", fun c => '!' ≤ c && c ≤ '~'),
   ("lower", Char.isLower),
   ("print", fun c => ' ' ≤ c && c ≤ '~'),
   ("punct", fun c => '!' ≤ c && c ≤ '~' && !c.isAlphanum),
   ("space", fun c => c = ' ' || ('\t' ≤ c && c ≤ '\r')),
   ("upper", Char.isUpper),
   ("word", fun c => c.isAlphanum || c = '_'),
   ("xdigit", fun c => c.isDigit || ('a' ≤ c && c ≤ 'f') || ('A' ≤ c && c ≤ 'F'))]

def ascii? (name : String) : Option CharSet :=
  (asciiClasses.find? (·.1 = name)).map fun entry => ⟨entry.2, 40⟩

/-- The name of a property without case, separators and a leading `is`. -/
def looseName (name : List Char) : String :=
  let trimmed := match name with
    | i :: s :: rest => if i.toLower = 'i' ∧ s.toLower = 's' then rest else name
    | _ => name
  let kept := (trimmed.filter fun c => c ≠ ' ' && c ≠ '_' && c ≠ '-' && c.toNat < 0x80).map
    Char.toLower
  if trimmed.length < name.length ∧ kept = ['c'] then "isc" else String.ofList kept

def ofTest (has : Char → Bool) : CharSet := ⟨has, 5000⟩

def category? (name : String) : Option CharSet :=
  if name = "any" then some (ofTest fun _ => true)
  else if name = "assigned" then some (ofTest fun c => Unicode.Category.ofChar c ≠ .unassigned)
  else if name = "ascii" then some (ofTest fun c => c.toNat < 0x80)
  else (Unicode.Category.named? name).map fun categories =>
    ofTest fun c => categories.contains (Unicode.Category.ofChar c)

def script? (name : String) : Option CharSet :=
  (Unicode.script? name).map fun script => ofTest (Unicode.inScript script)

/-- The names of categories that are names of properties too, and mean the category. -/
def categoryFirst : List String := ["cf", "sc", "lc"]

/-- The set that a single name stands for: a property, a category or a script. -/
def named? (name : List Char) : Option CharSet :=
  let name := looseName name
  let property := if name ∈ categoryFirst then Option.none else Unicode.property? name
  ((property.map ofTest).or (category? name)).or (script? name)

def valued? (property value : List Char) : Option CharSet :=
  let value := looseName value
  match looseName property with
  | "gc" | "generalcategory" => category? value
  | "sc" | "script" => script? value
  | "scx" | "scriptextensions" =>
    (Unicode.script? value).map fun script => ofTest (Unicode.usedByScript script)
  | _ => Option.none

end CharSet

end CompilerLog.Regex
