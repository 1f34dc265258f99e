import CompilerLog.Host.Regex.Basic
/-!
# Reading regular expressions

A pattern is read from left to right by a machine that holds the groups and the bracketed sets that
are still open. `Regex.parse?` answers none for every pattern that is not a regular expression:
look-around and back-references are no part of the language.
-/

namespace CompilerLog.Regex

/-- The settings that flags turn on and off. -/
structure Flags where
  ignoreCase : Bool := false
  multiLine : Bool := false
  dotNewline : Bool := false
  swapGreed : Bool := false
  unicode : Bool := true
  crlf : Bool := false
  ignoreSpace : Bool := false

def Flags.set? (flags : Flags) (letter : Char) (value : Bool) : Option Flags :=
  match letter with
  | 'i' => some { flags with ignoreCase := value }
  | 'm' => some { flags with multiLine := value }
  | 's' => some { flags with dotNewline := value }
  | 'U' => some { flags with swapGreed := value }
  | 'u' => some { flags with unicode := value }
  | 'R' => some { flags with crlf := value }
  | 'x' => some { flags with ignoreSpace := value }
  | _ => none

/-! ### Small readers

Each answers what it has read together with the text behind it. -/

def skipBlanks (text : List Char) : List Char := text.dropWhile Text.isBlank

/-- Drops white space and comments, which end with the line. -/
def skipComments (inComment : Bool) : List Char → List Char
  | [] => []
  | c :: rest =>
    if inComment then skipComments (c ≠ '\n') rest
    else if c = '#' then skipComments true rest
    else if Text.isBlank c then skipComments false rest
    else c :: rest

def Flags.skip (flags : Flags) (text : List Char) : List Char :=
  if flags.ignoreSpace then skipComments false text else text

def hexValue? (c : Char) : Option Nat :=
  if c.isDigit then some (c.toNat - '0'.toNat)
  else if 'a' ≤ c ∧ c ≤ 'f' then some (c.toNat - 'a'.toNat + 10)
  else if 'A' ≤ c ∧ c ≤ 'F' then some (c.toNat - 'A'.toNat + 10)
  else none

def hexNumber? (digits : List Char) : Option Nat :=
  digits.foldlM (fun n c => (hexValue? c).map (n * 16 + ·)) 0

def charOf? (n : Nat) : Option Char :=
  if n.isValidChar then some (Char.ofNat n) else none

def readHexDigits (flags : Flags) : Nat → List Char → List Char → Option (List Char × List Char)
  | 0, digits, text => some (digits.reverse, text)
  | count + 1, digits, text =>
    match text with
    | c :: rest =>
      if (hexValue? c).isSome then readHexDigits flags count (c :: digits) (flags.skip rest)
      else none
    | [] => none

/-- Reads a character that is given by its code point, with or without braces. -/
def readHex (flags : Flags) (count : Nat) (text : List Char) : Option (Char × List Char) :=
  match flags.skip text with
  | '\x7b' :: rest => do
    let digits := (rest.takeWhile (· ≠ '\x7d')).filter
      fun c => !(flags.ignoreSpace && Text.isBlank c)
    match rest.dropWhile (· ≠ '\x7d') with
    | _ :: rest =>
      if digits = [] then none
      else do
        let n ← hexNumber? digits
        let c ← charOf? n
        pure (c, flags.skip rest)
    | [] => none
  | text => do
    let (digits, rest) ← readHexDigits flags count [] text
    let n ← hexNumber? digits
    let c ← charOf? n
    pure (c, rest)

/-- What an escape or a character outside brackets stands for. -/
inductive Primitive where
  | char (c : Char)
  /-- A byte outside ASCII given by two hexadecimal digits. -/
  | byte (c : Char)
  | set (set : CharSet)
  | assertion (kind : Assertion)
  | dot

def propertySet? (body : List Char) : Option (CharSet × Bool) :=
  let key := body.takeWhile fun c => c ≠ '=' && c ≠ ':'
  match body.drop key.length with
  | '=' :: value =>
    if key.getLast? = some '!' then
      (CharSet.valued? key.dropLast value).map (·, true)
    else (CharSet.valued? key value).map (·, false)
  | ':' :: value => (CharSet.valued? key value).map (·, false)
  | _ => (CharSet.named? body).map (·, false)

/-- Applies case folding, then the complement. Where sets stand for bytes, one with a byte outside
ASCII is refused, since it could match a part of a character. -/
def finishSet (flags : Flags) (negated : Bool) (set : CharSet) : Option CharSet :=
  let folded := if flags.ignoreCase then set.foldCase flags.unicode else set
  let finished := folded.complIf negated
  if flags.unicode || finished.isAscii then some finished else none

def readProperty (flags : Flags) (negated : Bool) (text : List Char) :
    Option (CharSet × List Char) := do
  let (body, rest) ←
    match flags.skip text with
    | '\x7b' :: rest =>
      match rest.dropWhile (· ≠ '\x7d') with
      | _ :: after =>
        some ((rest.takeWhile (· ≠ '\x7d')).filter
          fun c => !(flags.ignoreSpace && Text.isBlank c), after)
      | [] => none
    | c :: rest => if c = '\\' then none else some ([c], rest)
    | [] => none
  if !flags.unicode then none
  let (set, differs) ← propertySet? body
  let set ← finishSet flags (negated != differs) set
  pure (set, flags.skip rest)

/-- The characters that a backslash makes literal: ASCII other than letters, digits and angles. -/
def isEscapable (c : Char) : Bool :=
  c.toNat < 0x80 && !c.isAlphanum && c ≠ '<' && c ≠ '>'

def boundaryNames : List (String × Assertion) :=
  [("start", .wordStart), ("end", .wordEnd), ("start-half", .wordStartHalf),
    ("end-half", .wordEndHalf)]

/-- Reads what may follow `\b`: a kind of boundary in braces. Braces that do not begin a name are
left alone, since they are a repetition. -/
def readBoundary (flags : Flags) (text : List Char) : Option (Assertion × List Char) :=
  let isNameChar (c : Char) : Bool := c.isAlpha || c = '-'
  match text with
  | '\x7b' :: rest =>
    let inside := flags.skip rest
    match inside with
    | [] => none
    | c :: _ =>
      if isNameChar c then
        let name := inside.takeWhile isNameChar
        match inside.drop name.length with
        | '\x7d' :: after =>
          (boundaryNames.find? (·.1.toList = name)).map fun entry => (entry.2, after)
        | _ => none
      else some (.wordBoundary, text)
  | _ => some (.wordBoundary, text)

def readEscape (flags : Flags) : List Char → Option (Primitive × List Char)
  | [] => none
  | c :: rest =>
    let perl (set : CharSet) (negated : Bool) : Option (Primitive × List Char) :=
      let set := set.complIf negated
      if flags.unicode || set.isAscii then some (.set set, rest) else none
    match c with
    | 'x' =>
      (readHex flags 2 rest).map fun (found, after) =>
        let fixed := (flags.skip rest).head? != some '\x7b'
        (if fixed && !flags.unicode && 0x80 ≤ found.toNat then .byte found else .char found, after)
    | 'u' => (readHex flags 4 rest).map fun (found, after) => (.char found, after)
    | 'U' => (readHex flags 8 rest).map fun (found, after) => (.char found, after)
    | 'p' => (readProperty flags false rest).map fun (set, after) => (.set set, after)
    | 'P' => (readProperty flags true rest).map fun (set, after) => (.set set, after)
    | 'd' => perl (CharSet.digit flags.unicode) false
    | 'D' => perl (CharSet.digit flags.unicode) true
    | 's' => perl (CharSet.space flags.unicode) false
    | 'S' => perl (CharSet.space flags.unicode) true
    | 'w' => perl (CharSet.word flags.unicode) false
    | 'W' => perl (CharSet.word flags.unicode) true
    | 'a' => some (.char '\x07', rest)
    | 'f' => some (.char '\x0c', rest)
    | 't' => some (.char '\t', rest)
    | 'n' => some (.char '\n', rest)
    | 'r' => some (.char '\r', rest)
    | 'v' => some (.char '\x0b', rest)
    | 'A' => some (.assertion .textStart, rest)
    | 'z' => some (.assertion .textEnd, rest)
    | 'b' => (readBoundary flags rest).map fun (kind, after) => (.assertion kind, after)
    | 'B' => some (.assertion .noWordBoundary, rest)
    | '<' => some (.assertion .wordStart, rest)
    | '>' => some (.assertion .wordEnd, rest)
    | _ => if isEscapable c then some (.char c, rest) else none

def readCount (flags : Flags) (text : List Char) : Option (Nat × List Char) :=
  let text := skipBlanks text
  let isPart (c : Char) : Bool := c.isDigit || (flags.ignoreSpace && Text.isBlank c)
  let digits := (text.takeWhile isPart).filter Char.isDigit
  let n := digits.foldl (fun n c => n * 10 + (c.toNat - '0'.toNat)) 0
  if digits = [] ∨ Nat.pow 2 32 ≤ n then none else some (n, skipBlanks (text.dropWhile isPart))

def readCounts (flags : Flags) (text : List Char) : Option (Nat × Option Nat × List Char) := do
  let (least, rest) ← readCount flags (flags.skip text)
  let (most, rest) ←
    match rest with
    | ',' :: rest =>
      match flags.skip rest with
      | '\x7d' :: rest => some (none, '\x7d' :: rest)
      | rest => (readCount flags rest).map fun (most, rest) => (some most, rest)
    | rest => some (some least, rest)
  match rest with
  | '\x7d' :: rest => if most.all (least ≤ ·) then some (least, most, rest) else none
  | _ => none

/-! ### The machine -/

/-- A part of a sequence: what it matches, how deeply its groups are nested, and whether it can be
repeated. -/
structure Item where
  regex : Regex
  depth : Nat
  repeatable : Bool := true

/-- The sequence begun and the alternatives before it, in reverse. -/
structure Sequence where
  items : List Item := []
  alternatives : List (Regex × Nat) := []

/-- The whole of a sequence, with its depth. -/
def Sequence.whole (s : Sequence) : Regex × Nat :=
  let depths := s.items.map (·.depth)
  let depth := depths.foldl max 0 + (if s.items.length ≤ 1 then 0 else 1)
  match s.items.map (·.regex) with
  | [] => (.empty, 0)
  | last :: rest => (rest.foldl (fun later r => .concat r later) last, depth)

def Sequence.choice (s : Sequence) : Regex × Nat :=
  s.alternatives.foldl
    (fun later option => (.alternate option.1 later.1, max (option.2 + 1) later.2))
    (let (regex, depth) := s.whole
     (regex, if s.alternatives.isEmpty then depth else depth + 1))

/-- A group that is still open: what stands before it and the flags to go back to. -/
structure Group where
  outer : Sequence
  flags : Flags

/-- The operations between the sets inside brackets. -/
inductive SetOperation where
  | inter
  | diff
  | symmDiff

/-- The result of an operation; the operands are folded first where case is ignored. -/
def SetOperation.apply (op : SetOperation) (flags : Flags) (a b : CharSet) : CharSet :=
  let fold (s : CharSet) := if flags.ignoreCase then s.foldCase flags.unicode else s
  match op with
  | .inter => (fold a).inter (fold b)
  | .diff => (fold a).diff (fold b)
  | .symmDiff => (fold a).symmDiff (fold b)

/-- Brackets that are still open: whether they are negated, what the outer brackets hold, and the
operation begun with its left operand. -/
structure Bracket where
  negated : Bool
  outer : CharSet
  pending : Option (SetOperation × CharSet) := none

/-- The state of reading a pattern. -/
structure Machine where
  flags : Flags := {}
  sequence : Sequence := {}
  groups : List Group := []
  names : List (List Char) := []
  /-- The open brackets, the innermost first. -/
  brackets : List Bracket := []
  /-- What the innermost brackets hold so far. -/
  held : CharSet := .none

namespace Machine

def push (m : Machine) (item : Item) : Machine :=
  { m with sequence := { m.sequence with items := item :: m.sequence.items } }

def pushPrimitive (m : Machine) : Primitive → Option Machine
  | .char c =>
    let plain := CharSet.single c
    let set :=
      if m.flags.ignoreCase && (m.flags.unicode || c.toNat < 0x80) then
        plain.foldCase m.flags.unicode
      else plain
    some (m.push ⟨.chars set, 0, true⟩)
  | .byte _ => none
  | .set set => some (m.push ⟨.chars set, 0, true⟩)
  | .assertion kind => some (m.push ⟨.assertion m.flags.unicode kind, 0, true⟩)
  | .dot =>
    if m.flags.unicode then
      let has (c : Char) : Bool :=
        m.flags.dotNewline || (c ≠ '\n' && !(m.flags.crlf && c = '\r'))
      some (m.push ⟨.chars ⟨has, 700⟩, 0, true⟩)
    else none

def caret (flags : Flags) : Assertion :=
  if flags.multiLine then (if flags.crlf then .lineStartCRLF else .lineStart) else .textStart

def dollar (flags : Flags) : Assertion :=
  if flags.multiLine then (if flags.crlf then .lineEndCRLF else .lineEnd) else .textEnd

def repeatLast (m : Machine) (least : Nat) (most : Option Nat) : Option Machine :=
  match m.sequence.items with
  | [] => none
  | item :: items =>
    if item.repeatable then
      let repeated : Item := ⟨.repetition item.regex least most, item.depth + 1, true⟩
      some { m with sequence := { m.sequence with items := repeated :: items } }
    else none

def dropReluctant : List Char → List Char
  | '?' :: rest => rest
  | rest => rest

def readFlags (flags : Flags) (value : Bool) (seen : List Char) :
    List Char → Option (Flags × List Char × List Char)
  | [] => none
  | c :: rest =>
    if c = ':' ∨ c = ')' then
      if seen.head? = some '-' then none else some (flags, seen, c :: rest)
    else if seen.contains c then none
    else if c = '-' then readFlags flags false (c :: seen) rest
    else (flags.set? c value).bind fun flags => readFlags flags value (c :: seen) rest

def isNameChar (first : Bool) (c : Char) : Bool :=
  let isAlphabetic := (Unicode.property? "alphabetic").any (· c)
  let isNumeric := match Unicode.Category.ofChar c with
    | .decimalNumber | .letterNumber | .otherNumber => true
    | _ => false
  c = '_' || isAlphabetic || (!first && (c = '.' || c = '[' || c = ']' || isNumeric))

def readName (names : List (List Char)) (text : List Char) :
    Option (List Char × List Char) :=
  let name := text.takeWhile (· ≠ '>')
  match name, text.drop name.length with
  | first :: others, '>' :: rest =>
    if isNameChar true first && others.all (isNameChar false) && !names.contains name then
      some (name, rest)
    else none
  | _, _ => none

def openGroup (m : Machine) (flags : Flags) : Machine :=
  { m with sequence := {}, groups := ⟨m.sequence, m.flags⟩ :: m.groups, flags }

def readGroup (m : Machine) (text : List Char) : Option (Machine × List Char) :=
  let text := m.flags.skip text
  let named (rest : List Char) : Option (Machine × List Char) :=
    (readName m.names rest).map fun (name, rest) =>
      (openGroup { m with names := name :: m.names } m.flags, rest)
  match text with
  | '?' :: '=' :: _ | '?' :: '!' :: _ | '?' :: '<' :: '=' :: _ | '?' :: '<' :: '!' :: _ => none
  | '?' :: 'P' :: '<' :: rest => named rest
  | '?' :: '<' :: rest => named rest
  | '?' :: rest =>
    (readFlags m.flags true [] rest).bind fun (flags, seen, rest) =>
      match rest with
      | ':' :: rest => some (openGroup m flags, rest)
      | _ :: rest =>
        if seen = [] then none
        else some ({ m with flags }.push ⟨.empty, 0, false⟩, rest)
      | [] => none
  | text => some (openGroup m m.flags, text)

def closeGroup (m : Machine) : Option Machine :=
  match m.groups with
  | [] => none
  | group :: groups =>
    let (regex, depth) := m.sequence.choice
    some ({ m with sequence := group.outer, flags := group.flags, groups }.push
      ⟨regex, depth + 1, true⟩)

def alternate (m : Machine) : Machine :=
  { m with sequence := ⟨[], m.sequence.whole :: m.sequence.alternatives⟩ }

/-! ### Brackets -/

def hold (m : Machine) (set : CharSet) : Machine := { m with held := m.held.union set }

/-- Reads the hyphens that begin a bracketed set; they stand for themselves. -/
def readHyphens (flags : Flags) (held : CharSet) : List Char → CharSet × List Char
  | '-' :: rest =>
    let (held, after) := readHyphens flags (held.union (.single '-')) rest
    (held, flags.skip after)
  | rest => (held, rest)

/-- Reads the beginning of a bracketed set behind its bracket. A closing bracket that stands first
stands for itself. -/
def openBracket (m : Machine) (text : List Char) : Machine × List Char :=
  let text := m.flags.skip text
  let (negated, text) := match text with
    | '^' :: rest => (true, m.flags.skip rest)
    | _ => (false, text)
  let brackets := ⟨negated, m.held, none⟩ :: m.brackets
  match text with
  | ']' :: rest => ({ m with brackets, held := .single ']' }, m.flags.skip rest)
  | _ =>
    let (held, rest) := readHyphens m.flags .none text
    ({ m with brackets, held }, rest)

/-- What the innermost brackets hold, with the operation begun applied. -/
def settle (m : Machine) (bracket : Bracket) : CharSet :=
  match bracket.pending with
  | some (op, left) => op.apply m.flags left m.held
  | none => m.held

def closeBracket (m : Machine) : Option Machine :=
  match m.brackets with
  | [] => none
  | bracket :: brackets =>
    (finishSet m.flags bracket.negated (m.settle bracket)).map fun set =>
      match brackets with
      | [] => { m with brackets, held := .none }.push ⟨.chars set, 1, true⟩
      | _ => { m with brackets, held := bracket.outer.union set }

def operate (m : Machine) (op : SetOperation) : Machine :=
  match m.brackets with
  | [] => m
  | bracket :: brackets =>
    { m with
      brackets := { bracket with pending := some (op, m.settle bracket) } :: brackets
      held := .none }

def readAsciiClass (flags : Flags) (text : List Char) : Option (Option CharSet × List Char) :=
  match text with
  | ':' :: rest =>
    let (negated, rest) := match rest with
      | '^' :: rest => (true, rest)
      | _ => (false, rest)
    let name := rest.takeWhile (· ≠ ':')
    match rest.drop name.length with
    | ':' :: ']' :: after =>
      (CharSet.ascii? (String.ofList name)).map fun set => (finishSet flags negated set, after)
    | _ => none
  | _ => none

def readSetItem (flags : Flags) : List Char → Option (Primitive × List Char)
  | '\\' :: rest => readEscape flags rest
  | c :: rest => some (.char c, rest)
  | [] => none

/-- A character as a member of a set. Where sets stand for bytes it has to be ASCII. -/
def member? (flags : Flags) : Primitive → Option Char
  | .char c => if flags.unicode || c.toNat < 0x80 then some c else none
  | _ => none

/-- Reads one member of a set: a character, a range or a class. -/
def readMember (m : Machine) (text : List Char) : Option (Machine × List Char) := do
  let (first, rest) ← readSetItem m.flags text
  let rest := m.flags.skip rest
  let alone : Option (Machine × List Char) :=
    match first with
    | .set set => some (m.hold set, rest)
    | _ => (member? m.flags first).map fun c => (m.hold (.single c), rest)
  match rest with
  | [] => none
  | '-' :: behind =>
    let behind := m.flags.skip behind
    match behind with
    | [] => none
    | ']' :: _ | '-' :: _ => alone
    | _ => do
      let low ← member? m.flags first
      let (second, rest) ← readSetItem m.flags behind
      let high ← member? m.flags second
      if low ≤ high then pure (m.hold (.range low high), rest) else none
  | _ => alone

def stepBracket (m : Machine) (text : List Char) : Option (Machine × List Char) :=
  match text with
  | [] => none
  | '[' :: rest =>
    match readAsciiClass m.flags rest with
    | some (some set, after) => some (m.hold set, after)
    | some (none, _) => none
    | none => some (m.openBracket rest)
  | ']' :: rest => m.closeBracket.map (·, rest)
  | '&' :: '&' :: rest => some (m.operate .inter, rest)
  | '-' :: '-' :: rest => some (m.operate .diff, rest)
  | '~' :: '~' :: rest => some (m.operate .symmDiff, rest)
  | _ => m.readMember text

def stepSequence (m : Machine) (text : List Char) : Option (Machine × List Char) :=
  match text with
  | [] => none
  | c :: rest =>
    match c with
    | '(' => m.readGroup rest
    | ')' => m.closeGroup.map (·, rest)
    | '|' => some (m.alternate, rest)
    | '[' => some (m.openBracket rest)
    | '?' => (m.repeatLast 0 (some 1)).map (·, dropReluctant rest)
    | '*' => (m.repeatLast 0 none).map (·, dropReluctant rest)
    | '+' => (m.repeatLast 1 none).map (·, dropReluctant rest)
    | '\x7b' => do
      let (least, most, rest) ← readCounts m.flags rest
      let m ← m.repeatLast least most
      pure (m, dropReluctant (m.flags.skip rest))
    | '\\' => do
      let (primitive, rest) ← readEscape m.flags rest
      let m ← m.pushPrimitive primitive
      pure (m, rest)
    | '.' => (m.pushPrimitive .dot).map (·, rest)
    | '^' => (m.pushPrimitive (.assertion (caret m.flags))).map (·, rest)
    | '$' => (m.pushPrimitive (.assertion (dollar m.flags))).map (·, rest)
    | c => (m.pushPrimitive (.char c)).map (·, rest)

/-- Reads a pattern to its end. Every step reads at least one character. -/
def run (m : Machine) (text : List Char) : Option Machine :=
  match m.flags.skip text with
  | [] => some m
  | c :: rest =>
    let next := if m.brackets.isEmpty then m.stepSequence (c :: rest) else m.stepBracket (c :: rest)
    next.bind fun (m, left) => if left.length < text.length then run m left else none
termination_by text.length

/-- How deeply groups, repetitions and the like may be nested. -/
def depthLimit : Nat := 250

def weightLimit : Nat := 10 * Nat.pow 2 20

/-- The expression read, if the pattern may end here. -/
def finish? (m : Machine) : Option Regex :=
  let (regex, depth) := m.sequence.choice
  if m.groups.isEmpty && m.brackets.isEmpty && depth ≤ depthLimit && regex.weight ≤ weightLimit then
    some regex
  else none

end Machine

def parse? (pattern : String) : Option Regex :=
  (Machine.run {} pattern.toList).bind Machine.finish?

end CompilerLog.Regex
