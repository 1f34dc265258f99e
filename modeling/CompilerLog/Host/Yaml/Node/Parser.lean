import CompilerLog.Host.Yaml.Node
import CompilerLog.Host.Yaml.Token.Lexer
/-!
# Reading YAML documents

Tokens are read into a tree, each kind of collection by a reader of its own. A reader answers what
it has read and what is left; where the text breaks off nothing is left, and the collections that
are open end with a broken node.
-/

namespace CompilerLog.Yaml

/-- The names that have a meaning. -/
structure Names where
  /-- What the handles of tags stand for. -/
  handles : List (List Char × List Char)
  /-- The nodes with an anchor, the latest first. -/
  anchors : List (List Char × Node)

/-- What is left to be read. -/
structure Rest where
  names : Names
  tokens : List Token

/-- What is read, and what is left; nothing is left where the text breaks off. -/
structure Parsed (α : Type) where
  value : α
  rest : Option Rest

namespace Parsed

def broken : Parsed Node := ⟨.broken, none⟩

def map {α β : Type} (f : α → β) (p : Parsed α) : Parsed β := ⟨f p.value, p.rest⟩

/-- Reads the rest of a list, unless the text breaks off. -/
def andThen {α : Type} (first : Parsed α) (others : Rest → Parsed (List α)) : Parsed (List α) :=
  match first.rest with
  | none => ⟨[first.value], none⟩
  | some rest => (others rest).map (first.value :: ·)

def anchored (p : Parsed Node) : Option (List Char) → Parsed Node
  | none => p
  | some name => ⟨p.value, p.rest.map fun r =>
      { r with names := { r.names with anchors := (name, p.value) :: r.names.anchors } }⟩

end Parsed

/-- What stands before the content of a node. -/
structure Properties where
  anchor : Option (List Char)
  tag : Option RawTag

namespace Properties

def none : Properties := ⟨.none, .none⟩

def isNone (p : Properties) : Bool := p.anchor.isNone && p.tag.isNone

/-- The properties at the beginning of tokens, in either order, and the tokens behind them. -/
def ofTokens : List Token → Properties × List Token
  | .anchor name :: .tag tag :: rest => (⟨some name, some tag⟩, rest)
  | .anchor name :: rest => (⟨some name, .none⟩, rest)
  | .tag tag :: .anchor name :: rest => (⟨some name, some tag⟩, rest)
  | .tag tag :: rest => (⟨.none, some tag⟩, rest)
  | rest => (none, rest)

theorem length_ofTokens_le (tokens : List Token) :
    (ofTokens tokens).2.length ≤ tokens.length := by
  unfold ofTokens
  split <;> simp only [List.length_cons] <;> omega

end Properties

def Names.resolve? (n : Names) (tag : RawTag) : Option String :=
  if tag.handle = [] then some (String.ofList tag.suffix)
  else (n.handles.lookup tag.handle).map fun meaning => String.ofList (meaning ++ tag.suffix)

/-- The tag of a node; the one that says nothing counts as none. The outer option is empty when the
tag has no meaning. -/
def Names.tagOf? (n : Names) (p : Properties) : Option (Option String) :=
  match p.tag with
  | none => some none
  | some tag => (n.resolve? tag).map fun text => if text = "!" then none else some text

/-- Where a node stands: whether a block collection may begin there, and whether a list may begin
there without being indented. -/
structure Context where
  inBlock : Bool
  mayHang : Bool

mutual

def readNode (context : Context) (names : Names) (tokens : List Token) : Parsed Node :=
  match tokens with
  | .reference name :: rest =>
    match names.anchors.lookup name with
    | some node => ⟨node, some ⟨names, rest⟩⟩
    | none => .broken
  | tokens =>
    match names.tagOf? (Properties.ofTokens tokens).1 with
    | none => .broken
    | some tag =>
      have := Properties.length_ofTokens_le tokens
      (readContent context tag (Properties.ofTokens tokens).1.isNone names
        (Properties.ofTokens tokens).2).anchored (Properties.ofTokens tokens).1.anchor
termination_by 4 * tokens.length + 1

/-- Reads the content of a node. It may be left out behind properties. -/
def readContent (context : Context) (tag : Option String) (required : Bool) (names : Names)
    (tokens : List Token) : Parsed Node :=
  match tokens with
  | [] => .broken
  | .scalar style text :: rest =>
    ⟨.scalar tag style (String.ofList text), some ⟨names, rest⟩⟩
  | .flowSequenceStart :: rest => (readFlowItems true names rest).map (.sequence tag)
  | .flowMappingStart :: rest => (readFlowEntries true names rest).map (.mapping tag)
  | token :: rest =>
    if context.mayHang && token = .blockEntry then
      (readHangingItems true names rest).map (.sequence tag)
    else if context.inBlock && token = .blockSequenceStart then
      (readItems names rest).map (.sequence tag)
    else if context.inBlock && token = .blockMappingStart then
      (readEntries names rest).map (.mapping tag)
    else if required then .broken
    else ⟨.scalar tag .plain "", some ⟨names, token :: rest⟩⟩
termination_by 4 * tokens.length

/-- Reads a node, which is left out if one of the given tokens comes next. -/
def readSlot (context : Context) (ends : List Token) (names : Names) (tokens : List Token) :
    Parsed Node :=
  if tokens.head?.any (ends.contains ·) then ⟨.empty, some ⟨names, tokens⟩⟩
  else readNode context names tokens
termination_by 4 * tokens.length + 2

/-- Reads the items of an indented list, each behind its dash. -/
def readItems (names : Names) (tokens : List Token) : Parsed (List Node) :=
  match tokens with
  | .blockEnd :: rest => ⟨[], some ⟨names, rest⟩⟩
  | .blockEntry :: rest =>
    (readSlot ⟨true, false⟩ [.blockEntry, .blockEnd] names rest).andThen fun next =>
      if next.tokens.length ≤ rest.length then readItems next.names next.tokens else ⟨[], none⟩
  | _ => ⟨[.broken], none⟩
termination_by 4 * tokens.length

/-- Reads the items of a list that is not indented, behind the first dash or after an item. The
list ends before anything but a dash. -/
def readHangingItems (atItem : Bool) (names : Names) (tokens : List Token) :
    Parsed (List Node) :=
  match tokens, atItem with
  | tokens, true =>
    let ends := [.blockEntry, .key, .value, .blockEnd]
    (readSlot ⟨true, false⟩ ends names tokens).andThen fun next =>
      if next.tokens.length ≤ tokens.length then
        readHangingItems false next.names next.tokens
      else ⟨[], none⟩
  | .blockEntry :: rest, false => readHangingItems true names rest
  | [], false => ⟨[.broken], none⟩
  | tokens, false => ⟨[], some ⟨names, tokens⟩⟩
termination_by 4 * tokens.length + if atItem then 3 else 0

/-- Reads a key and its value. The value is left out unless its mark comes next. -/
def readPair (context : Context) (keyEnds valueEnds : List Token) (names : Names)
    (tokens : List Token) : Parsed (Node × Node) :=
  let key := readSlot context keyEnds names tokens
  match key.rest with
  | none => ⟨(key.value, .broken), none⟩
  | some next =>
    match next.tokens with
    | [] => ⟨(key.value, .broken), none⟩
    | .value :: rest =>
      if rest.length < tokens.length then
        (readSlot context valueEnds next.names rest).map fun value => (key.value, value)
      else ⟨(key.value, .broken), none⟩
    | _ => ⟨(key.value, .empty), some next⟩
termination_by 4 * tokens.length + 3

def readEntries (names : Names) (tokens : List Token) : Parsed (List (Node × Node)) :=
  match tokens with
  | .blockEnd :: rest => ⟨[], some ⟨names, rest⟩⟩
  | .key :: rest =>
    let ends := [.key, .value, .blockEnd]
    (readPair ⟨true, true⟩ ends ends names rest).andThen fun next =>
      if next.tokens.length ≤ rest.length then readEntries next.names next.tokens
      else ⟨[], none⟩
  | _ => ⟨[(.broken, .broken)], none⟩
termination_by 4 * tokens.length

/-- Reads the items between brackets; all but the first one stand behind a comma. An item may be a
single pair. -/
def readFlowItems (atItem : Bool) (names : Names) (tokens : List Token) : Parsed (List Node) :=
  match tokens, atItem with
  | .flowSequenceEnd :: rest, _ => ⟨[], some ⟨names, rest⟩⟩
  | .flowEntry :: rest, false => readFlowItems true names rest
  | _, false => ⟨[.broken], none⟩
  | .key :: rest, true =>
    let pair := readPair ⟨false, false⟩ [.value, .flowEntry, .flowSequenceEnd]
      [.flowEntry, .flowSequenceEnd] names rest
    (pair.map fun entry => .mapping none [entry]).andThen fun next =>
      if next.tokens.length ≤ rest.length then readFlowItems false next.names next.tokens
      else ⟨[], none⟩
  | tokens, true =>
    (readNode ⟨false, false⟩ names tokens).andThen fun next =>
      if next.tokens.length ≤ tokens.length then readFlowItems false next.names next.tokens
      else ⟨[], none⟩
termination_by 4 * tokens.length + if atItem then 3 else 0

/-- Reads the pairs between braces; all but the first one stand behind a comma. A key may stand
alone. -/
def readFlowEntries (atItem : Bool) (names : Names) (tokens : List Token) :
    Parsed (List (Node × Node)) :=
  match tokens, atItem with
  | .flowMappingEnd :: rest, _ => ⟨[], some ⟨names, rest⟩⟩
  | .flowEntry :: rest, false => readFlowEntries true names rest
  | _, false => ⟨[(.broken, .broken)], none⟩
  | .key :: rest, true =>
    let entry := readPair ⟨false, false⟩ [.value, .flowEntry, .flowMappingEnd]
      [.flowEntry, .flowMappingEnd] names rest
    entry.andThen fun next =>
      if next.tokens.length ≤ rest.length then readFlowEntries false next.names next.tokens
      else ⟨[], none⟩
  | tokens, true =>
    let key := readNode ⟨false, false⟩ names tokens
    let value : Node := if key.rest.isSome then .empty else .broken
    (key.map fun key => (key, value)).andThen fun next =>
      if next.tokens.length ≤ tokens.length then readFlowEntries false next.names next.tokens
      else ⟨[], none⟩
termination_by 4 * tokens.length + if atItem then 3 else 0

end

/-! ### Documents -/

def defaultHandles : List (List Char × List Char) :=
  [(['!'], ['!']), (['!', '!'], "tag:yaml.org,2002:".toList)]

/-- Reads the directives before a document: one version that is known, and a meaning for each of
some handles. Answers the meanings and the tokens behind the marker of the document. -/
def readDirectives (hasVersion : Bool) (handles : List (List Char × List Char)) :
    List Token → Option (List (List Char × List Char) × List Token)
  | .version major minor :: rest =>
    if !hasVersion && major = 1 && (minor = 1 || minor = 2) then readDirectives true handles rest
    else none
  | .tagDirective handle meaning :: rest =>
    if (handles.lookup handle).isSome then none
    else readDirectives hasVersion ((handle, meaning) :: handles) rest
  | .documentStart :: rest => some (handles, rest)
  | _ => none

/-- Whether nothing but the ends of the document and of the stream is left. -/
def isOver (tokens : List Token) : Bool :=
  tokens.dropWhile (· = .documentEnd) = [.streamEnd]

def Parsed.document (p : Parsed Node) : Document :=
  ⟨p.value, p.rest.any fun r => isOver r.tokens⟩

/-- Reads a document behind its marker, where it may be left out. -/
def readMarked (handles : List (List Char × List Char)) (tokens : List Token) : Document :=
  let names : Names := ⟨handles ++ defaultHandles, []⟩
  match tokens with
  | .version _ _ :: _ | .tagDirective _ _ :: _ | .documentStart :: _ | .documentEnd :: _
  | .streamEnd :: _ => Parsed.document ⟨.empty, some ⟨names, tokens⟩⟩
  | _ => (readNode ⟨true, false⟩ names tokens).document

def Document.ofTokens (tokens : List Token) : Document :=
  match tokens with
  | .version _ _ :: _ | .tagDirective _ _ :: _ | .documentStart :: _ =>
    match readDirectives false [] tokens with
    | some (handles, rest) => readMarked handles rest
    | none => ⟨.broken, false⟩
  | _ => (readNode ⟨true, false⟩ ⟨defaultHandles, []⟩ tokens).document

def Document.ofText (text : List Char) : Document := .ofTokens (tokens text)

end CompilerLog.Yaml
