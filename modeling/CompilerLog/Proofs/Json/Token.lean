import CompilerLog.Proofs.Json.Spelling
/-!
# The tokens of written JSON

What the printer writes for a value is cut into the tokens of that value, in whatever layout it is
written.
-/

namespace CompilerLog.Json

mutual

/-- The tokens of a value, in order. -/
def tokens : Json → List Token
  | null => [.null]
  | bool value => [.bool value]
  | number text => [.number text.toList]
  | string text => [.string (text.map String.toList)]
  | array [] => [.openArray, .closeArray]
  | array (item :: items) =>
    .openArray :: tokens item ++ itemTokens items ++ [.closeArray]
  | object [] => [.openObject, .closeObject]
  | object ((name, value) :: fields) =>
    .openObject :: .string (name.map String.toList) :: .colon :: tokens value ++
      fieldTokens fields ++ [.closeObject]

/-- The tokens of the items behind the first one. -/
def itemTokens : List Json → List Token
  | [] => []
  | item :: items => .comma :: tokens item ++ itemTokens items

/-- The tokens of the fields behind the first one. -/
def fieldTokens : List (Option String × Json) → List Token
  | [] => []
  | (name, value) :: fields =>
    .comma :: .string (name.map String.toList) :: .colon :: tokens value ++ fieldTokens fields

end

/-- A value that can be written: its numbers are numbers, and its strings are known. -/
inductive Written : Json → Prop
  | null : Written null
  | bool (value : Bool) : Written (bool value)
  | number {text : String} (hword : ∀ c ∈ text.toList, isWordChar c = true)
      (h : Token.ofWord? text.toList = some (.number text.toList)) : Written (number text)
  | string (text : String) : Written (string (some text))
  | array {items : List Json} (h : ∀ item ∈ items, Written item) : Written (array items)
  | object {fields : List (Option String × Json)} (names : ∀ field ∈ fields, field.1.isSome = true)
      (values : ∀ field ∈ fields, Written field.2) : Written (object fields)

/-- The layout puts nothing but white space between the tokens. -/
structure Layout.Neutral (layout : Layout) : Prop where
  breakAt : ∀ level, ∀ c ∈ layout.breakAt level, IsSpace c
  colon : ∃ spaces, layout.colon = ':' :: spaces ∧ ∀ c ∈ spaces, IsSpace c

theorem neutral_indented : indented.Neutral where
  breakAt := by
    intro level c hc
    rcases List.mem_cons.mp hc with rfl | hc
    · exact .inr (.inr (.inl rfl))
    · exact .inl (List.eq_of_mem_replicate hc)
  colon := ⟨[' '], rfl, fun c hc => .inl (List.mem_singleton.mp hc)⟩

theorem first_openArray : Lexer.first '[' = some (.between, [.openArray]) := rfl

theorem first_closeArray : Lexer.first ']' = some (.between, [.closeArray]) := rfl

theorem first_openObject : Lexer.first '\x7b' = some (.between, [.openObject]) := rfl

theorem first_closeObject : Lexer.first '\x7d' = some (.between, [.closeObject]) := rfl

section Write

variable {layout : Layout} {level : Nat}

theorem Layout.Neutral.closed_breakAt (hlayout : layout.Neutral) (level : Nat) :
    Closed (layout.breakAt level) [] :=
  closed_of_spaces (hlayout.breakAt level)

theorem Layout.Neutral.endsWord_breakAt (hlayout : layout.Neutral) (level : Nat) :
    EndsWord (layout.breakAt level) :=
  fun c hc => (hlayout.breakAt level c (List.mem_of_head? hc)).not_isWordChar

theorem Layout.Neutral.closed_colon (hlayout : layout.Neutral) : Closed layout.colon [.colon] := by
  obtain ⟨spaces, hcolon, hspaces⟩ := hlayout.colon
  rw [hcolon]
  exact (closed_of_first (c := ':') rfl).append (closed_of_spaces hspaces)

/-- A name with the colon behind it. -/
theorem closed_name (hlayout : layout.Neutral) {name : Option String} (h : name.isSome = true) :
    Closed (writeText name ++ layout.colon) [.string (name.map String.toList), .colon] := by
  obtain ⟨text, rfl⟩ := Option.isSome_iff_exists.mp h
  exact (closed_writeString text.toList).append hlayout.closed_colon

theorem closed_comma (hlayout : layout.Neutral) : Closed (',' :: layout.breakAt level) [.comma] :=
  (closed_of_first (c := ',') rfl).append (hlayout.closed_breakAt level)

/-- Members between brackets, with a break behind the first bracket and before the last one. -/
theorem Spells.enclosed {text : List Char} {spelled : List Token} (h : Spells text spelled)
    (hlayout : layout.Neutral) (level : Nat) {first last : Char} {firstToken lastToken : Token}
    (hfirst : Lexer.first first = some (.between, [firstToken]))
    (hlast : Lexer.first last = some (.between, [lastToken])) (hends : isWordChar last = false) :
    Spells (first :: layout.breakAt (level + 1) ++ text ++ layout.breakAt level ++ [last])
      (firstToken :: spelled ++ [lastToken]) := by
  have hopen : Closed (first :: layout.breakAt (level + 1)) [firstToken] :=
    (closed_of_first hfirst).append (hlayout.closed_breakAt (level + 1))
  have hclose : Closed (layout.breakAt level ++ [last]) [lastToken] :=
    (hlayout.closed_breakAt level).append (closed_of_first hlast)
  have hbehind : EndsWord (layout.breakAt level ++ [last]) :=
    (hlayout.endsWord_breakAt level).append (endsWord_cons hends)
  rw [List.append_assoc, List.append_assoc]
  exact hopen.append_spells (h.append hclose.spells hbehind)

theorem endsWord_writeItems (items : List Json) : EndsWord (writeItems layout level items) := by
  cases items with
  | nil => exact endsWord_nil
  | cons item items => exact endsWord_cons rfl

theorem endsWord_writeFields (fields : List (Option String × Json)) :
    EndsWord (writeFields layout level fields) := by
  cases fields with
  | nil => exact endsWord_nil
  | cons field fields => exact endsWord_cons rfl

theorem spells_writeItems (hlayout : layout.Neutral) {items : List Json}
    (h : ∀ item ∈ items, Spells (write layout level item) (tokens item)) :
    Spells (writeItems layout level items) (itemTokens items) := by
  induction items with
  | nil => exact closed_nil.spells
  | cons item items ih =>
      have hitems := ih fun item hitem => h item (List.mem_cons_of_mem _ hitem)
      have hitem := (h item List.mem_cons_self).append hitems (endsWord_writeItems items)
      simpa [writeItems, itemTokens] using (closed_comma hlayout).append_spells hitem

theorem spells_writeFields (hlayout : layout.Neutral) {fields : List (Option String × Json)}
    (hnames : ∀ field ∈ fields, field.1.isSome = true)
    (h : ∀ field ∈ fields, Spells (write layout level field.2) (tokens field.2)) :
    Spells (writeFields layout level fields) (fieldTokens fields) := by
  induction fields with
  | nil => exact closed_nil.spells
  | cons field fields ih =>
      obtain ⟨name, value⟩ := field
      have hfields := ih (fun field hfield => hnames field (List.mem_cons_of_mem _ hfield))
        (fun field hfield => h field (List.mem_cons_of_mem _ hfield))
      have hname := closed_name hlayout (hnames (name, value) List.mem_cons_self)
      have hvalue := (h (name, value) List.mem_cons_self).append hfields
        (endsWord_writeFields fields)
      simpa [writeFields, fieldTokens] using
        ((closed_comma hlayout).append hname).append_spells hvalue

/-- A written value is cut into its tokens. -/
theorem spells_write (hlayout : layout.Neutral) {value : Json} (h : Written value) (level : Nat) :
    Spells (write layout level value) (tokens value) := by
  induction h generalizing level with
  | null =>
      have hword : ∀ c ∈ "null".toList, isWordChar c = true := List.all_eq_true.mp rfl
      exact spells_word hword rfl
  | bool value =>
      cases value with
      | false =>
          have hword : ∀ c ∈ "false".toList, isWordChar c = true := List.all_eq_true.mp rfl
          exact spells_word hword rfl
      | true =>
          have hword : ∀ c ∈ "true".toList, isWordChar c = true := List.all_eq_true.mp rfl
          exact spells_word hword rfl
  | number hword h => exact spells_word hword h
  | string text => exact (closed_writeString text.toList).spells
  | @array items _ ih =>
      cases items with
      | nil =>
          exact ((closed_of_first first_openArray).append (closed_of_first first_closeArray)).spells
      | cons item items =>
          have hitem := ih item List.mem_cons_self (level + 1)
          have hitems := spells_writeItems hlayout fun item hitem =>
            ih item (List.mem_cons_of_mem _ hitem) (level + 1)
          have hinner := hitem.append hitems (endsWord_writeItems items)
          simpa [write, tokens] using hinner.enclosed hlayout level first_openArray
            first_closeArray rfl
  | @object fields hnames _ ih =>
      cases fields with
      | nil =>
          exact
            ((closed_of_first first_openObject).append (closed_of_first first_closeObject)).spells
      | cons field fields =>
          obtain ⟨name, value⟩ := field
          have hname := closed_name hlayout (hnames (name, value) List.mem_cons_self)
          have hvalue := ih (name, value) List.mem_cons_self (level + 1)
          have hfields := spells_writeFields hlayout
            (fun field hfield => hnames field (List.mem_cons_of_mem _ hfield))
            fun field hfield => ih field (List.mem_cons_of_mem _ hfield) (level + 1)
          have hinner :=
            hname.append_spells (hvalue.append hfields (endsWord_writeFields fields))
          simpa [write, tokens] using hinner.enclosed hlayout level first_openObject
            first_closeObject rfl

theorem tokens?_write (hlayout : layout.Neutral) {value : Json} (h : Written value) :
    tokens? (write layout 0 value) = some (tokens value) := by
  have hspells := spells_write hlayout h 0 [] [] endsWord_nil
  rw [List.append_nil, List.append_nil] at hspells
  have hdone : tokensAt (.between, (tokens value).reverse) [] = some (tokens value) := by
    simp [tokensAt]
  exact hspells.trans hdone

end Write

end CompilerLog.Json
