import CompilerLog.Json.Printer
import CompilerLog.Json.Token
/-!
# Text that spells tokens

What a piece of JSON text is read as does not depend on what stands around it. A string is closed by
its quote and a bracket by itself, but a word ends only where something else begins, so that what
follows it counts. A written string is read as the string, whatever characters it has.
-/

namespace CompilerLog.Json

variable {text rest : List Char} {spelled found : List Token} {token : Token} {c : Char}

/-- The tokens of a text that is read from a given state on. -/
def tokensAt (state : Lexer × List Token) (text : List Char) : Option (List Token) :=
  (text.foldlM Lexer.advance state).bind fun (state, found) =>
    match state with
    | .between => some found.reverse
    | .word word => (Token.ofWord? word.reverse).map fun token => (token :: found).reverse
    | _ => none

theorem tokensAt_cons (state : Lexer × List Token) :
    tokensAt state (c :: text) = (state.1.step c).bind fun (next, spelled) =>
      tokensAt (next, spelled.reverse ++ state.2) text := by
  rw [tokensAt, List.foldlM_cons, Lexer.advance]
  cases state.1.step c with
  | none => rfl
  | some next => rfl

/-- No word goes on in the text. -/
def EndsWord (text : List Char) : Prop := ∀ c ∈ text.head?, isWordChar c = false

theorem endsWord_nil : EndsWord [] := nofun

theorem endsWord_cons (h : isWordChar c = false) : EndsWord (c :: text) := by
  intro first hfirst
  obtain rfl : c = first := by simpa using hfirst
  exact h

theorem EndsWord.append (h : EndsWord text) (hrest : EndsWord rest) : EndsWord (text ++ rest) := by
  cases text with
  | nil => exact hrest
  | cons c text => exact h

/-- The text is read as the tokens, whatever stands before it and behind it. -/
def Closed (text : List Char) (spelled : List Token) : Prop :=
  ∀ found rest, tokensAt (.between, found) (text ++ rest) =
    tokensAt (.between, spelled.reverse ++ found) rest

/-- The text is read as the tokens, whatever stands before it, if no word goes on behind it. -/
def Spells (text : List Char) (spelled : List Token) : Prop :=
  ∀ found rest, EndsWord rest → tokensAt (.between, found) (text ++ rest) =
    tokensAt (.between, spelled.reverse ++ found) rest

section Joining

variable {front : List Char} {before : List Token}

theorem Closed.spells (h : Closed text spelled) : Spells text spelled :=
  fun found rest _ => h found rest

theorem closed_nil : Closed [] [] := fun _ _ => rfl

theorem Closed.append (hfront : Closed front before) (h : Closed text spelled) :
    Closed (front ++ text) (before ++ spelled) := by
  intro found rest
  rw [List.append_assoc, hfront, h, List.reverse_append, List.append_assoc]

theorem Closed.append_spells (hfront : Closed front before) (h : Spells text spelled) :
    Spells (front ++ text) (before ++ spelled) := by
  intro found rest hrest
  rw [List.append_assoc, hfront, h _ _ hrest, List.reverse_append, List.append_assoc]

theorem Spells.append (hfront : Spells front before) (h : Spells text spelled)
    (hends : EndsWord text) : Spells (front ++ text) (before ++ spelled) := by
  intro found rest hrest
  rw [List.append_assoc, hfront _ _ (hends.append hrest), h _ _ hrest, List.reverse_append,
    List.append_assoc]

end Joining

theorem closed_of_first (h : Lexer.first c = some (.between, spelled)) : Closed [c] spelled := by
  intro found rest
  rw [List.singleton_append, tokensAt_cons, Lexer.step, h]
  rfl

/-- Characters between tokens that are no part of any. -/
def IsSpace (c : Char) : Prop := c = ' ' ∨ c = '\t' ∨ c = '\n' ∨ c = '\r'

theorem IsSpace.not_isWordChar (h : IsSpace c) : isWordChar c = false := by
  rcases h with rfl | rfl | rfl | rfl <;> decide

theorem closed_of_spaces (h : ∀ c ∈ text, IsSpace c) : Closed text [] := by
  induction text with
  | nil => exact closed_nil
  | cons c text ih =>
      have hc : Lexer.first c = some (.between, []) := if_pos (h c List.mem_cons_self)
      exact (closed_of_first hc).append
        (ih fun c hc => h c (List.mem_cons_of_mem _ hc))

section Words

variable {word : List Char}

theorem first_of_isWordChar (h : isWordChar c = true) : Lexer.first c = some (.word [c], []) := by
  have hne (other : Char) (hother : isWordChar other = false) : c ≠ other := by
    rintro rfl
    rw [h] at hother
    cases hother
  have hspace : ¬ (c = ' ' ∨ c = '\t' ∨ c = '\n' ∨ c = '\r') := by
    intro hc
    rw [IsSpace.not_isWordChar hc] at h
    cases h
  rw [Lexer.first, if_neg hspace, if_neg (hne '"' (by decide)), if_neg (hne '\x7b' (by decide)),
    if_neg (hne '\x7d' (by decide)), if_neg (hne '[' (by decide)), if_neg (hne ']' (by decide)),
    if_neg (hne ':' (by decide)), if_neg (hne ',' (by decide)), if_pos h]

theorem tokensAt_word (hword : ∀ c ∈ word, isWordChar c = true) (before : List Char) :
    tokensAt (.word before, found) (word ++ rest) =
      tokensAt (.word (word.reverse ++ before), found) rest := by
  induction word generalizing before with
  | nil => rfl
  | cons c word ih =>
      have hc : Lexer.step (.word before) c = some (.word (c :: before), []) :=
        if_pos (hword c List.mem_cons_self)
      rw [List.cons_append, tokensAt_cons, hc, List.reverse_cons, List.append_assoc]
      exact ih (fun c hc => hword c (List.mem_cons_of_mem _ hc)) (c :: before)

theorem tokensAt_word_end (h : Token.ofWord? word.reverse = some token) (hends : EndsWord rest) :
    tokensAt (.word word, found) rest = tokensAt (.between, token :: found) rest := by
  cases rest with
  | nil => simp [tokensAt, h]
  | cons c rest =>
      have hc : isWordChar c = false := hends c (by simp)
      have hstep : Lexer.step (.word word) c =
          (Lexer.first c).map fun (next, spelled) => (next, token :: spelled) := by
        simp [Lexer.step, hc, h]
      have hbetween : Lexer.step .between c = Lexer.first c := rfl
      rw [tokensAt_cons, tokensAt_cons, hstep, hbetween]
      cases Lexer.first c with
      | none => rfl
      | some next => simp

theorem spells_word (hword : ∀ c ∈ word, isWordChar c = true)
    (h : Token.ofWord? word = some token) : Spells word [token] := by
  intro found rest hrest
  cases word with
  | nil => cases h
  | cons c word =>
      have hc : Lexer.step .between c = some (.word [c], []) :=
        first_of_isWordChar (hword c List.mem_cons_self)
      have hafter : ∀ c ∈ word, isWordChar c = true := fun c hc =>
        hword c (List.mem_cons_of_mem _ hc)
      rw [List.cons_append, tokensAt_cons, hc]
      change tokensAt (.word [c], found) (word ++ rest) = _
      rw [tokensAt_word hafter]
      refine tokensAt_word_end ?_ hrest
      rw [List.reverse_append, List.reverse_reverse]
      exact h

end Words

section Strings

variable {pieces : List Piece}

/-- The characters that have an escape of their own. -/
def named : List Char := ['"', '\\', '\x08', '\x0c', '\n', '\r', '\t']

/-- The piece that a character of a written string is read as. -/
def Piece.ofChar (c : Char) : Piece :=
  if c < ' ' ∧ c ∉ named then .unit c.toNat else .char c

theorem hexValue?_hexDigit {n : Nat} (h : n < 16) : hexValue? (hexDigit n) = some n := by
  decide +revert

theorem tokensAt_named (h : c ∈ named) :
    tokensAt (.quoted pieces, found) (writeChar c ++ rest) =
      tokensAt (.quoted (.char c :: pieces), found) rest := by
  simp only [named, List.mem_cons, List.not_mem_nil, or_false] at h
  rcases h with rfl | rfl | rfl | rfl | rfl | rfl | rfl <;> rfl

theorem writeChar_of_not_named (h : c ∉ named) :
    writeChar c = if c < ' ' then
      ['\\', 'u', '0', '0', hexDigit (c.toNat / 16), hexDigit (c.toNat % 16)] else [c] := by
  simp only [named, List.mem_cons, List.not_mem_nil, or_false, not_or] at h
  simp [writeChar, h]

/-- An escape of four digits, of which the first two are zeros. -/
theorem tokensAt_hex {high low : Nat} (hhigh : high < 16) (hlow : low < 16) :
    tokensAt (.quoted pieces, found) (['\\', 'u', '0', '0', hexDigit high, hexDigit low] ++ rest) =
      tokensAt (.quoted (.unit (high * 16 + low) :: pieces), found) rest := by
  have hzeros : tokensAt (.quoted pieces, found)
      (['\\', 'u', '0', '0', hexDigit high, hexDigit low] ++ rest) =
        tokensAt (.hex pieces 2 0, found) (hexDigit high :: hexDigit low :: rest) := rfl
  have hfirst : Lexer.step (.hex pieces 2 0) (hexDigit high) = some (.hex pieces 1 high, []) := by
    simp [Lexer.step, hexValue?_hexDigit hhigh]
  have hsecond : Lexer.step (.hex pieces 1 high) (hexDigit low) =
      some (.quoted (.unit (high * 16 + low) :: pieces), []) := by
    simp [Lexer.step, hexValue?_hexDigit hlow]
  rw [hzeros, tokensAt_cons, hfirst]
  change tokensAt (.hex pieces 1 high, found) (hexDigit low :: rest) = _
  rw [tokensAt_cons, hsecond]
  rfl

/-- A written character adds one piece to the string that is being read. -/
theorem tokensAt_writeChar (c : Char) :
    tokensAt (.quoted pieces, found) (writeChar c ++ rest) =
      tokensAt (.quoted (Piece.ofChar c :: pieces), found) rest := by
  by_cases hnamed : c ∈ named
  · rw [tokensAt_named hnamed, Piece.ofChar, if_neg fun h => h.2 hnamed]
  · rw [writeChar_of_not_named hnamed]
    by_cases hspace : c < ' '
    · have hc : c.toNat < 32 := hspace
      have hvalue : c.toNat / 16 * 16 + c.toNat % 16 = c.toNat := by omega
      rw [if_pos hspace, tokensAt_hex (by omega) (by omega), hvalue, Piece.ofChar,
        if_pos ⟨hspace, hnamed⟩]
    · have hquote : c ≠ '"' := by
        rintro rfl
        exact hnamed (by decide)
      have hslash : c ≠ '\\' := by
        rintro rfl
        exact hnamed (by decide)
      have hstep : Lexer.step (.quoted pieces) c = some (.quoted (.char c :: pieces), []) := by
        simp [Lexer.step, hquote, hslash, hspace]
      rw [if_neg hspace, List.singleton_append, tokensAt_cons, hstep, Piece.ofChar,
        if_neg fun h => hspace h.1]
      rfl

theorem spell_unit {n : Nat} (h : n < 0xD800) (pieces : List Piece) :
    Piece.spell (.unit n :: pieces) = (Piece.spell pieces).map (Char.ofNat n :: ·) := by
  have hhigh : ¬ (0xD800 ≤ n ∧ n < 0xDC00) := by omega
  have hlow : ¬ (0xDC00 ≤ n ∧ n < 0xE000) := by omega
  have hhalf : ¬ (0xD800 ≤ n ∧ n < 0xE000) := by omega
  cases pieces with
  | nil => simp [Piece.spell, hhalf]
  | cons piece pieces =>
      cases piece with
      | char c => simp [Piece.spell, hhalf]
      | unit m => rw [Piece.spell, if_neg hhigh, if_neg hlow]

theorem spell_map_ofChar (text : List Char) : Piece.spell (text.map Piece.ofChar) = some text := by
  induction text with
  | nil => rfl
  | cons c text ih =>
      rw [List.map_cons, Piece.ofChar]
      split
      · next h =>
          have hc : c.toNat < 32 := h.1
          rw [spell_unit (by omega), ih, Char.ofNat_toNat]
          rfl
      · rw [Piece.spell, ih]
        rfl

theorem closed_writeString (text : List Char) :
    Closed (writeString text) [.string (some text)] := by
  have hchars (text rest : List Char) (pieces : List Piece) (found : List Token) :
      tokensAt (.quoted pieces, found) (text.flatMap writeChar ++ rest) =
        tokensAt (.quoted ((text.map Piece.ofChar).reverse ++ pieces), found) rest := by
    induction text generalizing pieces with
    | nil => rfl
    | cons c text ih =>
        rw [List.flatMap_cons, List.append_assoc, tokensAt_writeChar, ih, List.map_cons,
          List.reverse_cons, List.append_assoc, List.singleton_append]
  intro found rest
  have hopen : tokensAt (.between, found) (writeString text ++ rest) =
      tokensAt (.quoted [], found) (text.flatMap writeChar ++ '"' :: rest) := by
    rw [writeString, List.cons_append, List.cons_append, List.append_assoc]
    rfl
  have hclose (pieces : List Piece) : tokensAt (.quoted pieces, found) ('"' :: rest) =
      tokensAt (.between, .string (Piece.spell pieces.reverse) :: found) rest := rfl
  rw [hopen, hchars, hclose, List.append_nil, List.reverse_reverse, spell_map_ofChar]
  rfl

end Strings

end CompilerLog.Json
