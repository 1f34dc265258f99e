import CompilerLog.Proofs.Shell.Quoting
import Mathlib.Data.List.Basic
/-!
# Lines that end inside a quote

Such a line has a last opening quote, which it is cut at. What stands in front of that quote is read
as in any line, and what stands behind it is part of one word. The line is read so where a closing
behind it helps. None helps behind a backslash that is left over between double quotes, and the line
is cut at its blanks.
-/

namespace CompilerLog

theorem Text.ne_nil_of_mem_runs (separates : Char → Bool) (text : List Char) :
    ∀ run ∈ runs separates text, run ≠ [] := by
  induction text with
  | nil => simp [runs]
  | cons c rest ih =>
      unfold runs
      split
      · exact ih
      · split
        · rename_i hruns
          rw [hruns] at ih
          split
          · exact List.forall_mem_cons.mpr ⟨List.cons_ne_nil _ _, ih⟩
          · exact List.forall_mem_cons.mpr ⟨List.cons_ne_nil _ _, (List.forall_mem_cons.mp ih).2⟩
        · exact List.forall_mem_cons.mpr ⟨List.cons_ne_nil _ _, ih⟩

namespace Shell

/-- The kinds of quotes. -/
inductive Quote where
  | single
  | double
  deriving DecidableEq, Repr

/-- What a backslash with a character behind it stands for between double quotes. -/
def escaped (c : Char) : List Char :=
  if c = '\n' then [] else if Reading.escapable c then [c] else ['\\', c]

/-- What text behind a double quote stands for, to its end, where a backslash left over stands for
itself. None when the quote is closed. -/
def openDouble? : List Char → Option (List Char)
  | [] => some []
  | '"' :: _ => none
  | '\\' :: rest =>
    match rest with
    | [] => some ['\\']
    | c :: rest => (openDouble? rest).map (escaped c ++ ·)
  | c :: rest => (openDouble? rest).map (c :: ·)

/-- Whether a backslash is left over at the end. -/
def endsInBackslash : List Char → Bool
  | [] => false
  | '\\' :: rest =>
    match rest with
    | [] => true
    | _ :: rest => endsInBackslash rest
  | _ :: rest => endsInBackslash rest

section

variable {c : Char} {rest : List Char}

theorem openDouble?_cons (hquote : c ≠ '"') (hescape : c ≠ '\\') :
    openDouble? (c :: rest) = (openDouble? rest).map (c :: ·) := by
  rw [openDouble?]
  · exact hquote
  · exact hescape

theorem endsInBackslash_cons (hescape : c ≠ '\\') :
    endsInBackslash (c :: rest) = endsInBackslash rest := by
  rw [endsInBackslash]
  exact hescape

end

namespace Quote

def mark : Quote → Char
  | single => '\''
  | double => '"'

def mode : Quote → Mode
  | single => .single
  | double => .double

/-- What text behind an opening quote stands for, to its end. None when the quote is closed. -/
def open? : Quote → List Char → Option (List Char)
  | single, text => if '\'' ∈ text then none else some text
  | double, text => openDouble? text

/-- Whether the text behind an opening quote ends with a backslash that has nothing to escape. -/
def dangles : Quote → List Char → Bool
  | single, _ => false
  | double, text => endsInBackslash text

end Quote

/-- A line that ends inside a quote, cut at the quote that opens last. -/
structure Unclosed (line : List Char) where
  front : List Char
  quote : Quote
  rest : List Char
  /-- What the rest stands for. -/
  text : List Char
  line_eq : line = front ++ quote.mark :: rest
  outside : (Reading.start.run front).mode = .between ∨ (Reading.start.run front).mode = .bare
  open?_rest : quote.open? rest = some text

namespace Unclosed

variable {line : List Char}

/-- What is known in front of the quote. -/
def before (u : Unclosed line) : Reading := Reading.start.run u.front

/-- The words in front of the one with the quote, and this one with all that is behind the quote. -/
def words (u : Unclosed line) : List (List Char) :=
  u.before.words ++ [u.before.word ++ u.text]

def dangles (u : Unclosed line) : Bool := u.quote.dangles u.rest

end Unclosed

namespace Reading

variable {words : List (List Char)} {word : List Char}

theorem run_escape (c : Char) :
    (⟨.double, words, word⟩ : Reading).run ['\\', c] = ⟨.double, words, word ++ escaped c⟩ := by
  have hescape : (⟨.double, words, word⟩ : Reading).step '\\' = ⟨.doubleEscape, words, word⟩ := rfl
  rw [run_cons, hescape, run_cons, run_nil, escaped]
  by_cases hline : c = '\n'
  · simp [step, hline, turn]
  · by_cases hc : escapable c = true
    · simp [step, hline, hc, add]
    · simp [step, hline, hc, add]

theorem step_double {c : Char} (hquote : c ≠ '"') (hescape : c ≠ '\\') :
    (⟨.double, words, word⟩ : Reading).step c = ⟨.double, words, word ++ [c]⟩ := by
  simp [step, hquote, hescape, add]

/-- What an open quote leaves behind when the line ends: the word with the text of the quote, but
for a backslash that is left over. -/
theorem run_double (words : List (List Char)) (word : List Char) {text inner : List Char}
    (h : openDouble? text = some inner) :
    (endsInBackslash text = false →
      (⟨.double, words, word⟩ : Reading).run text = ⟨.double, words, word ++ inner⟩) ∧
    (endsInBackslash text = true → ∃ before, inner = before ++ ['\\'] ∧
      (⟨.double, words, word⟩ : Reading).run text = ⟨.doubleEscape, words, word ++ before⟩) := by
  induction text using openDouble?.induct generalizing word inner with
  | case1 =>
      cases h
      simp [endsInBackslash]
  | case2 rest => cases h
  | case3 =>
      cases h
      refine ⟨nofun, fun _ => ⟨[], rfl, ?_⟩⟩
      rw [List.append_nil]
      rfl
  | case4 c rest ih =>
      obtain ⟨more, hmore, rfl⟩ := Option.map_eq_some_iff.mp h
      obtain ⟨hends, hdangles⟩ := ih (word ++ escaped c) hmore
      rw [endsInBackslash, show '\\' :: c :: rest = ['\\', c] ++ rest from rfl, run_append,
        run_escape]
      refine ⟨fun hrest => by rw [hends hrest, List.append_assoc], fun hrest => ?_⟩
      obtain ⟨before, rfl, hrun⟩ := hdangles hrest
      exact ⟨escaped c ++ before, (List.append_assoc ..).symm, by rw [hrun, List.append_assoc]⟩
  | case5 c rest hquote hescape ih =>
      rw [openDouble?_cons hquote hescape] at h
      obtain ⟨more, hmore, rfl⟩ := Option.map_eq_some_iff.mp h
      obtain ⟨hends, hdangles⟩ := ih (word ++ [c]) hmore
      rw [endsInBackslash_cons hescape, run_cons, step_double hquote hescape]
      refine ⟨fun hrest => by rw [hends hrest, List.append_assoc]; rfl, fun hrest => ?_⟩
      obtain ⟨before, rfl, hrun⟩ := hdangles hrest
      exact ⟨c :: before, rfl, by rw [hrun, List.append_assoc]; rfl⟩

theorem run_single {text : List Char} (h : '\'' ∉ text) :
    (⟨.single, words, word⟩ : Reading).run text = ⟨.single, words, word ++ text⟩ := by
  induction text generalizing word with
  | nil => simp
  | cons c text ih =>
      obtain ⟨hc, htext⟩ := not_or.mp (List.mem_cons.not.mp h)
      have hstep : (⟨.single, words, word⟩ : Reading).step c = ⟨.single, words, word ++ [c]⟩ :=
        if_neg (Ne.symm hc)
      rw [run_cons, hstep, ih htext, ← List.append_cons]

/-- Text behind an opening quote, read to its end. -/
theorem run_open (words : List (List Char)) (word : List Char) {q : Quote}
    {text inner : List Char} (h : q.open? text = some inner) :
    (q.dangles text = false →
      (⟨q.mode, words, word⟩ : Reading).run text = ⟨q.mode, words, word ++ inner⟩) ∧
    (q.dangles text = true → q = .double ∧ ∃ before, inner = before ++ ['\\'] ∧
      (⟨q.mode, words, word⟩ : Reading).run text = ⟨.doubleEscape, words, word ++ before⟩) := by
  cases q with
  | single =>
      obtain ⟨hquote, rfl⟩ : '\'' ∉ text ∧ text = inner := by simpa [Quote.open?] using h
      exact ⟨fun _ => run_single hquote, nofun⟩
  | double =>
      obtain ⟨hends, hdangles⟩ := run_double words word h
      exact ⟨hends, fun hrest => ⟨rfl, hdangles hrest⟩⟩

end Reading

/-- Text with a quote that closes falls into what stands in front of the first such quote, and the
rest. -/
theorem Quote.exists_of_open?_eq_none {q : Quote} {text : List Char} (h : q.open? text = none) :
    ∃ front rest inner, text = front ++ q.mark :: rest ∧ q.open? front = some inner ∧
      q.dangles front = false := by
  cases q with
  | single =>
      have hmem : '\'' ∈ text := by simpa [open?] using h
      obtain ⟨front, rest, htext, hfront⟩ := List.eq_append_cons_of_mem hmem
      exact ⟨front, rest, front, htext, by simp [open?, hfront], rfl⟩
  | double =>
      change openDouble? text = none at h
      induction text using openDouble?.induct with
      | case1 => cases h
      | case2 rest => exact ⟨[], rest, [], rfl, rfl, rfl⟩
      | case3 => cases h
      | case4 c rest ih =>
          obtain ⟨front, more, inner, rfl, hfront, hends⟩ := ih (Option.map_eq_none_iff.mp h)
          exact ⟨'\\' :: c :: front, more, escaped c ++ inner, rfl,
            congrArg (Option.map (escaped c ++ ·)) hfront, hends⟩
      | case5 c rest hquote hescape ih =>
          rw [openDouble?_cons hquote hescape] at h
          obtain ⟨front, more, inner, rfl, hfront, hends⟩ := ih (Option.map_eq_none_iff.mp h)
          refine ⟨c :: front, more, c :: inner, rfl, ?_, ?_⟩
          · exact (openDouble?_cons hquote hescape).trans (congrArg (Option.map (c :: ·)) hfront)
          · exact (endsInBackslash_cons hescape).trans hends

/-- Whether the reader stands inside a quote. -/
def Mode.isQuoted : Mode → Bool
  | .single | .double | .doubleEscape => true
  | _ => false

namespace Reading

theorem finish?_eq_none_iff (r : Reading) : r.finish? = none ↔ r.mode.isQuoted = true := by
  obtain ⟨mode, words, word⟩ := r
  cases mode <;> simp [finish?, Mode.isQuoted]

/-- Outside quotes one character leads into quotes only if it is a quote that nothing escapes. -/
theorem exists_mark_of_isQuoted_step {r : Reading} {c : Char} (h : r.mode.isQuoted = false)
    (hstep : (r.step c).mode.isQuoted = true) :
    (r.mode = .between ∨ r.mode = .bare) ∧ ∃ q : Quote, c = q.mark := by
  obtain ⟨mode, words, word⟩ := r
  have hopen (hmode : mode = .between ∨ mode = .bare) : ∃ q : Quote, c = q.mark := by
    by_cases hsingle : c = '\''
    · exact ⟨.single, hsingle⟩
    by_cases hdouble : c = '"'
    · exact ⟨.double, hdouble⟩
    exfalso
    rcases hmode with rfl | rfl
    · simp only [step, hsingle, hdouble, if_false] at hstep
      split at hstep
      · cases hstep
      split at hstep
      · cases hstep
      split at hstep <;> cases hstep
    · simp only [step, hsingle, hdouble, if_false] at hstep
      split at hstep
      · cases hstep
      split at hstep <;> cases hstep
  cases mode with
  | between => exact ⟨.inl rfl, hopen (.inl rfl)⟩
  | bare => exact ⟨.inr rfl, hopen (.inr rfl)⟩
  | betweenEscape | bareEscape | comment =>
      simp only [step] at hstep
      split at hstep <;> cases hstep
  | single | double | doubleEscape => cases h

theorem step_mark {r : Reading} (h : r.mode = .between ∨ r.mode = .bare) (q : Quote) :
    r.step q.mark = ⟨q.mode, r.words, r.word⟩ := by
  obtain ⟨mode, words, word⟩ := r
  rcases h with rfl | rfl <;> cases q <;> rfl

theorem step_mark_of_open (q : Quote) (words : List (List Char)) (word : List Char) :
    (⟨q.mode, words, word⟩ : Reading).step q.mark = ⟨.bare, words, word⟩ := by
  cases q <;> rfl

/-- A quote that closes adds what is quoted to the word. -/
theorem run_quoted {r : Reading} {q : Quote} {text inner : List Char}
    (h : r.mode = .between ∨ r.mode = .bare) (htext : q.open? text = some inner)
    (hends : q.dangles text = false) :
    r.run (q.mark :: (text ++ [q.mark])) = ⟨.bare, r.words, r.word ++ inner⟩ := by
  rw [run_cons, step_mark h, run_append, (run_open _ _ htext).1 hends]
  exact step_mark_of_open ..

end Reading

theorem split?_append (line closing : List Char) :
    split? (line ++ closing) = ((Reading.start.run line).run closing).finish? := by
  rw [split?, Reading.run_append]

theorem split?_eq_none_iff (line : List Char) :
    split? line = none ↔ (Reading.start.run line).mode.isQuoted = true :=
  Reading.finish?_eq_none_iff _

/-- Reading on behind text that ends outside quotes: where the line ends inside a quote there is a
quote that opens last. -/
theorem nonempty_unclosed_of_isQuoted (front rest : List Char)
    (hfront : (Reading.start.run front).mode.isQuoted = false)
    (h : (Reading.start.run (front ++ rest)).mode.isQuoted = true) :
    Nonempty (Unclosed (front ++ rest)) := by
  induction hlength : rest.length using Nat.strongRecOn generalizing front rest with
  | ind n ih =>
      cases rest with
      | nil =>
          rw [List.append_nil, hfront] at h
          cases h
      | cons c rest =>
          have hstep : Reading.start.run (front ++ [c]) = (Reading.start.run front).step c := by
            rw [Reading.run_append, Reading.run_cons, Reading.run_nil]
          have hcons : front ++ c :: rest = (front ++ [c]) ++ rest := List.append_cons ..
          cases hc : ((Reading.start.run front).step c).mode.isQuoted with
          | false =>
              rw [hcons] at h ⊢
              exact ih rest.length (by simp [← hlength]) _ _ (by rw [hstep, hc]) h rfl
          | true =>
              obtain ⟨houtside, q, rfl⟩ := Reading.exists_mark_of_isQuoted_step hfront hc
              cases hopen : q.open? rest with
              | some inner => exact ⟨⟨front, q, rest, inner, rfl, houtside, hopen⟩⟩
              | none =>
                  -- The quote closes, so that the reader is outside again behind it.
                  obtain ⟨body, more, inner, rfl, hbody, hends⟩ :=
                    Quote.exists_of_open?_eq_none hopen
                  have hclosed : (Reading.start.run
                      (front ++ q.mark :: (body ++ [q.mark]))).mode.isQuoted = false := by
                    rw [Reading.run_append, Reading.run_quoted houtside hbody hends]
                    rfl
                  have happend : front ++ q.mark :: (body ++ q.mark :: more) =
                      (front ++ q.mark :: (body ++ [q.mark])) ++ more := by simp
                  have hless : more.length < n := by
                    simp only [← hlength, List.length_cons, List.length_append]
                    omega
                  rw [happend] at h ⊢
                  exact ih more.length hless _ _ hclosed h rfl

namespace Unclosed

variable {line : List Char}

/-- What is known when the line ends: the words, where a backslash left over is still to come. -/
theorem run_line (u : Unclosed line) :
    (u.dangles = false → Reading.start.run line =
      ⟨u.quote.mode, u.before.words, u.before.word ++ u.text⟩) ∧
    (u.dangles = true → ∃ text, u.text = text ++ ['\\'] ∧
      Reading.start.run line = ⟨.doubleEscape, u.before.words, u.before.word ++ text⟩) := by
  have hline : Reading.start.run line =
      (⟨u.quote.mode, u.before.words, u.before.word⟩ : Reading).run u.rest := by
    have hcut := congrArg Reading.start.run u.line_eq
    rwa [Reading.run_append, Reading.run_cons, Reading.step_mark u.outside] at hcut
  obtain ⟨hends, hdangles⟩ := Reading.run_open u.before.words u.before.word u.open?_rest
  rw [hline]
  exact ⟨hends, fun h => (hdangles h).2⟩

theorem split?_eq_none (u : Unclosed line) : split? line = none := by
  rw [split?_eq_none_iff]
  cases h : u.dangles with
  | false =>
      rw [u.run_line.1 h]
      cases u.quote <;> rfl
  | true =>
      obtain ⟨_, _, hrun⟩ := u.run_line.2 h
      rw [hrun]
      rfl

/-- One of the closings is the quote that opens last. -/
theorem split?_mark (u : Unclosed line) (h : u.dangles = false) :
    split? (line ++ [u.quote.mark]) = some u.words := by
  rw [split?_append, u.run_line.1 h, Reading.run_cons, Reading.step_mark_of_open]
  rfl

theorem splitClosed_eq (u : Unclosed line) (h : u.dangles = false) :
    splitClosed line = u.words := by
  have hmark := u.split?_mark h
  have hrun := u.run_line.1 h
  cases hquote : u.quote with
  | double =>
      rw [hquote] at hmark
      change split? (line ++ ['"']) = some u.words at hmark
      simp [splitClosed, closings, hmark]
  | single =>
      rw [hquote] at hmark hrun
      change split? (line ++ ['\'']) = some u.words at hmark
      have hother : split? (line ++ ['"']) = none := by
        rw [split?_append, hrun]
        rfl
      simp [splitClosed, closings, hmark, hother]

/-- Behind a backslash that is left over a closing is taken for what the backslash escapes, and the
longest one opens a quote of its own. -/
theorem split?_of_dangles (u : Unclosed line) (h : u.dangles = true) :
    (∀ closing ∈ closings, split? (line ++ closing) = none) ∧
      split? (line ++ ['\\', '"']) = some u.words := by
  obtain ⟨text, htext, hrun⟩ := u.run_line.2 h
  constructor
  · intro closing hclosing
    rw [split?_append, hrun]
    simp only [closings, List.mem_cons, List.not_mem_nil, or_false] at hclosing
    rcases hclosing with rfl | rfl | rfl <;> rfl
  · rw [split?_append, hrun, words, htext, ← List.append_assoc]
    rfl

theorem splitClosed_of_dangles (u : Unclosed line) (h : u.dangles = true) :
    splitClosed line = Text.runs Text.isBlank line := by
  have hnone := (u.split?_of_dangles h).1
  rw [splitClosed, List.findSome?_eq_none_iff.mpr hnone]
  rfl

end Unclosed

theorem value_tokenize_of_unclosed {line : String} (h : split? line.toList = none) :
    (tokenize line).value =
      ((splitClosed line.toList).filter (· ≠ [])).map String.ofList := by
  simp [tokenize, h]

/-- A line that is not split ends inside a quote. It is read as if this quote were closed at its
end: the words in front, and then one word with all that is behind the quote. Only where a backslash
is left over between double quotes no closing helps and the line is cut at its blanks, quotes and
all, though a backslash and a quote would close it. -/
theorem unclosed_quote_closes_unless_backslash_dangles (line : String) :
    (split? line.toList = none ↔ Nonempty (Unclosed line.toList)) ∧
    ∀ u : Unclosed line.toList,
      (u.dangles = false →
        (∃ closing ∈ closings, split? (line.toList ++ closing) = some u.words) ∧
        (tokenize line).value = (u.words.filter (· ≠ [])).map String.ofList) ∧
      (u.dangles = true →
        (∀ closing ∈ closings, split? (line.toList ++ closing) = none) ∧
        split? (line.toList ++ ['\\', '"']) = some u.words ∧
        (tokenize line).value = (Text.runs Text.isBlank line.toList).map String.ofList) := by
  refine ⟨⟨fun h => ?_, fun ⟨u⟩ => u.split?_eq_none⟩, fun u => ⟨fun h => ?_, fun h => ?_⟩⟩
  · exact nonempty_unclosed_of_isQuoted [] line.toList rfl ((split?_eq_none_iff _).mp h)
  · refine ⟨⟨[u.quote.mark], ?_, u.split?_mark h⟩, ?_⟩
    · cases u.quote <;> decide
    · rw [value_tokenize_of_unclosed u.split?_eq_none, u.splitClosed_eq h]
  · obtain ⟨hnone, hclosed⟩ := u.split?_of_dangles h
    have hruns : (Text.runs Text.isBlank line.toList).filter (· ≠ []) =
        Text.runs Text.isBlank line.toList :=
      List.filter_eq_self.mpr fun run hrun => by
        simpa using Text.ne_nil_of_mem_runs _ _ run hrun
    refine ⟨hnone, hclosed, ?_⟩
    rw [value_tokenize_of_unclosed u.split?_eq_none, u.splitClosed_of_dangles h, hruns]

/-- A line that ends inside double quotes, and is read as if they were closed. -/
theorem unclosed_quote_closes_unless_backslash_dangles_of_blank :
    ∃ u : Unclosed "g++ -c \"main file.cpp".toList, u.dangles = false ∧
      (tokenize "g++ -c \"main file.cpp").value = ["g++", "-c", "main file.cpp"] := by
  let u : Unclosed "g++ -c \"main file.cpp".toList :=
    ⟨"g++ -c ".toList, .double, "main file.cpp".toList, "main file.cpp".toList, by decide,
      by decide, by decide⟩
  have hends : u.dangles = false := by decide
  obtain ⟨_, hread⟩ := ((unclosed_quote_closes_unless_backslash_dangles _).2 u).1 hends
  exact ⟨u, hends, hread.trans (by decide)⟩

/-- The same with a backslash at the end: no closing helps, and what is between the quotes is cut at
its blank. -/
theorem quoted_text_is_cut_where_backslash_dangles :
    ∃ u : Unclosed "a \"b c\\".toList, u.words.map String.ofList = ["a", "b c\\"] ∧
      (∀ closing ∈ closings, split? ("a \"b c\\".toList ++ closing) = none) ∧
      (tokenize "a \"b c\\").value = ["a", "\"b", "c\\"] :=
  ⟨⟨['a', ' '], .double, ['b', ' ', 'c', '\\'], ['b', ' ', 'c', '\\'], by decide, by decide,
    by decide⟩, by decide, by decide, by decide⟩

end Shell

end CompilerLog
