import CompilerLog.Proofs.Gcc.Expansion
import CompilerLog.Proofs.Shell.Quoting
/-!
# Arguments behind two layers of quotes

An argument may stand in a line within single quotes, and within these once more between double
quotes, its own double quotes escaped. The shell takes off the outer layer and `unwrap` the inner
one, so that a line written so is read as the arguments it was written from.
-/

namespace CompilerLog.Gcc

/-- Puts a backslash in front of every double quote. -/
def escapeQuotes (text : List Char) : List Char :=
  text.flatMap fun c => if c = '"' then ['\\', '"'] else [c]

/-- Text between double quotes, those in it escaped. -/
def wrap (text : List Char) : List Char := '"' :: (escapeQuotes text ++ ['"'])

/-- Text between double quotes, not empty, which `unwrap` would take for a wrapped argument. -/
def Enclosed (text : List Char) : Prop := ∃ inner, inner ≠ [] ∧ text = '"' :: (inner ++ ['"'])

/-- An argument as it is written into a line: wrapped or, unless it would be unwrapped, as it is,
with a gap behind it. -/
structure Written where
  argument : String
  wrapped : Bool
  gap : Shell.Gap
  argument_ne_empty : argument ≠ ""
  wrapped_of_enclosed : Enclosed argument.toList → wrapped = true

namespace Written

/-- The word that the shell is to find. -/
def word (w : Written) : List Char :=
  if w.wrapped then wrap w.argument.toList else w.argument.toList

/-- The line of the words, in single quotes. -/
def line (written : List Written) : String :=
  String.ofList (Shell.joinQuoted (written.map fun w => (w.word, w.gap)))

end Written

theorem escapeQuotes_ne_cons_quote (text rest : List Char) : escapeQuotes text ≠ '"' :: rest := by
  cases text with
  | nil => nofun
  | cons c text =>
      by_cases hc : c = '"'
      · simp [escapeQuotes, hc]
      · simp [escapeQuotes, hc]

theorem unescapeQuotes_cons {c : Char} {text : List Char}
    (h : ∀ rest, c = '\\' → text ≠ '"' :: rest) :
    unescapeQuotes (c :: text) = c :: unescapeQuotes text := by
  rw [unescapeQuotes]
  rintro rest hc rfl
  exact h rest hc rfl

/-- A backslash of the text itself is never taken for one that was put in: what is written behind
it does not begin with a double quote. -/
theorem unescapeQuotes_escapeQuotes (text : List Char) :
    unescapeQuotes (escapeQuotes text) = text := by
  induction text with
  | nil => rfl
  | cons c text ih =>
      have hcons : escapeQuotes (c :: text) =
          (if c = '"' then ['\\', '"'] else [c]) ++ escapeQuotes text := List.flatMap_cons
      rw [hcons]
      by_cases hc : c = '"'
      · rw [if_pos hc, hc]
        exact congrArg _ ih
      · rw [if_neg hc, List.singleton_append,
          unescapeQuotes_cons fun rest _ => escapeQuotes_ne_cons_quote text rest, ih]

theorem escapeQuotes_ne_nil {text : List Char} (h : text ≠ []) : escapeQuotes text ≠ [] := by
  intro hescaped
  rw [← unescapeQuotes_escapeQuotes text, hescaped] at h
  exact h rfl

theorem unwrap_wrap {argument : String} (h : argument ≠ "") :
    unwrap (String.ofList (wrap argument.toList)) = argument := by
  have hinner : escapeQuotes argument.toList ≠ [] :=
    escapeQuotes_ne_nil (String.toList_eq_nil_iff.not.mpr h)
  simp [unwrap, wrap, hinner, unescapeQuotes_escapeQuotes]

theorem unwrap_of_not_enclosed {argument : String} (h : ¬Enclosed argument.toList) :
    unwrap argument = argument := by
  unfold unwrap
  split
  · rename_i rest htext
    split
    · rename_i inner hrest
      refine if_pos ?_
      by_contra hinner
      have hclosed : rest = inner.reverse ++ ['"'] := by
        rw [← List.reverse_cons, ← hrest, List.reverse_reverse]
      exact h ⟨inner.reverse, by simpa using hinner, by rw [htext, hclosed]⟩
    · rfl
  · rfl

namespace Written

theorem unwrap_word (w : Written) : unwrap (String.ofList w.word) = w.argument := by
  rw [word]
  cases hwrapped : w.wrapped with
  | true => exact unwrap_wrap w.argument_ne_empty
  | false =>
      have hplain : ¬Enclosed w.argument.toList := fun h => by
        simp [w.wrapped_of_enclosed h] at hwrapped
      rw [if_neg (by decide), String.ofList_toList]
      exact unwrap_of_not_enclosed hplain

theorem word_ne_nil (w : Written) : w.word ≠ [] := by
  rw [word]
  split
  · exact List.cons_ne_nil _ _
  · exact String.toList_eq_nil_iff.not.mpr w.argument_ne_empty

/-- The arguments of a line are those that it was written from. -/
theorem argumentsOf_line (written : List Written) :
    argumentsOf (line written) = written.map argument := by
  have hsplit : Shell.split? (line written).toList = some (written.map word) := by
    rw [line, String.toList_ofList, Shell.split?_joinQuoted, List.map_map]
    rfl
  have hwords : (written.map word).filter (· ≠ []) = written.map word := by
    refine List.filter_eq_self.mpr fun chars hchars => ?_
    obtain ⟨w, _, rfl⟩ := List.mem_map.mp hchars
    simpa using w.word_ne_nil
  rw [argumentsOf, Shell.value_tokenize_of_split? hsplit, hwords, List.map_map, List.map_map]
  exact List.map_congr_left fun w _ => w.unwrap_word

end Written

theorem ofText_define {value : String} (hempty : value ≠ "") (hline : '\n' ∉ value.toList) :
    Argument.ofText ("-D" ++ value) = .define value := by
  have hchars : ("-D" ++ value).toList = '-' :: 'D' :: value.toList := by
    rw [String.toList_append]
    rfl
  have hflag : Argument.flagValue? 'D' ("-D" ++ value).toList = some value := by
    have hne : value.toList ≠ [] := String.toList_eq_nil_iff.not.mpr hempty
    simp [hchars, Argument.flagValue?, Argument.oneLine, hne, hline]
  rw [Argument.ofText, hflag]

/-- No definition waits for a path, so that each is a part of its own. -/
theorem parts_defines {values : List String} (h : ∀ v ∈ values, v ≠ "" ∧ '\n' ∉ v.toList) :
    parts (values.map ("-D" ++ ·)) = values.map .define := by
  have hsingle {v : String} (hv : v ≠ "" ∧ '\n' ∉ v.toList) :
      Part.single ("-D" ++ v) = .define v := by
    rw [Part.single, ofText_define hv.1 hv.2]
  have hpair {v : String} (hv : v ≠ "" ∧ '\n' ∉ v.toList) (next : String) :
      Part.pair? ("-D" ++ v) next = none := by
    simp [Part.pair?, Part.pathless?, ofText_define hv.1 hv.2]
  induction values with
  | nil => rfl
  | cons v values ih =>
      obtain ⟨hv, hvalues⟩ := List.forall_mem_cons.mp h
      specialize ih hvalues
      cases values with
      | nil => simp [parts, hsingle hv]
      | cons next rest =>
          rw [List.map_cons, List.map_cons] at ih ⊢
          simp only [parts, hpair hv, hsingle hv]
          rw [ih]
          rfl

theorem returns_defines (reader : AdaptiveReader) (values : List String) (found : Invocation)
    (s : Expansion) : Returns reader (.line (values.map .define) found) s 0
      (.ok { found with defines := found.defines ++ values }) s := by
  induction values generalizing found with
  | nil =>
      rw [List.append_nil]
      exact .finished
  | cons v values ih =>
      have hadd : Part.add s.directories found (.define v) =
          { found with defines := found.defines ++ [v] } := by simp [Part.add]
      have hrest := ih { found with defines := found.defines ++ [v] }
      rw [← hadd] at hrest
      simpa [Part.add] using Returns.part (p := .define v) rfl hrest

/-- Arguments come through both layers of quotes unchanged. A line that they are written into is
read as the parts of these arguments and of nothing else, with the same result or error and the same
directory options, whichever of them are wrapped. In particular definitions define the values that
they were written with. -/
theorem quoted_arguments_are_read_back (reader : TextReader) (d : DirectoryOptions)
    (written : List Written) :
    let arguments := written.map Written.argument
    let reading := (readLine reader d (Written.line written)).value
    argumentsOf (Written.line written) = arguments ∧
    (∃ levels outcome t,
      Returns (fun _ => reader) (.line (parts arguments) .empty) (.start d) levels outcome t ∧
      (∀ levels' outcome' t',
        Returns (fun _ => reader) (.line (parts arguments) .empty) (.start d) levels' outcome' t' →
          levels' = levels ∧ outcome' = outcome ∧ t' = t) ∧
      reading = ⟨outcome.map fun found => { found with standard := standardOf found.options },
        t.directories⟩) ∧
    ∀ values : List String, (∀ v ∈ values, v ≠ "" ∧ '\n' ∉ v.toList) →
      arguments = values.map ("-D" ++ ·) →
      reading = ⟨.ok { Invocation.empty with defines := values }, d⟩ := by
  intro arguments reading
  have harguments : argumentsOf (Written.line written) = arguments :=
    Written.argumentsOf_line written
  refine ⟨harguments, ?_, fun values hvalues hdefines => ?_⟩
  · obtain ⟨levels, outcome, t, h, hvalue⟩ :=
      exists_returns_readLine reader d (Written.line written)
    rw [harguments] at h
    exact ⟨levels, outcome, t, h, fun _ _ _ h' => h.unique h', hvalue⟩
  · have h := returns_defines (fun _ => reader) values .empty (.start d)
    rw [← parts_defines hvalues, ← hdefines, ← harguments] at h
    exact readLine_of_returns h

/-- A definition with quotes of both kinds, a blank and a hash, wrapped, in front of one that ends
with a backslash and is not. -/
theorem quoted_arguments_are_read_back_of_two_defines :
    let reader : TextReader := fun _ => .error (.ofSystem .notFound)
    let gap : Shell.Gap := ⟨[' ', '\n'], by decide, by simp⟩
    let values : List String := ["A=\"it's\" #1", "B=\\"]
    let written : List Written :=
      [⟨"-DA=\"it's\" #1", true, gap, by decide, fun _ => rfl⟩,
        ⟨"-DB=\\", false, gap, by decide, fun ⟨_, _, h⟩ => by cases h⟩]
    Written.line written = "'\"-DA=\\\"it'\\''s\\\" #1\"' \n'-DB=\\'" ∧
      (∀ v ∈ values, v ≠ "" ∧ '\n' ∉ v.toList) ∧
      written.map Written.argument = values.map ("-D" ++ ·) ∧
      (readLine reader .empty (Written.line written)).value =
        ⟨.ok { Invocation.empty with defines := values }, .empty⟩ := by
  intro reader gap values written
  have hvalues : ∀ v ∈ values, v ≠ "" ∧ '\n' ∉ v.toList := by decide
  have harguments : written.map Written.argument = values.map ("-D" ++ ·) := by decide
  obtain ⟨_, _, hread⟩ := quoted_arguments_are_read_back reader .empty written
  exact ⟨by decide, hvalues, harguments, hread values hvalues harguments⟩

end CompilerLog.Gcc
