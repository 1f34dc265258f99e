import CompilerLog.Json.Parser
import CompilerLog.Proofs.Json.Token
/-!
# Reading what was written

The tokens of a value are put together to the value again, whatever is open around it, so that a
printed value is read back in every layout.
-/

namespace CompilerLog.Json

namespace Parse

variable {opened : List Frame}

theorem run_cons (p : Parse) (token : Token) (rest : List Token) :
    run p (token :: rest) = (step p token).bind (run · rest) :=
  List.foldlM_cons

theorem run_append (p : Parse) (front rest : List Token) :
    run p (front ++ rest) = (run p front).bind (run · rest) :=
  List.foldlM_append

theorem ofList_map_toList (text : Option String) :
    (text.map String.toList).map String.ofList = text := by
  simp [Function.comp_def]

/-- No value begins like the end of an array. -/
theorem run_firstItem (value : Json) (opened : List Frame) :
    run ⟨.firstItem, opened⟩ (tokens value) = run ⟨.value, opened⟩ (tokens value) := by
  cases value with
  | null => rfl
  | bool value => rfl
  | number text => rfl
  | string text => rfl
  | array items => cases items <;> rfl
  | object fields => cases fields <;> rfl

/-- Reading the tokens of the value is reading the value, whatever is open. -/
def Completes (value : Json) : Prop :=
  ∀ opened, run ⟨.value, opened⟩ (tokens value) = some (close value opened)

theorem run_itemTokens (opened : List Frame) {items : List Json}
    (h : ∀ item ∈ items, Completes item) (done : List Json) :
    run ⟨.separator, .array done :: opened⟩ (itemTokens items) =
      some ⟨.separator, .array (items.reverse ++ done) :: opened⟩ := by
  induction items generalizing done with
  | nil => rfl
  | cons item items ih =>
      have hcomma : step ⟨.separator, .array done :: opened⟩ .comma =
          some ⟨.value, .array done :: opened⟩ := rfl
      rw [itemTokens, List.cons_append, run_cons, hcomma, Option.bind_some, run_append,
        h item List.mem_cons_self, Option.bind_some, close,
        ih fun item hitem => h item (List.mem_cons_of_mem _ hitem)]
      simp

theorem run_name (fields : List (Option String × Json)) (name : Option String)
    {expected : Expected} (hexpected : expected = .firstName fields ∨ expected = .name fields)
    {value : Json} (h : Completes value) (rest : List Token) :
    run ⟨expected, opened⟩ (.string (name.map String.toList) :: .colon :: tokens value ++ rest) =
      run ⟨.separator, .object ((name, value) :: fields) name :: opened⟩ rest := by
  have hname : step ⟨expected, opened⟩ (.string (name.map String.toList)) =
      some ⟨.colon fields name, opened⟩ := by
    rcases hexpected with rfl | rfl
    · simp only [step, ofList_map_toList]
    · simp only [step, ofList_map_toList]
  have hcolon : step ⟨.colon fields name, opened⟩ .colon =
      some ⟨.value, .object fields name :: opened⟩ := rfl
  rw [List.cons_append, run_cons, hname, Option.bind_some, List.cons_append, run_cons, hcolon,
    Option.bind_some, run_append, h, Option.bind_some, close]

theorem run_fieldTokens (opened : List Frame) {fields : List (Option String × Json)}
    (h : ∀ field ∈ fields, Completes field.2) (done : List (Option String × Json))
    (name : Option String) :
    ∃ last, run ⟨.separator, .object done name :: opened⟩ (fieldTokens fields) =
      some ⟨.separator, .object (fields.reverse ++ done) last :: opened⟩ := by
  induction fields generalizing done name with
  | nil => exact ⟨name, rfl⟩
  | cons field fields ih =>
      obtain ⟨next, value⟩ := field
      have hcomma : step ⟨.separator, .object done name :: opened⟩ .comma =
          some ⟨.name done, opened⟩ := rfl
      obtain ⟨last, hlast⟩ := ih (fun field hfield => h field (List.mem_cons_of_mem _ hfield))
        ((next, value) :: done) next
      refine ⟨last, ?_⟩
      rw [fieldTokens, List.cons_append, run_cons, hcomma, Option.bind_some,
        run_name done next (.inr rfl) (h (next, value) List.mem_cons_self), hlast]
      simp

theorem completes {value : Json} (h : Written value) : Completes value := by
  induction h with
  | null =>
      intro opened
      rfl
  | bool value =>
      intro opened
      rfl
  | @number text _ _ =>
      intro opened
      simp [tokens, run, step, beginValue]
  | string text =>
      intro opened
      simp [tokens, run, step, beginValue]
  | @array items _ ih =>
      intro opened
      cases items with
      | nil => rfl
      | cons item items =>
          have hopen : step ⟨.value, opened⟩ .openArray = some ⟨.firstItem, .array [] :: opened⟩ :=
            rfl
          have hitems := run_itemTokens opened
            (fun item hitem => ih item (List.mem_cons_of_mem _ hitem)) [item]
          rw [tokens, List.cons_append, List.cons_append, run_cons, hopen, Option.bind_some,
            List.append_assoc, run_append, run_firstItem, ih item List.mem_cons_self,
            Option.bind_some, close, run_append, hitems, Option.bind_some]
          simp [run, step]
  | @object fields _ _ ih =>
      intro opened
      cases fields with
      | nil => rfl
      | cons field fields =>
          obtain ⟨name, value⟩ := field
          have hopen : step ⟨.value, opened⟩ .openObject = some ⟨.firstName [], opened⟩ := rfl
          obtain ⟨last, hfields⟩ := run_fieldTokens opened
            (fun field hfield => ih field (List.mem_cons_of_mem _ hfield)) [(name, value)] name
          rw [tokens, List.append_assoc, List.cons_append, run_cons, hopen, Option.bind_some,
            run_name [] name (.inl rfl) (ih (name, value) List.mem_cons_self), run_append, hfields,
            Option.bind_some]
          simp [run, step]

end Parse

theorem ofTokens?_tokens {value : Json} (h : Written value) :
    ofTokens? (tokens value) = some value := by
  rw [ofTokens?, Parse.completes h]
  rfl

/-- A value that can be written is read back from what is printed for it. -/
theorem parse?_print {layout : Layout} (hlayout : layout.Neutral) {value : Json}
    (h : Written value) : parse? (print layout value) = some value := by
  rw [parse?, print, String.toList_ofList, tokens?_write hlayout h, Option.bind_some,
    ofTokens?_tokens h]

end CompilerLog.Json
