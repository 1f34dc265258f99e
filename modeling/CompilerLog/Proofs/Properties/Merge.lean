import CompilerLog.Properties.Content
/-!
# Merging changes one configuration

An incoming configuration goes into the first one of its name or behind all others, and nothing
else of the content changes. What a configuration has met is there: meeting it again changes
nothing.
-/

namespace CompilerLog

namespace Configuration

variable {stored incoming : List String}

/-! ## One list, one text -/

theorem appendNew_cons (stored : List String) (entry : String) (rest : List String) :
    appendNew stored (entry :: rest) =
      appendNew (if entry ∈ stored then stored else stored ++ [entry]) rest := rfl

theorem mem_appendNew {entry : String} :
    entry ∈ appendNew stored incoming ↔ entry ∈ stored ∨ entry ∈ incoming := by
  induction incoming generalizing stored with
  | nil => simp [appendNew]
  | cons first rest ih =>
    rw [appendNew_cons, ih, List.mem_cons]
    by_cases hfirst : first ∈ stored
    · rw [if_pos hfirst]
      constructor
      · rintro (h | h)
        · exact .inl h
        · exact .inr (.inr h)
      · rintro (h | rfl | h)
        · exact .inl h
        · exact .inl hfirst
        · exact .inr h
    · rw [if_neg hfirst, List.mem_append, List.mem_singleton, or_assoc]

theorem appendNew_of_subset (h : ∀ entry ∈ incoming, entry ∈ stored) :
    appendNew stored incoming = stored := by
  induction incoming with
  | nil => rfl
  | cons first rest ih =>
    rw [appendNew_cons, if_pos (h first List.mem_cons_self)]
    exact ih fun entry hentry => h entry (List.mem_cons_of_mem first hentry)

theorem appendNew_self (incoming : List String) : appendNew incoming incoming = incoming :=
  appendNew_of_subset fun _ h => h

theorem appendNew_appendNew (stored incoming : List String) :
    appendNew (appendNew stored incoming) incoming = appendNew stored incoming :=
  appendNew_of_subset fun _ h => mem_appendNew.mpr (.inr h)

theorem filter_notMem_self (incoming : List String) :
    (incoming.filter fun entry => entry ∉ incoming) = [] := by
  rw [List.filter_eq_nil_iff]
  intro entry hentry
  simpa using hentry

theorem putFirst_self (incoming : List String) : putFirst incoming incoming = incoming := by
  rw [putFirst, filter_notMem_self, List.append_nil]

theorem putFirst_putFirst (stored incoming : List String) :
    putFirst (putFirst stored incoming) incoming = putFirst stored incoming := by
  simp only [putFirst]
  rw [List.filter_append, filter_notMem_self, List.nil_append, List.filter_filter]
  simp only [Bool.and_self]

theorem mergeText_self (incoming : String) : mergeText incoming incoming = incoming :=
  ite_self incoming

theorem mergeText_mergeText (stored incoming : String) :
    mergeText (mergeText stored incoming) incoming = mergeText stored incoming := by
  by_cases h : incoming = ""
  · simp only [mergeText, if_pos h]
  · simp only [mergeText, if_neg h]

/-! ## One configuration -/

section
variable {lists : List String → List String → List String}

theorem mergeWith_self (h : ∀ entries, lists entries entries = entries)
    (incoming : Configuration) : mergeWith lists incoming incoming = incoming := by
  simp only [mergeWith, mergeText_self, h]

theorem mergeWith_mergeWith (h : ∀ stored incoming,
      lists (lists stored incoming) incoming = lists stored incoming)
    (stored incoming : Configuration) :
    mergeWith lists (mergeWith lists stored incoming) incoming =
      mergeWith lists stored incoming := by
  simp only [mergeWith, mergeText_mergeText, h]

end

theorem merge_self (mode : MergeMode) (incoming : Configuration) :
    merge mode incoming incoming = incoming := by
  cases mode with
  | replace => rfl
  | unique => exact mergeWith_self appendNew_self incoming
  | keepOrder => exact mergeWith_self putFirst_self incoming

theorem merge_merge (mode : MergeMode) (stored incoming : Configuration) :
    merge mode (merge mode stored incoming) incoming = merge mode stored incoming := by
  cases mode with
  | replace => rfl
  | unique => exact mergeWith_mergeWith appendNew_appendNew stored incoming
  | keepOrder => exact mergeWith_mergeWith putFirst_putFirst stored incoming

end Configuration

namespace Content

/-! ## The configurations of a content -/

/-- The second list is the first one with a configuration brought in: into the first one of its
name, with all others as they were, or behind them. -/
inductive BroughtIn (mode : MergeMode) (incoming : Configuration) :
    List Configuration → List Configuration → Prop
  | into {before : List Configuration} {stored : Configuration} {behind : List Configuration}
      (hfirst : ∀ c ∈ before, c.name ≠ incoming.name) (hname : stored.name = incoming.name) :
      BroughtIn mode incoming (before ++ stored :: behind)
        (before ++ stored.merge mode incoming :: behind)
  | last {stored : List Configuration} (hnew : ∀ c ∈ stored, c.name ≠ incoming.name) :
      BroughtIn mode incoming stored (stored ++ [incoming])

theorem BroughtIn.cons {mode : MergeMode} {incoming first : Configuration}
    {stored found : List Configuration} (h : BroughtIn mode incoming stored found)
    (hfirst : first.name ≠ incoming.name) :
    BroughtIn mode incoming (first :: stored) (first :: found) := by
  have hcons {others : List Configuration} (hothers : ∀ c ∈ others, c.name ≠ incoming.name) :
      ∀ c ∈ first :: others, c.name ≠ incoming.name := by
    intro c hc
    rcases List.mem_cons.mp hc with rfl | hc
    · exact hfirst
    · exact hothers c hc
  cases h with
  | into hbefore hname => exact .into (hcons hbefore) hname
  | last hnew => exact .last (hcons hnew)

theorem broughtIn_mergeInto (mode : MergeMode) (incoming : Configuration)
    (stored : List Configuration) :
    BroughtIn mode incoming stored (mergeInto mode incoming stored) := by
  induction stored with
  | nil => exact .last fun _ h => nomatch h
  | cons first rest ih =>
    rw [mergeInto]
    split
    · rename_i hname
      have hfirst : ∀ c ∈ ([] : List Configuration), c.name ≠ incoming.name := fun _ h => nomatch h
      exact .into hfirst hname
    · rename_i hname
      exact ih.cons hname

end Content

end CompilerLog
