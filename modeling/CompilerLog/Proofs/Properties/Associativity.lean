import CompilerLog.Properties.Document
import CompilerLog.Proofs.Properties.Pairing
/-!
# Merging is associative

Two configurations that are brought into a third one, one after the other, leave it as what they
make together would. So all that a configuration meets in one merge counts as a single one, and
merging is settled at once even where names are repeated. For whole contents the same holds as long
as the one in the middle has each name once.
-/

namespace CompilerLog

namespace Configuration

/-! ## One list, one text -/

theorem appendNew_concat (stored incoming : List String) (entry : String) :
    appendNew stored (incoming ++ [entry]) =
      if entry ∈ appendNew stored incoming then appendNew stored incoming
      else appendNew stored incoming ++ [entry] :=
  List.foldl_concat _ _ _ _

theorem appendNew_assoc (stored incoming later : List String) :
    appendNew (appendNew stored incoming) later = appendNew stored (appendNew incoming later) := by
  induction later generalizing incoming with
  | nil => rfl
  | cons entry rest ih =>
      rw [appendNew_cons, appendNew_cons incoming, ← ih]
      by_cases hentry : entry ∈ incoming
      · rw [if_pos hentry, if_pos (mem_appendNew.mpr (.inr hentry))]
      · rw [if_neg hentry, appendNew_concat]

theorem putFirst_assoc (stored incoming later : List String) :
    putFirst (putFirst stored incoming) later = putFirst stored (putFirst incoming later) := by
  have hstored : (stored.filter (· ∉ incoming)).filter (· ∉ later) =
      stored.filter (· ∉ putFirst incoming later) := by
    rw [List.filter_filter]
    refine List.filter_congr fun entry _ => ?_
    by_cases hentry : entry ∈ incoming <;> simp [mem_putFirst, hentry]
  calc later ++ (incoming ++ stored.filter (· ∉ incoming)).filter (· ∉ later)
    _ = later ++ (incoming.filter (· ∉ later) ++ stored.filter (· ∉ putFirst incoming later)) := by
        rw [List.filter_append, hstored]
    _ = putFirst incoming later ++ stored.filter (· ∉ putFirst incoming later) :=
        (List.append_assoc _ _ _).symm

theorem mergeText_assoc (stored incoming later : String) :
    mergeText (mergeText stored incoming) later = mergeText stored (mergeText incoming later) := by
  by_cases hlater : later = ""
  · simp only [mergeText, if_pos hlater]
  · simp only [mergeText, if_neg hlater]

/-! ## One configuration -/

theorem mergeWith_assoc {lists : List String → List String → List String}
    (h : ∀ stored incoming later,
      lists (lists stored incoming) later = lists stored (lists incoming later))
    (c incoming later : Configuration) :
    mergeWith lists (mergeWith lists c incoming) later =
      mergeWith lists c (mergeWith lists incoming later) := by
  simp only [mergeWith, mergeText_assoc, h]

theorem merge_assoc (mode : MergeMode) (c incoming later : Configuration) :
    merge mode (merge mode c incoming) later = merge mode c (merge mode incoming later) := by
  cases mode with
  | replace => rfl
  | unique => exact mergeWith_assoc appendNew_assoc c incoming later
  | keepOrder => exact mergeWith_assoc putFirst_assoc c incoming later

/-- What a configuration meets, one after the other, counts as what it makes together. -/
theorem mergeAll_cons (mode : MergeMode) (c first : Configuration) (rest : List Configuration) :
    c.mergeAll mode (first :: rest) = c.merge mode (first.mergeAll mode rest) := by
  induction rest generalizing c first with
  | nil => rfl
  | cons next rest ih =>
      calc c.mergeAll mode (first :: next :: rest)
        _ = (c.merge mode first).mergeAll mode (next :: rest) := rfl
        _ = (c.merge mode first).merge mode (next.mergeAll mode rest) := ih _ next
        _ = c.merge mode (first.merge mode (next.mergeAll mode rest)) := merge_assoc mode _ _ _
        _ = c.merge mode (first.mergeAll mode (next :: rest)) := by rw [ih first next]

theorem mergeAll_mergeAll (mode : MergeMode) (c : Configuration) (incoming : List Configuration) :
    (c.mergeAll mode incoming).mergeAll mode incoming = c.mergeAll mode incoming := by
  cases incoming with
  | nil => rfl
  | cons first rest => rw [mergeAll_cons, mergeAll_cons, merge_merge]

theorem name_mergeAll (mode : MergeMode) {c : Configuration} {incoming : List Configuration}
    (h : ∀ i ∈ incoming, i.name = c.name) : (c.mergeAll mode incoming).name = c.name := by
  induction incoming generalizing c with
  | nil => rfl
  | cons first rest ih =>
      obtain ⟨hfirst, hrest⟩ := List.forall_mem_cons.mp h
      have hmerged : (c.merge mode first).name = c.name := name_merge mode hfirst.symm
      exact (ih fun i hi => (hrest i hi).trans hmerged.symm).trans hmerged

end Configuration

namespace Content

variable {mode : MergeMode}

/-! ## Merging twice -/

theorem bringAll_bringAll_cons (c : Configuration) {stored incoming : List Configuration}
    (h : bringAll mode (bringAll mode stored (incoming.filter (·.name ≠ c.name)))
        (incoming.filter (·.name ≠ c.name)) =
      bringAll mode stored (incoming.filter (·.name ≠ c.name))) :
    bringAll mode (bringAll mode (c :: stored) incoming) incoming =
      bringAll mode (c :: stored) incoming := by
  have hname : (c.mergeAll mode (incoming.filter (·.name = c.name))).name = c.name :=
    Configuration.name_mergeAll mode fun i hi => by simpa using List.of_mem_filter hi
  rw [bringAll_cons, bringAll_cons, hname, Configuration.mergeAll_mergeAll, h]

/-- Where nothing is stored, the first configuration might as well be stored already. -/
theorem bringAll_nil_cons_eq (c : Configuration) (incoming : List Configuration) :
    bringAll mode [] (c :: incoming) = bringAll mode [c] (c :: incoming) := by
  have hself : mergeInto mode c [c] = [c] := by
    rw [mergeInto, if_pos rfl, Configuration.merge_self]
  calc bringAll mode [] (c :: incoming)
    _ = bringAll mode [c] incoming := rfl
    _ = bringAll mode (mergeInto mode c [c]) incoming := by rw [hself]

theorem bringAll_bringAll (mode : MergeMode) (stored incoming : List Configuration) :
    bringAll mode (bringAll mode stored incoming) incoming = bringAll mode stored incoming := by
  match stored, incoming with
  | [], [] => rfl
  | [], first :: rest =>
      rw [bringAll_nil_cons_eq]
      exact bringAll_bringAll_cons first (bringAll_bringAll mode [] _)
  | c :: stored, incoming => exact bringAll_bringAll_cons c (bringAll_bringAll mode stored _)
termination_by stored.length + incoming.length
decreasing_by
  -- the first configuration is not among those of other names
  · rw [List.filter_cons_of_neg (by simp)]
    exact Nat.add_lt_add_left (Nat.lt_succ_of_le (List.length_filter_le _ _)) _
  · exact Nat.add_lt_add_of_lt_of_le (Nat.lt_succ_self _) (List.length_filter_le _ _)

theorem merge_merge (mode : MergeMode) (stored incoming : Content) :
    (stored.merge mode incoming).merge mode incoming = stored.merge mode incoming :=
  congrArg (Content.mk stored.version) (bringAll_bringAll mode _ _)

/-- Merging a content that was just merged changes nothing, in every mode and whatever names and
entries are repeated on either side. -/
theorem merging_again_changes_nothing (mode : MergeMode) (stored incoming : Content)
    (changed : Bool) :
    let merged := stored.merge mode incoming
    let document := ((⟨some stored, changed⟩ : Document).merge mode incoming).2
    merged.merge mode incoming = merged ∧ merged.update mode incoming = (false, merged) ∧
    document.content = some merged ∧ document.merge mode incoming = (false, document) := by
  intro merged document
  have hmerged : merged.merge mode incoming = merged := merge_merge mode stored incoming
  have hupdate : merged.update mode incoming = (false, merged) := by simp [update, hmerged]
  refine ⟨hmerged, hupdate, rfl, ?_⟩
  have hdocument : document = ⟨some merged, document.changed⟩ := rfl
  rw [hdocument, Document.merge]
  simp [hupdate]

/-! ## Merging what was merged -/

section
variable {stored incoming : List Configuration} {c : Configuration}

theorem mergeInto_merge {first : Configuration} (h : first.name = c.name)
    (stored : List Configuration) :
    mergeInto mode (first.merge mode c) stored =
      mergeInto mode c (mergeInto mode first stored) := by
  have hmerged : (first.merge mode c).name = first.name := Configuration.name_merge mode h
  induction stored with
  | nil => simp only [mergeInto, if_pos h]
  | cons found rest ih =>
      by_cases hfound : found.name = first.name
      · have hinto : (found.merge mode first).name = c.name :=
          (Configuration.name_merge mode hfound).trans (hfound.trans h)
        rw [mergeInto, hmerged, if_pos hfound, mergeInto, if_pos hfound, mergeInto, if_pos hinto,
          Configuration.merge_assoc]
      · rw [mergeInto, hmerged, if_neg hfound, mergeInto, if_neg hfound, mergeInto,
          if_neg (h ▸ hfound), ih]

/-- A configuration that finds its name is brought in before or after one of another name. -/
theorem mergeInto_comm {other : Configuration} (hne : other.name ≠ c.name)
    (hmem : c.name ∈ stored.map Configuration.name) :
    mergeInto mode c (mergeInto mode other stored) =
      mergeInto mode other (mergeInto mode c stored) := by
  induction stored with
  | nil => cases hmem
  | cons found rest ih =>
      by_cases hfound : found.name = c.name
      · have hinto : (found.merge mode c).name = c.name :=
          (Configuration.name_merge mode hfound).trans hfound
        have hother : found.name ≠ other.name := fun h => hne (h.symm.trans hfound)
        have hother' : (found.merge mode c).name ≠ other.name := fun h => hne (h.symm.trans hinto)
        simp only [mergeInto, if_pos hfound, if_neg hother, if_neg hother']
      · have hrest : c.name ∈ rest.map Configuration.name :=
          (List.mem_cons.mp hmem).resolve_left (Ne.symm hfound)
        by_cases hother : found.name = other.name
        · have hinto : (found.merge mode other).name ≠ c.name := by
            rw [Configuration.name_merge mode hother]
            exact hfound
          simp only [mergeInto, if_pos hother, if_neg hfound, if_neg hinto]
        · simp only [mergeInto, if_neg hother, if_neg hfound, ih hrest]

theorem mergeInto_bringAll (hmem : c.name ∈ stored.map Configuration.name)
    (hnew : c.name ∉ incoming.map Configuration.name) :
    mergeInto mode c (bringAll mode stored incoming) =
      bringAll mode (mergeInto mode c stored) incoming := by
  induction incoming generalizing stored with
  | nil => rfl
  | cons first rest ih =>
      rw [List.map_cons, List.mem_cons, not_or] at hnew
      obtain ⟨hne, hrest⟩ := hnew
      have hmem' : c.name ∈ (mergeInto mode first stored).map Configuration.name := by
        rw [names_mergeInto]
        split
        · exact hmem
        · exact List.mem_append_left _ hmem
      calc mergeInto mode c (bringAll mode stored (first :: rest))
        _ = mergeInto mode c (bringAll mode (mergeInto mode first stored) rest) := rfl
        _ = bringAll mode (mergeInto mode c (mergeInto mode first stored)) rest := ih hmem' hrest
        _ = bringAll mode (mergeInto mode first (mergeInto mode c stored)) rest := by
            rw [mergeInto_comm (Ne.symm hne) hmem]

theorem bringAll_mergeInto (hnodup : (incoming.map Configuration.name).Nodup)
    (c : Configuration) (stored : List Configuration) :
    bringAll mode stored (mergeInto mode c incoming) =
      mergeInto mode c (bringAll mode stored incoming) := by
  induction incoming generalizing stored with
  | nil => rfl
  | cons first rest ih =>
      rw [List.map_cons, List.nodup_cons] at hnodup
      obtain ⟨hnew, hrest⟩ := hnodup
      by_cases hname : first.name = c.name
      · have hmem : c.name ∈ (mergeInto mode first stored).map Configuration.name := by
          rw [names_mergeInto, ← hname]
          split
          · assumption
          · exact List.mem_append_right _ List.mem_cons_self
        calc bringAll mode stored (mergeInto mode c (first :: rest))
          _ = bringAll mode (mergeInto mode (first.merge mode c) stored) rest := by
              rw [mergeInto, if_pos hname]
              rfl
          _ = bringAll mode (mergeInto mode c (mergeInto mode first stored)) rest := by
              rw [mergeInto_merge hname]
          _ = mergeInto mode c (bringAll mode (mergeInto mode first stored) rest) :=
              (mergeInto_bringAll hmem (hname ▸ hnew)).symm
      · rw [mergeInto, if_neg hname]
        exact ih hrest _

theorem nodup_names_mergeInto (h : (incoming.map Configuration.name).Nodup) (c : Configuration) :
    ((mergeInto mode c incoming).map Configuration.name).Nodup := by
  have hnames := names_bringAll mode incoming [c]
  rw [bringAll, List.foldl_cons, List.foldl_nil] at hnames
  rw [hnames]
  exact Configuration.nodup_appendNew h

theorem bringAll_assoc (hnodup : (incoming.map Configuration.name).Nodup)
    (stored later : List Configuration) :
    bringAll mode (bringAll mode stored incoming) later =
      bringAll mode stored (bringAll mode incoming later) := by
  induction later generalizing incoming with
  | nil => rfl
  | cons c rest ih =>
      calc bringAll mode (bringAll mode stored incoming) (c :: rest)
        _ = bringAll mode (mergeInto mode c (bringAll mode stored incoming)) rest := rfl
        _ = bringAll mode (bringAll mode stored (mergeInto mode c incoming)) rest := by
            rw [bringAll_mergeInto hnodup]
        _ = bringAll mode stored (bringAll mode (mergeInto mode c incoming) rest) :=
            ih (nodup_names_mergeInto hnodup c)

end

/-- Merging two contents, one after the other, is merging what the second one makes of the first, in
every mode, as long as the first one has each name once. -/
theorem merging_is_associative (mode : MergeMode) (stored : Content) {incoming : Content}
    (hnodup : (incoming.configurations.map Configuration.name).Nodup) (later : Content) :
    (stored.merge mode incoming).merge mode later =
      stored.merge mode (incoming.merge mode later) :=
  congrArg (Content.mk stored.version) (bringAll_assoc hnodup _ _)

/-- A name that is stored twice, one that is new, and one that comes up twice in the end. -/
theorem merging_is_associative_of_repeated_names :
    let named (name : String) (defines : List String) : Configuration :=
      { Configuration.empty with name, defines }
    let stored := ofConfigurations [named "a" ["X", "X"], named "a" ["Y"]]
    let incoming := ofConfigurations [named "n" ["N"], named "a" ["Z"]]
    let later := ofConfigurations [named "a" ["X"], named "n" ["M"], named "a" ["Z", "W"]]
    (incoming.configurations.map Configuration.name).Nodup ∧
      (stored.merge .keepOrder incoming).merge .keepOrder later =
        stored.merge .keepOrder (incoming.merge .keepOrder later) ∧
      (stored.merge .keepOrder incoming).merge .keepOrder later =
        ofConfigurations [named "a" ["Z", "W", "X"], named "a" ["Y"], named "n" ["M", "N"]] := by
  intro named stored incoming later
  have hnodup : (incoming.configurations.map Configuration.name).Nodup := by decide
  exact ⟨hnodup, merging_is_associative .keepOrder stored hnodup later, by decide⟩

-- Of two configurations of one name only the first would meet the later one.
example :
    let named (compilerPath : String) : Configuration :=
      { Configuration.empty with name := "n", compilerPath }
    let incoming := ofConfigurations [named "a", named "b"]
    let later := ofConfigurations [named "c"]
    (empty.merge .replace incoming).merge .replace later = ofConfigurations [named "c"] ∧
      empty.merge .replace (incoming.merge .replace later) = ofConfigurations [named "b"] := by
  decide

end Content

end CompilerLog
