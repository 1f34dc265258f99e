import CompilerLog.Proofs.Properties.Merge
import Mathlib.Data.List.Nodup
/-!
# Configurations are paired by name

Merging brings every incoming configuration into the first stored one of its name. A stored
configuration therefore meets the incoming ones of its own name, one after the other, and no others;
the first incoming one of a name that is not stored is put last and meets those behind it. In the
modes that keep what is stored, no configuration and no entry is ever lost.
-/

namespace CompilerLog

namespace Configuration

/-- The lists of a configuration. -/
inductive ListField where
  | compilerArgs
  | includePath
  | forcedInclude
  | defines
  deriving DecidableEq, Repr

/-- The texts of a configuration, apart from its name. -/
inductive TextField where
  | compilerPath
  | intelliSenseMode
  | cStandard
  | cppStandard
  deriving DecidableEq, Repr

def entries (c : Configuration) : ListField → List String
  | .compilerArgs => c.compilerArgs
  | .includePath => c.includePath
  | .forcedInclude => c.forcedInclude
  | .defines => c.defines

def text (c : Configuration) : TextField → String
  | .compilerPath => c.compilerPath
  | .intelliSenseMode => c.intelliSenseMode
  | .cStandard => c.cStandard
  | .cppStandard => c.cppStandard

/-! ## One list -/

section
variable {stored incoming : List String}

/-- What is new follows what is stored, each entry where it comes first. -/
theorem appendNew_eq (stored incoming : List String) :
    appendNew stored incoming = stored ++ (incoming.filter (· ∉ stored)).eraseDups := by
  induction incoming generalizing stored with
  | nil => exact (List.append_nil stored).symm
  | cons first rest ih =>
      rw [appendNew_cons, ih]
      by_cases hfirst : first ∈ stored
      · rw [if_pos hfirst, List.filter_cons_of_neg (by simpa using hfirst)]
      · have hrest : rest.filter (· ∉ stored ++ [first]) =
            (rest.filter (· ∉ stored)).filter (!· == first) := by
          rw [List.filter_filter]
          refine List.filter_congr fun entry _ => ?_
          by_cases hentry : entry = first <;> simp [hentry]
        rw [if_neg hfirst, List.filter_cons_of_pos (by simpa using hfirst), List.eraseDups_cons,
          hrest, List.append_assoc, List.singleton_append]

theorem nodup_appendNew (h : stored.Nodup) : (appendNew stored incoming).Nodup := by
  induction incoming generalizing stored with
  | nil => exact h
  | cons first rest ih =>
      rw [appendNew_cons]
      apply ih
      split
      · exact h
      · rename_i hfirst
        rw [← List.concat_eq_append]
        exact List.Nodup.concat hfirst h

theorem mem_putFirst {entry : String} :
    entry ∈ putFirst stored incoming ↔ entry ∈ stored ∨ entry ∈ incoming := by
  by_cases hentry : entry ∈ incoming <;> simp [putFirst, hentry]

end

/-! ## One configuration -/

section
variable {c incoming : Configuration} {mode : MergeMode}

theorem entries_mergeWith (lists : List String → List String → List String)
    (c incoming : Configuration) (f : ListField) :
    (mergeWith lists c incoming).entries f = lists (c.entries f) (incoming.entries f) := by
  cases f <;> rfl

theorem name_merge_of_ne_replace (hmode : mode ≠ .replace) (c incoming : Configuration) :
    (merge mode c incoming).name = c.name := by
  cases mode with
  | replace => exact absurd rfl hmode
  | unique => rfl
  | keepOrder => rfl

theorem text_merge (hmode : mode ≠ .replace) (c incoming : Configuration) (f : TextField) :
    (merge mode c incoming).text f =
      if incoming.text f = "" then c.text f else incoming.text f := by
  cases mode with
  | replace => exact absurd rfl hmode
  | unique => cases f <;> rfl
  | keepOrder => cases f <;> rfl

theorem mem_entries_merge (hmode : mode ≠ .replace) {f : ListField} {entry : String} :
    entry ∈ (merge mode c incoming).entries f ↔
      entry ∈ c.entries f ∨ entry ∈ incoming.entries f := by
  cases mode with
  | replace => exact absurd rfl hmode
  | unique =>
      rw [merge, entries_mergeWith]
      exact mem_appendNew
  | keepOrder =>
      rw [merge, entries_mergeWith]
      exact mem_putFirst

/-- Brings configurations of its name into a configuration, one after the other. -/
def mergeAll (mode : MergeMode) (c : Configuration) (incoming : List Configuration) :
    Configuration :=
  incoming.foldl (merge mode) c

/-- A configuration that has the name of another one and all its entries. -/
def Within (c other : Configuration) : Prop :=
  other.name = c.name ∧ ∀ f, ∀ entry ∈ c.entries f, entry ∈ other.entries f

theorem Within.refl (c : Configuration) : c.Within c := ⟨rfl, fun _ _ h => h⟩

theorem Within.trans {c other last : Configuration} (h : c.Within other) (h' : other.Within last) :
    c.Within last :=
  ⟨h'.1.trans h.1, fun f entry hentry => h'.2 f entry (h.2 f entry hentry)⟩

theorem within_merge (hmode : mode ≠ .replace) (c incoming : Configuration) :
    c.Within (merge mode c incoming) :=
  ⟨name_merge_of_ne_replace hmode c incoming, fun _ _ h => (mem_entries_merge hmode).mpr (.inl h)⟩

theorem incoming_within_merge (hmode : mode ≠ .replace) (hname : c.name = incoming.name) :
    incoming.Within (merge mode c incoming) :=
  ⟨(name_merge mode hname).trans hname, fun _ _ h => (mem_entries_merge hmode).mpr (.inr h)⟩

theorem within_mergeAll (hmode : mode ≠ .replace) {incoming : List Configuration}
    (hnames : ∀ i ∈ incoming, i.name = c.name) : c.Within (mergeAll mode c incoming) := by
  induction incoming generalizing c with
  | nil => exact .refl c
  | cons first rest ih =>
      obtain ⟨hfirst, hrest⟩ := List.forall_mem_cons.mp hnames
      have hmerged : (merge mode c first).name = c.name := name_merge mode hfirst.symm
      refine (within_merge hmode c first).trans (ih fun i hi => ?_)
      rw [hmerged]
      exact hrest i hi

end

end Configuration

namespace Content

open CompilerLog.Configuration

/-! ## The configurations of a content -/

section
variable {mode : MergeMode} {stored incoming : List Configuration} {c : Configuration}

/-- Brings configurations into a list of them, one after the other. -/
def bringAll (mode : MergeMode) (stored incoming : List Configuration) : List Configuration :=
  incoming.foldl (fun found c => mergeInto mode c found) stored

theorem configurations_merge (mode : MergeMode) (stored incoming : Content) :
    (merge mode stored incoming).configurations =
      bringAll mode stored.configurations incoming.configurations := rfl

theorem names_mergeInto (mode : MergeMode) (incoming : Configuration)
    (stored : List Configuration) :
    (mergeInto mode incoming stored).map Configuration.name =
      if incoming.name ∈ stored.map Configuration.name then stored.map Configuration.name
      else stored.map Configuration.name ++ [incoming.name] := by
  induction stored with
  | nil => rfl
  | cons first rest ih =>
      by_cases hname : first.name = incoming.name
      · simp [mergeInto, hname, name_merge mode hname]
      · by_cases hrest : incoming.name ∈ rest.map Configuration.name
        · rw [if_pos hrest] at ih
          rw [mergeInto, if_neg hname, List.map_cons, ih, List.map_cons,
            if_pos (List.mem_cons_of_mem _ hrest)]
        · rw [if_neg hrest] at ih
          rw [mergeInto, if_neg hname, List.map_cons, ih, List.map_cons,
            if_neg (List.not_mem_cons_of_ne_of_not_mem (Ne.symm hname) hrest), List.cons_append]

/-- The names behave as the entries of one list do: each new one is added once. -/
theorem names_bringAll (mode : MergeMode) (stored incoming : List Configuration) :
    (bringAll mode stored incoming).map Configuration.name =
      appendNew (stored.map Configuration.name) (incoming.map Configuration.name) := by
  induction incoming generalizing stored with
  | nil => rfl
  | cons first rest ih =>
      rw [List.map_cons, appendNew_cons, ← names_mergeInto mode first stored]
      exact ih _

/-- The first stored configuration meets the incoming ones of its name, and the others are brought
into what is behind it. -/
theorem bringAll_cons (mode : MergeMode) (c : Configuration)
    (stored incoming : List Configuration) :
    bringAll mode (c :: stored) incoming =
      c.mergeAll mode (incoming.filter (·.name = c.name)) ::
        bringAll mode stored (incoming.filter (·.name ≠ c.name)) := by
  induction incoming generalizing c stored with
  | nil => rfl
  | cons first rest ih =>
      by_cases hname : c.name = first.name
      · have hmerged : (c.merge mode first).name = c.name := name_merge mode hname
        have hstep : bringAll mode (c :: stored) (first :: rest) =
            bringAll mode (c.merge mode first :: stored) rest := by
          simp [bringAll, mergeInto, hname]
        rw [hstep, ih, hmerged]
        simp [hname, mergeAll]
      · have hstep : bringAll mode (c :: stored) (first :: rest) =
            bringAll mode (c :: mergeInto mode first stored) rest := by
          simp [bringAll, mergeInto, hname]
        rw [hstep, ih]
        simp [Ne.symm hname, bringAll]

theorem bringAll_nil_cons (mode : MergeMode) (c : Configuration) (incoming : List Configuration) :
    bringAll mode [] (c :: incoming) =
      c.mergeAll mode (incoming.filter (·.name = c.name)) ::
        bringAll mode [] (incoming.filter (·.name ≠ c.name)) :=
  bringAll_cons mode c [] incoming

theorem filter_named_of_ne {name other : String} (h : name ≠ other)
    (l : List Configuration) :
    (l.filter (·.name ≠ other)).filter (·.name = name) = l.filter (·.name = name) := by
  rw [List.filter_filter]
  refine List.filter_congr fun i _ => ?_
  by_cases hi : i.name = name <;> simp [hi, h]

theorem getElem?_bringAll_of_first {i : Nat} (hc : stored[i]? = some c)
    (hfirst : c.name ∉ (stored.take i).map Configuration.name) :
    (bringAll mode stored incoming)[i]? =
      some (c.mergeAll mode (incoming.filter (·.name = c.name))) := by
  induction stored generalizing i incoming with
  | nil => cases hc
  | cons first rest ih =>
      rw [bringAll_cons]
      cases i with
      | zero =>
          obtain rfl : first = c := by simpa using hc
          rfl
      | succ i =>
          rw [List.take_succ_cons, List.map_cons, List.mem_cons, not_or] at hfirst
          obtain ⟨hne, hfirst⟩ := hfirst
          rw [List.getElem?_cons_succ, ih hc hfirst, filter_named_of_ne hne]

theorem getElem?_bringAll_of_unmet {i : Nat} (hc : stored[i]? = some c)
    (hunmet : c.name ∈ (stored.take i).map Configuration.name ∨
      c.name ∉ incoming.map Configuration.name) :
    (bringAll mode stored incoming)[i]? = some c := by
  induction stored generalizing i incoming with
  | nil => cases hc
  | cons first rest ih =>
      rw [bringAll_cons]
      cases i with
      | zero =>
          obtain rfl : first = c := by simpa using hc
          have hnone : incoming.filter (·.name = first.name) = [] := by
            simpa [List.filter_eq_nil_iff] using hunmet
          rw [hnone]
          rfl
      | succ i =>
          rw [List.getElem?_cons_succ]
          apply ih hc
          rw [List.take_succ_cons, List.map_cons, List.mem_cons] at hunmet
          rcases hunmet with (hname | hname) | hname
          · exact .inr (by simp [hname])
          · exact .inl hname
          · refine .inr fun hmem => hname ?_
            exact (List.filter_sublist.map _).subset hmem

theorem filter_others_append_cons {name : String} (hne : c.name ≠ name)
    (before behind : List Configuration) :
    (before ++ c :: behind).filter (·.name ≠ name) =
      before.filter (·.name ≠ name) ++ c :: behind.filter (·.name ≠ name) := by
  rw [List.filter_append, List.filter_cons_of_pos (by simpa using hne)]

theorem not_mem_names_filter {before : List Configuration} {name : String}
    {p : Configuration → Bool}
    (h : name ∉ before.map Configuration.name) :
    name ∉ (before.filter p).map Configuration.name :=
  fun hmem => h ((List.filter_sublist.map _).subset hmem)

theorem mem_bringAll_nil {before : List Configuration}
    (hbefore : c.name ∉ before.map Configuration.name) (behind : List Configuration) :
    c.mergeAll mode (behind.filter (·.name = c.name)) ∈
      bringAll mode [] (before ++ c :: behind) := by
  match before with
  | [] =>
      rw [List.nil_append, bringAll_nil_cons]
      exact List.mem_cons_self
  | first :: rest =>
      rw [List.map_cons, List.mem_cons, not_or] at hbefore
      obtain ⟨hne, hrest⟩ := hbefore
      have hothers : c.name ∉ (rest.filter (·.name ≠ first.name)).map Configuration.name :=
        not_mem_names_filter hrest
      have hmem := mem_bringAll_nil hothers (behind.filter (·.name ≠ first.name))
      rw [filter_named_of_ne hne, ← filter_others_append_cons hne] at hmem
      rw [List.cons_append, bringAll_nil_cons]
      exact List.mem_cons_of_mem _ hmem
termination_by before.length
decreasing_by exact Nat.lt_succ_of_le (List.length_filter_le _ _)

/-- The first incoming configuration of a name that is not stored is put behind all stored ones, and
meets those of its name that come later. -/
theorem mem_drop_bringAll {before : List Configuration} (behind : List Configuration)
    (hstored : c.name ∉ stored.map Configuration.name)
    (hbefore : c.name ∉ before.map Configuration.name) :
    c.mergeAll mode (behind.filter (·.name = c.name)) ∈
      (bringAll mode stored (before ++ c :: behind)).drop stored.length := by
  induction stored generalizing before behind with
  | nil => exact mem_bringAll_nil hbefore behind
  | cons first rest ih =>
      rw [List.map_cons, List.mem_cons, not_or] at hstored
      obtain ⟨hne, hrest⟩ := hstored
      have hothers : c.name ∉ (before.filter (·.name ≠ first.name)).map Configuration.name :=
        not_mem_names_filter hbefore
      have hmem := ih (behind.filter (·.name ≠ first.name)) hrest hothers
      rw [filter_named_of_ne hne, ← filter_others_append_cons hne] at hmem
      rw [bringAll_cons, List.length_cons, List.drop_succ_cons]
      exact hmem

/-! ## What is never lost -/

theorem exists_within_bringAll (hmode : mode ≠ .replace) {i : Nat} (hc : stored[i]? = some c) :
    ∃ kept, (bringAll mode stored incoming)[i]? = some kept ∧ c.Within kept := by
  by_cases hfirst : c.name ∈ (stored.take i).map Configuration.name
  · exact ⟨c, getElem?_bringAll_of_unmet hc (.inl hfirst), .refl c⟩
  · refine ⟨_, getElem?_bringAll_of_first hc hfirst, within_mergeAll hmode fun i hi => ?_⟩
    simpa using List.of_mem_filter hi

theorem exists_within_mergeInto (hmode : mode ≠ .replace) (c : Configuration)
    (stored : List Configuration) :
    ∃ kept ∈ mergeInto mode c stored, c.Within kept := by
  have hfound := broughtIn_mergeInto mode c stored
  generalize mergeInto mode c stored = found at hfound ⊢
  cases hfound with
  | into _ hname => exact ⟨_, by simp, incoming_within_merge hmode hname⟩
  | last _ => exact ⟨c, by simp, .refl c⟩

theorem exists_mem_bringAll (hmode : mode ≠ .replace) (hc : c ∈ incoming) :
    ∃ kept ∈ bringAll mode stored incoming, c.Within kept := by
  induction incoming generalizing stored with
  | nil => cases hc
  | cons first rest ih =>
      rcases List.mem_cons.mp hc with rfl | hrest
      · -- Once it is brought in, it is a stored one for those that follow.
        obtain ⟨kept, hmem, hwithin⟩ := exists_within_mergeInto hmode c stored
        obtain ⟨i, hi⟩ := List.mem_iff_getElem?.mp hmem
        obtain ⟨last, hlast, hwithin'⟩ := exists_within_bringAll hmode hi
        exact ⟨last, List.mem_of_getElem? hlast, hwithin.trans hwithin'⟩
      · exact ih hrest

end

/-- The content after merges, each in a mode of its own. -/
def mergeSteps (stored : Content) (steps : List (MergeMode × Content)) : Content :=
  steps.foldl (fun found step => merge step.1 found step.2) stored

theorem mergeSteps_append (stored : Content) (steps more : List (MergeMode × Content)) :
    stored.mergeSteps (steps ++ more) = (stored.mergeSteps steps).mergeSteps more :=
  List.foldl_append

theorem exists_within_mergeSteps {steps : List (MergeMode × Content)}
    (hsteps : ∀ step ∈ steps, step.1 ≠ .replace) (stored : Content) {i : Nat} {c : Configuration}
    (hc : stored.configurations[i]? = some c) :
    ∃ kept, (stored.mergeSteps steps).configurations[i]? = some kept ∧ c.Within kept := by
  induction steps generalizing stored c with
  | nil => exact ⟨c, hc, .refl c⟩
  | cons step steps ih =>
      obtain ⟨hstep, hrest⟩ := List.forall_mem_cons.mp hsteps
      obtain ⟨next, hnext, hwithin⟩ := exists_within_bringAll hstep hc
      obtain ⟨last, hlast, hwithin'⟩ := ih hrest (merge step.1 stored step.2) hnext
      exact ⟨last, hlast, hwithin.trans hwithin'⟩

theorem exists_mem_mergeSteps {steps : List (MergeMode × Content)}
    (hsteps : ∀ step ∈ steps, step.1 ≠ .replace) (stored : Content)
    {step : MergeMode × Content} (hstep : step ∈ steps) {c : Configuration}
    (hc : c ∈ step.2.configurations) :
    ∃ kept ∈ (stored.mergeSteps steps).configurations, c.Within kept := by
  induction steps generalizing stored with
  | nil => cases hstep
  | cons first rest ih =>
      obtain ⟨hfirst, hrest⟩ := List.forall_mem_cons.mp hsteps
      rcases List.mem_cons.mp hstep with rfl | hlater
      · obtain ⟨next, hnext, hwithin⟩ := exists_mem_bringAll hfirst hc
        obtain ⟨i, hi⟩ := List.mem_iff_getElem?.mp hnext
        obtain ⟨last, hlast, hwithin'⟩ :=
          exists_within_mergeSteps hrest (merge step.1 stored step.2) hi
        exact ⟨last, List.mem_of_getElem? hlast, hwithin.trans hwithin'⟩
      · exact ih hrest _ hlater

/-- Merging leaves the version and the order of what is stored, and adds each new name once, in the
order in which the names come up. A stored configuration that is not the first of its name, or whose
name does not come up, stays as it is; every other one meets the incoming ones of its name, and so
does the first incoming one of a new name. What comes of two that meet depends on the mode. In the
modes that keep what is stored, nothing that was ever there is lost. -/
theorem merge_pairs_by_name (mode : MergeMode) (stored incoming : Content) :
    let merged := merge mode stored incoming
    let names := stored.configurations.map Configuration.name
    let incomingNames := incoming.configurations.map Configuration.name
    let named (name : String) (l : List Configuration) := l.filter (·.name = name)
    merged.version = stored.version ∧
    merged.configurations.map Configuration.name =
      names ++ (incomingNames.filter (· ∉ names)).eraseDups ∧
    (names.Nodup → (merged.configurations.map Configuration.name).Nodup) ∧
    (∀ (i : Nat) c, stored.configurations[i]? = some c →
      (c.name ∈ names.take i ∨ c.name ∉ incomingNames → merged.configurations[i]? = some c) ∧
      (c.name ∉ names.take i → merged.configurations[i]? =
        some (c.mergeAll mode (named c.name incoming.configurations)))) ∧
    (∀ before c behind, incoming.configurations = before ++ c :: behind → c.name ∉ names →
      c.name ∉ before.map Configuration.name →
      c.mergeAll mode (named c.name behind) ∈ merged.configurations.drop names.length) ∧
    (∀ c other : Configuration,
      c.merge .replace other = other ∧
      (∀ f, (c.merge .unique other).entries f =
        c.entries f ++ ((other.entries f).filter (· ∉ c.entries f)).eraseDups) ∧
      (∀ f, (c.merge .keepOrder other).entries f =
        other.entries f ++ (c.entries f).filter (· ∉ other.entries f)) ∧
      ∀ keeping ≠ .replace, (c.merge keeping other).name = c.name ∧
        ∀ f, (c.merge keeping other).text f =
          if other.text f = "" then c.text f else other.text f) ∧
    ∀ earlier later : List (MergeMode × Content), (∀ step ∈ later, step.1 ≠ .replace) →
      let last := stored.mergeSteps (earlier ++ later)
      (∀ (i : Nat) c, (stored.mergeSteps earlier).configurations[i]? = some c →
        ∃ kept, last.configurations[i]? = some kept ∧ kept.name = c.name ∧
          ∀ f, ∀ entry ∈ c.entries f, entry ∈ kept.entries f) ∧
      ∀ step ∈ later, ∀ c ∈ step.2.configurations,
        ∃ kept ∈ last.configurations, kept.name = c.name ∧
          ∀ f, ∀ entry ∈ c.entries f, entry ∈ kept.entries f := by
  intro merged names incomingNames named
  have hnames : merged.configurations.map Configuration.name = appendNew names incomingNames :=
    names_bringAll mode _ _
  refine ⟨rfl, hnames.trans (appendNew_eq _ _), ?_, ?_, ?_, ?_, ?_⟩
  · intro hnodup
    rw [hnames]
    exact nodup_appendNew hnodup
  · intro i c hc
    have htake : names.take i = (stored.configurations.take i).map Configuration.name :=
      List.map_take.symm
    rw [htake]
    exact ⟨getElem?_bringAll_of_unmet hc, getElem?_bringAll_of_first hc⟩
  · intro before c behind hincoming hstored hbefore
    rw [List.length_map]
    change _ ∈ (merge mode stored incoming).configurations.drop _
    rw [configurations_merge, hincoming]
    exact mem_drop_bringAll behind hstored hbefore
  · intro c other
    refine ⟨rfl, fun f => ?_, fun f => entries_mergeWith putFirst c other f,
      fun keeping hmode => ?_⟩
    · rw [Configuration.merge, entries_mergeWith, appendNew_eq]
    · exact ⟨name_merge_of_ne_replace hmode c other, text_merge hmode c other⟩
  · intro earlier later hlater last
    have hlast : last = (stored.mergeSteps earlier).mergeSteps later := mergeSteps_append _ _ _
    rw [hlast]
    exact ⟨fun i c hc => exists_within_mergeSteps hlater _ hc,
      fun step hstep c hc => exists_mem_mergeSteps hlater _ hstep hc⟩

/-- Names that are repeated on either side, a new one that comes up twice, and a list with an entry
that is repeated. -/
theorem merge_pairs_by_name_of_repeated_names :
    let named (name : String) (defines : List String) : Configuration :=
      { Configuration.empty with name, defines }
    let stored := ofConfigurations [named "a" ["X", "X"], named "a" ["Y"]]
    let incoming := ofConfigurations
      [named "n" ["N", "N"], named "a" ["Z"], named "n" ["M"], named "a" ["X"]]
    let merged := merge .keepOrder stored incoming
    merged.configurations.map Configuration.name = ["a", "a", "n"] ∧
      merged.configurations[0]? = some (named "a" ["X", "Z"]) ∧
      merged.configurations[1]? = some (named "a" ["Y"]) ∧
      named "n" ["M", "N", "N"] ∈ merged.configurations.drop 2 ∧
      ∃ kept, (stored.mergeSteps [(.keepOrder, incoming), (.unique, stored)]).configurations[0]? =
        some kept ∧ kept.name = "a" ∧ ∀ f, ∀ entry ∈ (named "a" ["X", "X"]).entries f,
          entry ∈ kept.entries f := by
  intro named stored incoming merged
  obtain ⟨_, hnames, _, hstored, hnew, _, hkept⟩ := merge_pairs_by_name .keepOrder stored incoming
  refine ⟨hnames, ?_, ?_, ?_, ?_⟩
  · exact (hstored 0 (named "a" ["X", "X"]) rfl).2 (by decide)
  · exact (hstored 1 (named "a" ["Y"]) rfl).1 (.inl (by decide))
  · exact hnew [] (named "n" ["N", "N"]) _ rfl (by decide) (by decide)
  · exact (hkept [] [(.keepOrder, incoming), (.unique, stored)] (by decide)).1 0
      (named "a" ["X", "X"]) rfl

end Content

end CompilerLog
