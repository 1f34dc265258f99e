import CompilerLog.Proofs.Properties.ChangeFlag
/-!
# Merging into a document without content

A document that has no content takes an incoming one over as it is. Merging it into the empty
content instead would pair its configurations by name. The two agree where each name is there once.
Where one is repeated the document keeps all configurations of that name, and as every later merge
goes into the first of them, it keeps the others for good.
-/

namespace CompilerLog

namespace Content

variable {mode : MergeMode} {c : Configuration}

/-! ## Nothing is stored -/

theorem names_bringAll_nil (mode : MergeMode) (incoming : List Configuration) :
    (bringAll mode [] incoming).map Configuration.name =
      (incoming.map Configuration.name).eraseDups := by
  rw [names_bringAll, Configuration.appendNew_eq]
  simp

theorem nodup_names_bringAll_nil (mode : MergeMode) (incoming : List Configuration) :
    ((bringAll mode [] incoming).map Configuration.name).Nodup := by
  rw [names_bringAll]
  exact Configuration.nodup_appendNew List.nodup_nil

/-- Configurations of different names are put behind each other. -/
theorem bringAll_nil_of_nodup {incoming : List Configuration}
    (h : (incoming.map Configuration.name).Nodup) : bringAll mode [] incoming = incoming := by
  induction incoming with
  | nil => rfl
  | cons first rest ih =>
      obtain ⟨hfirst, hrest⟩ := List.nodup_cons.mp h
      have hne : ∀ c ∈ rest, c.name ≠ first.name := fun c hc hname =>
        hfirst (hname ▸ List.mem_map_of_mem hc)
      have hnamed : rest.filter (·.name = first.name) = [] :=
        List.filter_eq_nil_iff.mpr fun c hc => by simpa using hne c hc
      have hothers : rest.filter (·.name ≠ first.name) = rest :=
        List.filter_eq_self.mpr fun c hc => by simpa using hne c hc
      rw [bringAll_nil_cons, hnamed, hothers, ih hrest]
      rfl

theorem bringAll_nil_eq_self_iff (mode : MergeMode) (incoming : List Configuration) :
    bringAll mode [] incoming = incoming ↔ (incoming.map Configuration.name).Nodup := by
  constructor
  · intro h
    have hnodup := nodup_names_bringAll_nil mode incoming
    rwa [h] at hnodup
  · exact bringAll_nil_of_nodup

/-! ## The first one of a name -/

/-- The first configuration of a name is the one that is found. -/
theorem configuration?_of_append_cons {content : Content} {before behind : List Configuration}
    (heq : content.configurations = before ++ c :: behind)
    (h : c.name ∉ before.map Configuration.name) : content.configuration? c.name = some c := by
  have hbefore : before.find? (·.name = c.name) = none := by
    rw [List.find?_eq_none]
    intro other hother
    have hne : other.name ≠ c.name := fun hname => h (hname ▸ List.mem_map_of_mem hother)
    simpa using hne
  rw [configuration?, heq, List.find?_append, hbefore, List.find?_cons_of_pos (by simp)]
  rfl

theorem configuration?_of_mem {content : Content} (hc : c ∈ content.configurations)
    (h : (content.configurations.map Configuration.name).Nodup) :
    content.configuration? c.name = some c := by
  obtain ⟨before, behind, heq⟩ := List.append_of_mem hc
  refine configuration?_of_append_cons heq fun hmem => ?_
  rw [heq, List.map_append, List.nodup_append] at h
  exact h.2.2 _ hmem _ (by simp) rfl

/-- Merging into the empty content brings all that follows with its name into the first one. -/
theorem configuration?_merge_empty {incoming : Content} {before behind : List Configuration}
    (heq : incoming.configurations = before ++ c :: behind)
    (h : c.name ∉ before.map Configuration.name) :
    (empty.merge mode incoming).configuration? c.name =
      some (c.mergeAll mode (behind.filter (·.name = c.name))) := by
  have hname : (c.mergeAll mode (behind.filter (·.name = c.name))).name = c.name :=
    Configuration.name_mergeAll mode fun i hi => by simpa using List.of_mem_filter hi
  have hmem : c.mergeAll mode (behind.filter (·.name = c.name)) ∈
      (empty.merge mode incoming).configurations := by
    rw [configurations_merge, heq]
    exact mem_bringAll_nil h behind
  have hfound := configuration?_of_mem hmem (nodup_names_bringAll_nil mode _)
  rwa [hname] at hfound

/-! ## The others of a name -/

theorem take_names_merge {i : Nat} {stored : Content} (h : i ≤ stored.configurations.length)
    (incoming : Content) :
    ((merge mode stored incoming).configurations.take i).map Configuration.name =
      (stored.configurations.take i).map Configuration.name := by
  rw [List.map_take, configurations_merge, names_bringAll, Configuration.appendNew_eq,
    List.take_append_of_le_length (by simpa using h), List.map_take]

/-- No merge reaches a configuration behind another one of its name. -/
theorem getElem?_mergeSteps_of_repeated {i : Nat} {stored : Content}
    (hc : stored.configurations[i]? = some c)
    (h : c.name ∈ (stored.configurations.take i).map Configuration.name)
    (steps : List (MergeMode × Content)) :
    (stored.mergeSteps steps).configurations[i]? = some c := by
  induction steps generalizing stored with
  | nil => exact hc
  | cons step steps ih =>
      have hlength : i ≤ stored.configurations.length :=
        Nat.le_of_lt (List.getElem?_eq_some_iff.mp hc).1
      have hnext : (merge step.1 stored step.2).configurations[i]? = some c :=
        getElem?_bringAll_of_unmet hc (.inl h)
      refine ih hnext ?_
      rwa [take_names_merge hlength]

end Content

namespace Document

/-- A document without content takes over what it is given. The configurations are those that
merging into the empty content leaves exactly when no name is repeated: that merge has each name
once, with all configurations of the name in the place of the first one, whereas the document has
them as they came. It finds the first one of a name without those behind it, and whatever is merged
later, these stay as they are. -/
theorem first_merge_pairs_iff_names_differ (changed : Bool) (mode : MergeMode)
    (incoming : Content) :
    let merged := ((⟨none, changed⟩ : Document).merge mode incoming).2
    let paired := Content.empty.merge mode incoming
    let names := incoming.configurations.map Configuration.name
    (⟨none, changed⟩ : Document).merge mode incoming = (true, ⟨some incoming, true⟩) ∧
    (merged.content.map Content.configurations = some paired.configurations ↔ names.Nodup) ∧
    paired.configurations.map Configuration.name = names.eraseDups ∧
    (paired.configurations.map Configuration.name).Nodup ∧
    (∀ before c behind, incoming.configurations = before ++ c :: behind →
      c.name ∉ before.map Configuration.name →
      (merged.content.bind fun content => content.configuration? c.name) = some c ∧
      paired.configuration? c.name =
        some (c.mergeAll mode (behind.filter (·.name = c.name)))) ∧
    ∀ (i : Nat) c, incoming.configurations[i]? = some c → c.name ∈ names.take i →
      ∀ steps, ((merged.mergeSteps steps).content.bind fun content =>
        content.configurations[i]?) = some c := by
  intro merged paired names
  refine ⟨rfl, ?_, Content.names_bringAll_nil mode _, Content.nodup_names_bringAll_nil mode _, ?_,
    ?_⟩
  · have hagree : merged.content.map Content.configurations = some paired.configurations ↔
        Content.bringAll mode [] incoming.configurations = incoming.configurations := by
      rw [eq_comm]
      exact Option.some_inj
    rw [hagree]
    exact Content.bringAll_nil_eq_self_iff mode _
  · intro before c behind heq hbefore
    exact ⟨Content.configuration?_of_append_cons heq hbefore,
      Content.configuration?_merge_empty heq hbefore⟩
  · intro i c hc hrepeated steps
    rw [← List.map_take] at hrepeated
    have hcontent : (merged.mergeSteps steps).content = some (incoming.mergeSteps steps) :=
      content_mergeSteps rfl steps
    rw [hcontent]
    exact Content.getElem?_mergeSteps_of_repeated hc hrepeated steps

/-- A name that is repeated behind another one, in a mode that joins the lists. -/
theorem first_merge_pairs_iff_names_differ_of_repeated_name :
    let named (name : String) (defines : List String) : Configuration :=
      { Configuration.empty with name, defines }
    let incoming := Content.ofConfigurations [named "a" ["X"], named "b" [], named "a" ["Y"]]
    let merged := (empty.merge .unique incoming).2
    let paired := Content.empty.merge .unique incoming
    (merged.content.bind fun content => content.configuration? "a") = some (named "a" ["X"]) ∧
      paired.configuration? "a" = some (named "a" ["X", "Y"]) ∧
      merged.content.map Content.configurations ≠ some paired.configurations ∧
      ((merged.mergeSteps [(.unique, incoming), (.replace, paired)]).content.bind fun content =>
        content.configurations[2]?) = some (named "a" ["Y"]) := by
  intro named incoming merged paired
  obtain ⟨_, hagree, _, _, hfirst, hlater⟩ :=
    first_merge_pairs_iff_names_differ false .unique incoming
  obtain ⟨hmerged, hpaired⟩ := hfirst [] (named "a" ["X"]) _ rfl (by decide)
  refine ⟨hmerged, hpaired, hagree.not.mpr (by decide), ?_⟩
  exact hlater 2 (named "a" ["Y"]) rfl (by decide) _

/-- Two configurations of one name: the document holds both of them, although merging them into the
empty content leaves the second one alone. -/
theorem repeated_name_is_kept_without_content :
    let board (defines : List String) : Configuration :=
      { Configuration.empty with name := "board", defines }
    let incoming := Content.ofConfigurations [board ["A"], board ["B"]]
    let merged := (empty.merge .replace incoming).2
    merged.content.map Content.configurations = some [board ["A"], board ["B"]] ∧
      (Content.empty.merge .replace incoming).configurations = [board ["B"]] ∧
      merged.content.map Content.configurations ≠
        some (Content.empty.merge .replace incoming).configurations ∧
      ¬((merged.content.map Content.configurations).getD []).Pairwise
        (fun c other => c.name ≠ other.name) := by
  decide

end Document

end CompilerLog
