import CompilerLog.Proofs.Properties.Associativity
import CompilerLog.Proofs.Properties.History
/-!
# What counts as changed

A document counts as changed behind merges when one of them has led away from the content that was
settled. Another one can lead back to it, and then the flag stays set: the document is written
although the file stands for its content already. In all other cases the flag tells whether the
contents differ.
-/

namespace CompilerLog

/-- The merges lead away from the content and back to it. -/
def Content.Undone (c : Content) (steps : List (MergeMode × Content)) : Prop :=
  c.mergeSteps steps = c ∧ ∃ earlier, earlier <+: steps ∧ c.mergeSteps earlier ≠ c

theorem Content.mergeSteps_replicate (c : Content) (mode : MergeMode) (incoming : Content)
    (count : Nat) :
    c.mergeSteps (List.replicate (count + 1) (mode, incoming)) = c.merge mode incoming := by
  induction count with
  | zero => rfl
  | succ count ih =>
    rw [List.replicate_succ', mergeSteps_append, ih]
    exact merge_merge mode c incoming

/-- Merging one content, once or again and again, is never undone. -/
theorem Content.not_undone_replicate (c : Content) (mode : MergeMode) (incoming : Content)
    (count : Nat) : ¬c.Undone (List.replicate count (mode, incoming)) := by
  rintro ⟨hback, earlier, hprefix, haway⟩
  obtain ⟨hlength, hearlier⟩ := List.prefix_replicate_iff.mp hprefix
  rw [hearlier] at haway
  cases hcount : earlier.length with
  | zero =>
    rw [hcount] at haway
    exact haway rfl
  | succ more =>
    obtain ⟨rest, rfl⟩ : ∃ rest, count = rest + 1 := ⟨count - 1, by omega⟩
    rw [hcount, mergeSteps_replicate] at haway
    rw [mergeSteps_replicate] at hback
    exact haway hback

namespace Document

variable {d : Document}

/-- The document behind merges, each in a mode of its own. -/
def mergeSteps (d : Document) (steps : List (MergeMode × Content)) : Document :=
  steps.foldl (fun d step => (d.merge step.1 step.2).2) d

theorem mergeSteps_concat (d : Document) (steps : List (MergeMode × Content))
    (step : MergeMode × Content) :
    d.mergeSteps (steps ++ [step]) = ((d.mergeSteps steps).merge step.1 step.2).2 :=
  List.foldl_concat _ _ _ _

theorem content_mergeSteps {c : Content} (h : d.content = some c)
    (steps : List (MergeMode × Content)) :
    (d.mergeSteps steps).content = some (c.mergeSteps steps) := by
  induction steps generalizing d c with
  | nil => exact h
  | cons step rest ih =>
    have hmerged : (d.merge step.1 step.2).2.content = some (c.merge step.1 step.2) := by
      rw [merge, h]
      rfl
    exact ih hmerged

/-- The flag is set when the content has differed behind any of the merges. -/
theorem changed_mergeSteps_iff (d : Document) (steps : List (MergeMode × Content)) :
    (d.mergeSteps steps).changed = true ↔
      d.changed = true ∨
        ∃ earlier, earlier <+: steps ∧ (d.mergeSteps earlier).content ≠ d.content := by
  induction steps using List.reverseRecOn with
  | nil => simp [mergeSteps]
  | append_singleton steps step ih =>
    rw [mergeSteps_concat, changed_merge, fst_merge, ← mergeSteps_concat, Bool.or_eq_true, ih,
      decide_eq_true_iff]
    constructor
    · rintro ((hd | ⟨earlier, hprefix, hdiffers⟩) | hstep)
      · exact .inl hd
      · exact .inr ⟨earlier, hprefix.trans (List.prefix_append _ _), hdiffers⟩
      · by_cases hback : (d.mergeSteps (steps ++ [step])).content = d.content
        · refine .inr ⟨steps, List.prefix_append _ _, fun hsame => hstep ?_⟩
          rw [hback, hsame]
        · exact .inr ⟨_, List.prefix_rfl, hback⟩
    · rintro (hd | ⟨earlier, hprefix, hdiffers⟩)
      · exact .inl (.inl hd)
      · rcases List.prefix_concat_iff.mp hprefix with rfl | hprefix
        · by_cases hsame :
              (d.mergeSteps (steps ++ [step])).content = (d.mergeSteps steps).content
          · exact .inl (.inr ⟨steps, List.prefix_rfl, hsame ▸ hdiffers⟩)
          · exact .inr hsame
        · exact .inl (.inr ⟨earlier, hprefix, hdiffers⟩)

/-- The flag behind merges into what was settled. -/
theorem changed_iff_differed (c : Content) (steps : List (MergeMode × Content)) :
    ((⟨some c, false⟩ : Document).mergeSteps steps).changed = true ↔
      ∃ earlier, earlier <+: steps ∧ c.mergeSteps earlier ≠ c := by
  have hcontent (earlier : List (MergeMode × Content)) :
      ((⟨some c, false⟩ : Document).mergeSteps earlier).content = some (c.mergeSteps earlier) :=
    content_mergeSteps rfl earlier
  rw [changed_mergeSteps_iff]
  simp only [hcontent, Bool.false_eq_true, false_or, ne_eq, Option.some.injEq]

/-- Behind merges into what was read or written, the document counts as changed exactly when one of
them has led to another content. So the flag tells whether the content differs from what was
settled, unless the merges are undone: then it is set though the content is the same, and every
writing that succeeds leaves a file that stands for what was settled. Merging one content, however
often, is never undone. A document is written exactly when the flag is set. -/
theorem changed_iff_differs_unless_undone {call : Call} {c : Content} (h : d.Settles call c)
    (steps : List (MergeMode × Content)) :
    let merged := (d.perform call).mergeSteps steps
    merged.content = some (c.mergeSteps steps) ∧
    (merged.changed = true ↔ ∃ earlier, earlier <+: steps ∧ c.mergeSteps earlier ≠ c) ∧
    (¬c.Undone steps → (merged.changed = true ↔ merged.content ≠ some c)) ∧
    (c.Undone steps → merged = ⟨some c, true⟩ ∧ ∀ tree path saved after,
      (merged.write tree path).value = (.ok true, saved, after) → after.StandsFor path c) ∧
    (∀ mode incoming count, steps = List.replicate count (mode, incoming) → ¬c.Undone steps) ∧
    ∀ tree path,
      (merged.changed = false → (merged.write tree path).value = (.ok false, merged, tree)) ∧
      (merged.changed = true → (merged.write tree path).value.1 ≠ .ok false) := by
  intro merged
  have hmerged : merged = (⟨some c, false⟩ : Document).mergeSteps steps := by
    show (d.perform call).mergeSteps steps = _
    rw [h.perform_eq]
  have hcontent : merged.content = some (c.mergeSteps steps) := by
    rw [hmerged]
    exact content_mergeSteps rfl steps
  have hchanged : merged.changed = true ↔
      ∃ earlier, earlier <+: steps ∧ c.mergeSteps earlier ≠ c := by
    rw [hmerged]
    exact changed_iff_differed c steps
  have heq (hset : merged.changed = true) : merged = ⟨some (c.mergeSteps steps), true⟩ := by
    rw [← hcontent, ← hset]
  refine ⟨hcontent, hchanged, ?_, ?_, ?_, ?_⟩
  · intro hundone
    rw [hchanged, hcontent, ne_eq, Option.some.injEq]
    constructor
    · intro haway hback
      exact hundone ⟨hback, haway⟩
    · intro hdiffers
      exact ⟨steps, List.prefix_rfl, hdiffers⟩
  · rintro ⟨hback, haway⟩
    have hflag : merged = ⟨some c, true⟩ := by
      rw [heq (hchanged.mpr haway), hback]
    refine ⟨hflag, fun tree path saved after hwrite => ?_⟩
    obtain ⟨text, last, hlast, htext, _, hfile, _⟩ := exists_text_of_write hwrite
    rw [hflag] at hlast
    cases hlast
    exact ⟨text, hfile, htext⟩
  · rintro mode incoming count rfl
    exact c.not_undone_replicate mode incoming count
  · intro tree path
    constructor
    · exact value_write_of_unchanged
    · intro hset
      rw [heq hset]
      exact fst_write_ne_false _

/-- Two entries are added to a content that was written. -/
theorem changed_iff_differs_unless_undone_of_added_entries :
    let defining (defines : List String) : Content :=
      Content.ofConfigurations [{ Configuration.empty with name := "board", defines }]
    let call := Call.write (FileTree.empty ["work"]) "p.json"
    let steps : List (MergeMode × Content) :=
      [(.unique, defining ["B"]), (.keepOrder, defining ["C"])]
    let merged := ((⟨some (defining ["A"]), true⟩ : Document).perform call).mergeSteps steps
    (⟨some (defining ["A"]), true⟩ : Document).Settles call (defining ["A"]) ∧
      ¬(defining ["A"]).Undone steps ∧
      merged.changed = true ∧ merged.content = some (defining ["C", "A", "B"]) := by
  intro defining call steps merged
  let c := defining ["A"]
  have hwrite : (FileTree.empty ["work"]).writeFile "p.json" (Text.Utf8.encode c.toText) =
      (.ok (), ((⟨some c, true⟩ : Document).write (FileTree.empty ["work"]) "p.json").value.2.2) :=
    by rfl
  have hsettles : (⟨some c, true⟩ : Document).Settles call c :=
    ⟨rfl, c.toText, FileTree.readText_of_writeFile hwrite, c.ofText?_toText⟩
  have haway : c.mergeSteps steps ≠ c := by decide
  have hundone : ¬c.Undone steps := fun h => haway h.1
  obtain ⟨hcontent, _, hflag, _⟩ := changed_iff_differs_unless_undone hsettles steps
  refine ⟨hsettles, hundone, (hflag hundone).mpr ?_, hcontent⟩
  rw [hcontent]
  exact fun h => haway (Option.some.inj h)

/-- An entry is changed and changed back: the document counts as changed and is written, although
its content is the one that was read from the file. -/
theorem flag_stays_set_where_merges_are_undone :
    let compiled (compilerPath : String) : Content :=
      Content.ofConfigurations [{ Configuration.empty with name := "board", compilerPath }]
    let text :=
      "\x7b\"configurations\": [\x7b\"name\": \"board\", \"compilerPath\": \"a\"\x7d]\x7d"
    let tree := ((FileTree.empty ["work"]).writeFile "p.json" (Text.Utf8.encode text)).2
    let merged := (empty.read tree "p.json").value.2.mergeSteps
      [(.replace, compiled "b"), (.replace, compiled "a")]
    (empty.read tree "p.json").value = (.ok true, ⟨some (compiled "a"), false⟩) ∧
      merged.content = some (compiled "a") ∧ merged.changed = true ∧
      tree.StandsFor "p.json" (compiled "a") ∧
      (merged.write tree "p.json").value.1 = .ok true := by
  intro compiled text tree merged
  have hstored : (FileTree.empty ["work"]).writeFile "p.json" (Text.Utf8.encode text) =
      (.ok (), tree) := by rfl
  have hfile : tree.Holds "p.json" (some text) := FileTree.readText_of_writeFile hstored
  have htext : Content.ofText? text = some (compiled "a") := by decide
  have hread : (empty.read tree "p.json").value = (.ok true, ⟨some (compiled "a"), false⟩) :=
    value_read_content empty hfile htext
  have hmerged : merged = ⟨some (compiled "a"), true⟩ := by
    show (empty.read tree "p.json").value.2.mergeSteps _ = _
    rw [hread]
    decide
  refine ⟨hread, by rw [hmerged], by rw [hmerged], ⟨text, hfile, htext⟩, ?_⟩
  rw [hmerged]
  rfl

end Document

end CompilerLog
