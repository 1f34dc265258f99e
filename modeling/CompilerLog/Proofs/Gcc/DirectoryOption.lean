import CompilerLog.Gcc.DirectoryOption.Codec
import CompilerLog.Proofs.Json.Order
/-!
# Directory options are read back

The known keywords with their paths determine directory options, in whatever order they are put
together. So an object that holds them is read as the options it was written from, keywords without
paths included.
-/

namespace CompilerLog.Gcc.DirectoryOptions

variable {d : DirectoryOptions} {o : DirectoryOption} {paths : List String}
  {entries : List (DirectoryOption × List String)}

theorem mem_toList_iff : (o, paths) ∈ d.toList ↔ d.paths? o = some paths := by
  rw [toList, List.mem_filterMap]
  constructor
  · rintro ⟨option, _, h⟩
    obtain ⟨found, hfound, heq⟩ := Option.map_eq_some_iff.mp h
    obtain ⟨rfl, rfl⟩ := Prod.mk.inj heq
    exact hfound
  · intro h
    exact ⟨o, o.mem_all, by rw [h]; rfl⟩

theorem nodup_map_fst_toList (d : DirectoryOptions) : (d.toList.map Prod.fst).Nodup := by
  have hall : DirectoryOption.all.Nodup := by decide
  have hfilter : d.toList.map Prod.fst =
      DirectoryOption.all.filter fun option => (d.paths? option).isSome := by
    rw [toList, List.map_filterMap, ← List.filterMap_eq_filter]
    refine congrArg (List.filterMap · DirectoryOption.all) (funext fun option => ?_)
    cases h : d.paths? option <;> simp [Option.guard, h]
  rw [hfilter]
  exact hall.filter _

/-- Entries put into directory options, one after the other. -/
theorem paths?_foldl_set_of_not_mem (h : o ∉ entries.map Prod.fst) (d : DirectoryOptions) :
    (entries.foldl (fun d entry => d.set entry.1 entry.2) d).paths? o = d.paths? o := by
  induction entries generalizing d with
  | nil => rfl
  | cons entry entries ih =>
      obtain ⟨hfirst, hrest⟩ := not_or.mp (List.mem_cons.not.mp h)
      rw [List.foldl_cons, ih hrest]
      exact if_neg hfirst

theorem paths?_foldl_set_of_mem (hnodup : (entries.map Prod.fst).Nodup)
    (h : (o, paths) ∈ entries) (d : DirectoryOptions) :
    (entries.foldl (fun d entry => d.set entry.1 entry.2) d).paths? o = some paths := by
  induction entries generalizing d with
  | nil => cases h
  | cons entry entries ih =>
      obtain ⟨hfirst, hrest⟩ := List.nodup_cons.mp hnodup
      rw [List.foldl_cons]
      rcases List.mem_cons.mp h with rfl | h
      · rw [paths?_foldl_set_of_not_mem hfirst]
        exact if_pos rfl
      · exact ih hrest h _

/-- The entries of directory options make them up in any order. -/
theorem ofList_of_perm (h : d.toList.Perm entries) : ofList entries = d := by
  have hnodup : (entries.map Prod.fst).Nodup :=
    (h.map Prod.fst).nodup_iff.mp d.nodup_map_fst_toList
  ext1 option
  cases hpaths : d.paths? option with
  | some paths =>
      have hmem : (option, paths) ∈ entries := h.mem_iff.mp (mem_toList_iff.mpr hpaths)
      exact paths?_foldl_set_of_mem hnodup hmem _
  | none =>
      refine paths?_foldl_set_of_not_mem (fun hmem => ?_) _
      obtain ⟨entry, hentry, rfl⟩ := List.mem_map.mp hmem
      have hsome : d.paths? entry.1 = some entry.2 := mem_toList_iff.mp (h.mem_iff.mpr hentry)
      rw [hpaths] at hsome
      cases hsome

theorem mapM_eq_filterMap {α β : Type} {f : α → Option β} {l : List α}
    (h : ∀ a ∈ l, ∃ b, f a = some b) : l.mapM f = some (l.filterMap f) := by
  induction l with
  | nil => rfl
  | cons a l ih =>
      obtain ⟨⟨b, hb⟩, hrest⟩ := List.forall_mem_cons.mp h
      simp [List.mapM_cons, hb, ih hrest]

/-- The field that an entry is written as. -/
def fieldOf (entry : DirectoryOption × List String) : Option String × Json :=
  (some entry.1.keyword, .ofStrings entry.2)

theorem entry?_fieldOf (entry : DirectoryOption × List String) :
    entry? (fieldOf entry) = some entry := by
  simp [fieldOf, entry?, DirectoryOption.ofKeyword?_keyword]

theorem ofJson?_of_reordered {value : Json} (h : Json.Reordered d.toJson value) :
    ofJson? value = some d := by
  obtain ⟨values, fields, hvalues, hperm, rfl⟩ := h.exists_of_ofFields
  rw [List.map_map] at hvalues hperm
  have hsame : values = d.toList.map fun entry => .ofStrings entry.2 :=
    Json.Reordered.eq_map_of_forall₂ (fun _ _ => Json.Reordered.eq_of_ofStrings) hvalues
  have hwritten : (d.toList.map fieldOf).Perm fields := by
    rw [hsame, List.zip_map', List.map_map] at hperm
    exact hperm
  have hall : ∀ field ∈ fields, ∃ entry, entry? field = some entry := by
    intro field hfield
    obtain ⟨entry, _, rfl⟩ := List.mem_map.mp (hwritten.mem_iff.mpr hfield)
    exact ⟨entry, entry?_fieldOf entry⟩
  have hentries : d.toList.Perm (fields.filterMap entry?) := by
    have hcomp : entry? ∘ fieldOf = some := funext entry?_fieldOf
    have hfound := hwritten.filterMap entry?
    rwa [List.filterMap_map, hcomp, List.filterMap_some] at hfound
  rw [ofJson?, mapM_eq_filterMap hall, Option.map_some, ofList_of_perm hentries]

end CompilerLog.Gcc.DirectoryOptions
