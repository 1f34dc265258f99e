import CompilerLog.Proofs.Json.Record
/-!
# The order of fields

An object can be kept with its fields in any order, say in that of their names. Records are read by
name, so that a value that was written with its fields in the order of declaration is read the same
when the fields of all objects in it have been put into another order.
-/

namespace CompilerLog.Json

/-- The second value is the first one with the fields of each object in any order. -/
inductive Reordered : Json → Json → Prop
  | null : Reordered null null
  | bool (value : Bool) : Reordered (bool value) (bool value)
  | number (text : String) : Reordered (number text) (number text)
  | string (text : Option String) : Reordered (string text) (string text)
  | array {items reordered : List Json} (h : List.Forall₂ Reordered items reordered) :
      Reordered (array items) (array reordered)
  | object {fields inner reordered : List (Option String × Json)}
      (hnames : inner.map Prod.fst = fields.map Prod.fst)
      (hvalues : List.Forall₂ Reordered (fields.map Prod.snd) (inner.map Prod.snd))
      (hperm : inner.Perm reordered) : Reordered (object fields) (object reordered)

namespace Reordered

theorem refl (value : Json) : Reordered value value := by
  match value with
  | .null => exact .null
  | .bool value => exact .bool value
  | .number text => exact .number text
  | .string text => exact .string text
  | .array items => exact .array (List.forall₂_same.mpr fun item _ => refl item)
  | .object fields =>
      refine .object rfl ?_ (List.Perm.refl fields)
      rw [List.forall₂_map_left_iff, List.forall₂_map_right_iff]
      exact List.forall₂_same.mpr fun field _ => refl field.2
termination_by sizeOf value
decreasing_by
  · have hitem : sizeOf item < sizeOf items := List.sizeOf_lt_of_mem ‹_›
    simp only [Json.array.sizeOf_spec]
    omega
  · have hfield : sizeOf field < sizeOf fields := List.sizeOf_lt_of_mem ‹_›
    cases field
    simp only [Json.object.sizeOf_spec, Prod.mk.sizeOf_spec] at hfield ⊢
    omega

variable {value : Json}

theorem eq_of_bool {b : Bool} (h : Reordered (.bool b) value) : value = .bool b := by
  cases h
  rfl

theorem eq_of_ofString {s : String} (h : Reordered (ofString s) value) : value = ofString s := by
  cases h
  rfl

theorem exists_of_array {items : List Json} (h : Reordered (.array items) value) :
    ∃ reordered, value = .array reordered ∧ List.Forall₂ Reordered items reordered := by
  cases h with
  | array hitems => exact ⟨_, rfl, hitems⟩

/-- Values that hold no objects stay as they are. -/
theorem eq_map_of_forall₂ {α : Type} {toJson : α → Json} {l : List α} {values : List Json}
    (h : ∀ a value, Reordered (toJson a) value → value = toJson a)
    (hvalues : List.Forall₂ Reordered (l.map toJson) values) : values = l.map toJson := by
  have hsame : List.Forall₂ Eq (l.map toJson) values := by
    rw [List.forall₂_map_left_iff] at hvalues ⊢
    exact hvalues.imp fun a value ha => (h a value ha).symm
  rw [List.forall₂_eq_eq_eq] at hsame
  exact hsame.symm

theorem eq_of_ofStrings {l : List String} (h : Reordered (ofStrings l) value) :
    value = ofStrings l := by
  obtain ⟨reordered, rfl, hitems⟩ := exists_of_array h
  rw [eq_map_of_forall₂ (fun _ _ => eq_of_ofString) hitems]
  rfl

/-- The fields that were written stand in the object, each with its value reordered. -/
theorem exists_of_ofFields {fields : List (String × Json)} (h : Reordered (ofFields fields) value) :
    ∃ values reordered, List.Forall₂ Reordered (fields.map Prod.snd) values ∧
      (((fields.map Prod.fst).zip values).map fun (name, value) => (some name, value)).Perm
        reordered ∧ value = .object reordered := by
  rw [ofFields] at h
  cases h with
  | @object _ inner reordered hnames hvalues hperm =>
      rw [List.map_map] at hnames hvalues
      have hinner : (((fields.map Prod.fst).zip (inner.map Prod.snd)).map
          fun (name, value) => (some name, value)) = inner := by
        calc _ = ((fields.map Prod.fst).map some).zip (inner.map Prod.snd) := List.zip_map_left.symm
          _ = (inner.map Prod.fst).zip (inner.map Prod.snd) := by
              rw [hnames, List.map_map]
              rfl
          _ = inner := by
              have hzip := List.zip_unzip inner
              rwa [List.unzip_eq_map] at hzip
      refine ⟨inner.map Prod.snd, reordered, hvalues, ?_, rfl⟩
      rwa [hinner]

end Reordered

variable {value : Json}

theorem asList?_of_reordered {α : Type} {item? : Json → Option α} {toJson : α → Json} {l : List α}
    (hitem : ∀ a value, Reordered (toJson a) value → item? value = some a)
    (h : Reordered (array (l.map toJson)) value) : asList? item? value = some l := by
  obtain ⟨items, rfl, hitems⟩ := h.exists_of_array
  clear h
  rw [List.forall₂_map_left_iff] at hitems
  rw [asList?]
  induction hitems with
  | nil => rfl
  | cons hfirst _ ih => simp [List.mapM_cons, hitem _ _ hfirst, ih]

/-- What a record reads as when its fields stand in another order: their values, reordered. -/
theorem asRecord?_of_reordered {names : List String} {values : List Json} (hnames : names.Nodup)
    (hlength : names.length = values.length) (h : Reordered (ofFields (names.zip values)) value) :
    ∃ found, List.Forall₂ Reordered values found ∧
      asRecord? names value = some (found.map some) := by
  obtain ⟨found, fields, hfound, hperm, rfl⟩ := h.exists_of_ofFields
  rw [List.map_snd_zip (Nat.le_of_eq hlength.symm)] at hfound
  rw [List.map_fst_zip (Nat.le_of_eq hlength)] at hperm
  exact ⟨found, hfound, asRecord?_of_perm hnames (hlength.trans hfound.length_eq) hperm⟩

end CompilerLog.Json
