import CompilerLog.Json.Record
import CompilerLog.Proofs.Json.Token
import Mathlib.Data.List.Forall2
import Mathlib.Data.List.TakeWhile
/-!
# Values of known types

Texts, lists, whole numbers and records can be written, and each of them is what the value written
for it reads as.
-/

namespace CompilerLog.Json

section Records

variable {name : String} {names : List String} {value : Json} {values : List Json}

theorem valuesOf_fields (name : String) (fields : List (String × Json)) :
    valuesOf name (fields.map fun (key, value) => (some key, value)) =
      (fields.filter (·.1 = name)).map (·.2) := by
  induction fields with
  | nil => rfl
  | cons field fields ih =>
      by_cases h : field.1 = name
      · simp [valuesOf, h, ← ih]
      · simp [valuesOf, h, ← ih]

theorem filter_zip_of_not_mem (h : name ∉ names) (values : List Json) :
    (names.zip values).filter (·.1 = name) = [] := by
  rw [List.filter_eq_nil_iff]
  intro field hfield hname
  have hmem : field.1 ∈ names := (List.of_mem_zip hfield).1
  rw [of_decide_eq_true hname] at hmem
  exact h hmem

/-- A name that is declared once has the one value that stands beside it. -/
theorem filter_zip_of_mem (hnames : names.Nodup) (h : (name, value) ∈ names.zip values) :
    (names.zip values).filter (·.1 = name) = [(name, value)] := by
  induction names generalizing values with
  | nil => cases h
  | cons first names ih =>
      cases values with
      | nil => cases h
      | cons firstValue values =>
          obtain ⟨hfirst, hnames⟩ := List.nodup_cons.mp hnames
          rw [List.zip_cons_cons] at h ⊢
          rcases List.mem_cons.mp h with heq | h
          · obtain ⟨rfl, rfl⟩ := Prod.mk.inj heq
            rw [List.filter_cons_of_pos (by simp), filter_zip_of_not_mem hfirst]
          · have hne : first ≠ name := by
              rintro rfl
              exact hfirst (List.of_mem_zip h).1
            rw [List.filter_cons_of_neg (by simpa using hne), ih hnames h]

/-- A record is read the same in whatever order its fields stand. -/
theorem asRecord?_of_perm {fields : List (Option String × Json)} (hnames : names.Nodup)
    (hlength : names.length = values.length)
    (hperm : ((names.zip values).map fun (key, value) => (some key, value)).Perm fields) :
    asRecord? names (object fields) = some (values.map some) := by
  have hvalues : List.Forall₂ (fun name value => atMostOne? name fields = some (some value))
      names values := by
    rw [List.forall₂_iff_zip]
    refine ⟨hlength, fun {name value} h => ?_⟩
    have hnamed : (valuesOf name ((names.zip values).map fun (key, value) =>
        (some key, value))).Perm (valuesOf name fields) := hperm.filterMap _
    rw [valuesOf_fields, filter_zip_of_mem hnames h] at hnamed
    rw [atMostOne?, ← List.singleton_perm.mp hnamed]
  have hmapM {names : List String} {values : List Json}
      (h : List.Forall₂ (fun name value => atMostOne? name fields = some (some value))
        names values) :
      names.mapM (fun name => atMostOne? name fields) = some (values.map some) := by
    induction h with
    | nil => rfl
    | cons hfirst _ ih => simp [List.mapM_cons, hfirst, ih]
  have hknown : fields.all (·.1.isSome) = true := by
    rw [← hperm.all_eq]
    simp
  rw [asRecord?, namedFields?, if_pos hknown, hmapM hvalues]

theorem asRecord?_ofFields (hnames : names.Nodup) (hlength : names.length = values.length) :
    asRecord? names (ofFields (names.zip values)) = some (values.map some) :=
  asRecord?_of_perm hnames hlength (List.Perm.refl _)

theorem written_ofFields {fields : List (String × Json)} (h : ∀ field ∈ fields, Written field.2) :
    Written (ofFields fields) := by
  refine .object ?_ ?_
  · intro field hfield
    obtain ⟨_, _, rfl⟩ := List.mem_map.mp hfield
    rfl
  · intro field hfield
    obtain ⟨source, hsource, rfl⟩ := List.mem_map.mp hfield
    exact h source hsource

end Records

section Lists

theorem asList?_map {α : Type} {item? : Json → Option α} {toJson : α → Json} {l : List α}
    (h : ∀ a ∈ l, item? (toJson a) = some a) : asList? item? (array (l.map toJson)) = some l := by
  rw [asList?, List.mapM_map]
  induction l with
  | nil => rfl
  | cons a l ih =>
      have hl := ih fun a ha => h a (List.mem_cons_of_mem _ ha)
      simp [List.mapM_cons, h a List.mem_cons_self, hl]

@[simp] theorem asString?_ofString (s : String) : asString? (ofString s) = some s := rfl

@[simp] theorem asStrings?_ofStrings (l : List String) : asStrings? (ofStrings l) = some l :=
  asList?_map fun s _ => asString?_ofString s

theorem written_ofString (s : String) : Written (ofString s) := .string s

theorem written_ofStrings (l : List String) : Written (ofStrings l) := by
  refine .array fun item hitem => ?_
  obtain ⟨s, _, rfl⟩ := List.mem_map.mp hitem
  exact written_ofString s

end Lists

section Numbers

theorem toList_toString (n : Nat) : (toString n).toList = Nat.toDigits 10 n := Nat.toList_repr

theorem isDigit_of_mem {n : Nat} {c : Char} (h : c ∈ Nat.toDigits 10 n) : c.isDigit = true :=
  Nat.isDigit_of_mem_toDigits (by decide) (by decide) h

theorem decimal_toDigits (n : Nat) : decimal (Nat.toDigits 10 n) = n := by
  have h := Nat.ofDigitChars_ten_toDigits (n := n)
  rw [Nat.ofDigitChars_eq_foldl] at h
  simpa only [decimal, Nat.mul_comm 10] using h

theorem head?_toDigits_ne_zero {n : Nat} (h : 0 < n) : (Nat.toDigits 10 n).head? ≠ some '0' := by
  induction n using Nat.strongRecOn with
  | ind n ih =>
      by_cases hn : n < 10
      · have hdigit : ∀ m < 10, 0 < m → [m.digitChar].head? ≠ some '0' := by decide
        rw [Nat.toDigits_of_lt_base hn]
        exact hdigit n hn h
      · have hrest := ih (n / 10) (by omega) (by omega)
        rwa [Nat.toDigits_of_base_le (by decide) (by omega),
          List.head?_append_of_ne_nil _ Nat.toDigits_ne_nil]

theorem afterDigits?_of_all {c : Char} {rest : List Char}
    (h : ∀ d ∈ c :: rest, d.isDigit = true) : afterDigits? (c :: rest) = some [] := by
  have hrest : rest.dropWhile Char.isDigit = [] :=
    List.dropWhile_eq_nil_iff.mpr fun d hd => h d (List.mem_cons_of_mem _ hd)
  rw [afterDigits?, if_pos (h c List.mem_cons_self), hrest]

theorem isNumber_toDigits (n : Nat) : isNumber (Nat.toDigits 10 n) = true := by
  rcases Nat.eq_zero_or_pos n with rfl | hn
  · rfl
  · have hhead := head?_toDigits_ne_zero hn
    have hdigits : ∀ c ∈ Nat.toDigits 10 n, c.isDigit = true := fun c => isDigit_of_mem
    cases hl : Nat.toDigits 10 n with
    | nil => exact absurd hl Nat.toDigits_ne_nil
    | cons c rest =>
        rw [hl] at hhead hdigits
        have hzero : c ≠ '0' := by simpa using hhead
        have hsign : c ≠ '-' := by
          rintro rfl
          exact absurd (hdigits '-' List.mem_cons_self) (by decide)
        unfold isNumber
        dsimp only
        split
        · rename_i hminus
          exact absurd (List.cons.inj hminus).1 hsign
        · simp [afterWhole?, hzero, afterDigits?_of_all hdigits, afterFraction?, afterExponent?]

theorem ofWord?_toDigits (n : Nat) :
    Token.ofWord? (Nat.toDigits 10 n) = some (.number (Nat.toDigits 10 n)) := by
  have hne (word : String) (c : Char) (hc : c ∈ word.toList) (hdigit : c.isDigit = false) :
      Nat.toDigits 10 n ≠ word.toList := by
    intro heq
    rw [← heq] at hc
    rw [isDigit_of_mem hc] at hdigit
    cases hdigit
  rw [Token.ofWord?, if_neg (hne "null" 'n' (by decide) rfl),
    if_neg (hne "true" 't' (by decide) rfl), if_neg (hne "false" 'f' (by decide) rfl),
    if_pos (isNumber_toDigits n)]

theorem written_ofNat (n : Nat) : Written (ofNat n) := by
  refine .number ?_ ?_
  · intro c hc
    rw [toList_toString] at hc
    simp [isWordChar, Char.isAlphanum, isDigit_of_mem hc]
  · rw [toList_toString]
    exact ofWord?_toDigits n

theorem asUInt32?_ofNat (n : UInt32) : asUInt32? (ofNat n.toNat) = some n := by
  have hdigits : (Nat.toDigits 10 n.toNat).all Char.isDigit = true :=
    List.all_eq_true.mpr fun c hc => isDigit_of_mem hc
  have hbound : decimal (Nat.toDigits 10 n.toNat) < Nat.pow 2 32 := by
    rw [decimal_toDigits]
    exact n.toNat_lt
  simp only [ofNat, asUInt32?, toList_toString]
  rw [if_pos ⟨hdigits, hbound⟩, decimal_toDigits, UInt32.ofNat_toNat]

end Numbers

end CompilerLog.Json
