import CompilerLog.Proofs.Text.Utf8
import Mathlib
/-!
# Newlines in malformed text

A newline stands for itself wherever it comes: it cuts off a character that is begun, and no other
byte gives one. So it does not matter whether bytes are cut at their newlines before they are read
as text or afterwards, however many of them are malformed.
-/

namespace CompilerLog.Text.Utf8

/-- The least value that a character begun can have once it is complete. -/
def Begun.least (begun : Begun) : Nat :=
  (begun.value * 64 + (begun.low.toNat - 0x80)) * 64 ^ begun.later

/-- A character begun that only bytes beyond ASCII continue, and to a character beyond ASCII. -/
structure Begun.Wide (begun : Begun) : Prop where
  low : 0x80 ≤ begun.low.toNat
  least : 0x80 ≤ begun.least

theorem wide_of_begin? {b : UInt8} {begun : Begun} (h : begin? b = some begun) : begun.Wide := by
  simp only [begin?] at h
  split at h
  · rename_i hb
    have hlow : 0xC2 ≤ b.toNat := UInt8.le_iff_toNat_le.mp hb.1
    rw [← Option.some.inj h]
    refine ⟨Nat.le_refl _, ?_⟩
    simp only [Begun.least]
    omega
  split at h
  · cases h
    exact ⟨by decide, by decide⟩
  split at h
  · cases h
    exact ⟨by decide, by decide⟩
  split at h
  · rename_i hb
    have hlow : 0xE1 ≤ b.toNat := UInt8.le_iff_toNat_le.mp hb.1
    rw [← Option.some.inj h]
    refine ⟨Nat.le_refl _, ?_⟩
    simp only [Begun.least]
    omega
  split at h
  · cases h
    exact ⟨by decide, by decide⟩
  split at h
  · rename_i hb
    have hlow : 0xF1 ≤ b.toNat := UInt8.le_iff_toNat_le.mp hb.1
    rw [← Option.some.inj h]
    refine ⟨Nat.le_refl _, ?_⟩
    simp only [Begun.least]
    omega
  split at h
  · cases h
    exact ⟨by decide, by decide⟩
  · cases h

theorem eq_of_ofNat_eq_newline {n : Nat} (h : Char.ofNat n = '\n') : n = 0x0A := by
  unfold Char.ofNat at h
  split at h
  · exact congrArg Char.toNat h
  · cases h

variable {begun : Option Begun} {b : UInt8}

theorem wide_of_first {next : Begun} (h : next ∈ (first b).2) : next.Wide := by
  simp only [first] at h
  split at h
  · cases h
  · split at h
    · rename_i hbegin
      cases h
      exact wide_of_begin? hbegin
    · cases h

theorem eq_of_newline_mem_first (h : some '\n' ∈ (first b).1) : b = 0x0A := by
  simp only [first] at h
  split at h
  · have hb := eq_of_ofNat_eq_newline (Option.some.inj (List.mem_singleton.mp h)).symm
    exact UInt8.toNat_inj.mp hb
  · split at h
    · cases h
    · cases List.mem_singleton.mp h

theorem wide_of_step (hbegun : ∀ begun' ∈ begun, begun'.Wide) {next : Begun}
    (h : next ∈ (step begun b).2) : next.Wide := by
  cases begun with
  | none => exact wide_of_first h
  | some begun =>
      have hwide := hbegun begun rfl
      simp only [step] at h
      split at h
      · rename_i hb
        have hlow : begun.low.toNat ≤ b.toNat := UInt8.le_iff_toNat_le.mp hb.1
        split at h
        · cases h
        · rename_i later hlater
          rw [← Option.mem_some_iff.mp h]
          refine ⟨Nat.le_refl _, ?_⟩
          have hzero : (0x80 : UInt8).toNat - 0x80 = 0 := rfl
          simp only [Begun.least, hzero, Nat.add_zero]
          -- no byte in the range gives less than the lowest one
          calc 0x80 ≤ begun.least := hwide.least
            _ = (begun.value * 64 + (begun.low.toNat - 0x80)) * 64 ^ (later + 1) := by
              rw [Begun.least, hlater]
            _ ≤ (begun.value * 64 + (b.toNat - 0x80)) * 64 ^ (later + 1) :=
              Nat.mul_le_mul_right _ (by omega)
            _ = ((begun.value * 64 + (b.toNat - 0x80)) * 64) * 64 ^ later := by
              rw [Nat.pow_succ', Nat.mul_assoc]
      · exact wide_of_first h

theorem eq_of_newline_mem_step (hbegun : ∀ begun' ∈ begun, begun'.Wide)
    (h : some '\n' ∈ (step begun b).1) : b = 0x0A := by
  cases begun with
  | none => exact eq_of_newline_mem_first h
  | some begun =>
      have hwide := hbegun begun rfl
      simp only [step] at h
      split at h
      · rename_i hb
        have hlow : begun.low.toNat ≤ b.toNat := UInt8.le_iff_toNat_le.mp hb.1
        split at h
        · rename_i hlater
          have hleast := hwide.least
          have hvalue := eq_of_ofNat_eq_newline (Option.some.inj (List.mem_singleton.mp h)).symm
          simp only [Begun.least, hlater, Nat.pow_zero, Nat.mul_one] at hleast
          omega
        · cases h
      · rcases List.mem_cons.mp h with hnone | hfirst
        · cases hnone
        · exact eq_of_newline_mem_first hfirst

section Newline

variable {line : List UInt8}

theorem parts_append_newline (hbegun : ∀ begun' ∈ begun, begun'.Wide) (rest : List UInt8) :
    parts begun (line ++ 0x0A :: rest) = parts begun line ++ some '\n' :: parts none rest := by
  induction line generalizing begun with
  | nil =>
      cases begun with
      | none => rfl
      | some begun =>
          have hlow : ¬ (begun.low ≤ 0x0A ∧ 0x0A ≤ begun.high) := by
            intro hrange
            have hle : begun.low.toNat ≤ 0x0A := UInt8.le_iff_toNat_le.mp hrange.1
            have := (hbegun begun rfl).low
            omega
          rw [List.nil_append, parts_cons, step, if_neg hlow]
          rfl
  | cons b line ih =>
      rw [List.cons_append, parts_cons, parts_cons, ih fun begun' h => wide_of_step hbegun h,
        List.append_assoc]

theorem newline_not_mem_parts (hbegun : ∀ begun' ∈ begun, begun'.Wide) (hline : 0x0A ∉ line) :
    some '\n' ∉ parts begun line := by
  induction line generalizing begun with
  | nil => cases begun <;> simp [parts]
  | cons b line ih =>
      rw [parts_cons, List.mem_append]
      rintro (hstep | hrest)
      · have hb := eq_of_newline_mem_step hbegun hstep
        exact hline (hb ▸ List.mem_cons_self)
      · refine ih (fun begun' h => wide_of_step hbegun h) ?_ hrest
        exact fun h => hline (List.mem_cons_of_mem _ h)

/-- What follows a newline is read as if nothing came before it. -/
theorem decodeLossy_append_newline (line rest : List UInt8) :
    decodeLossy (line ++ 0x0A :: rest) = decodeLossy line ++ '\n' :: decodeLossy rest := by
  have hparts : parts none (line ++ 0x0A :: rest) =
      parts none line ++ some '\n' :: parts none rest := parts_append_newline (by simp) rest
  rw [decodeLossy, hparts, List.map_append]
  rfl

theorem newline_not_mem_decodeLossy (hline : 0x0A ∉ line) : '\n' ∉ decodeLossy line := by
  rw [decodeLossy, List.mem_map]
  rintro ⟨part, hpart, hnewline⟩
  cases part with
  | none => cases hnewline
  | some c =>
      cases hnewline
      exact newline_not_mem_parts (by simp) hline hpart

/-- Where nothing is reported, a character is begun. -/
theorem isSome_of_step (h : (step begun b).1 = []) : (step begun b).2.isSome = true := by
  have hfirst (hnil : (first b).1 = []) : (first b).2.isSome = true := by
    unfold first at hnil ⊢
    split
    · simp_all
    · split <;> simp_all
  cases begun with
  | none => exact hfirst h
  | some begun =>
      simp only [step] at h ⊢
      split at h
      · split at h <;> simp_all
      · cases h

theorem parts_ne_nil (h : begun.isSome = true ∨ line ≠ []) : parts begun line ≠ [] := by
  induction line generalizing begun with
  | nil => cases begun <;> simp_all [parts]
  | cons b line ih =>
      rw [parts_cons]
      intro hnil
      obtain ⟨hstep, hrest⟩ := List.append_eq_nil_iff.mp hnil
      exact ih (.inl (isSome_of_step hstep)) hrest

theorem decodeLossy_ne_nil (hne : line ≠ []) : decodeLossy line ≠ [] := by
  rw [decodeLossy, ne_eq, List.map_eq_nil_iff]
  exact parts_ne_nil (.inr hne)

end Newline

end CompilerLog.Text.Utf8
