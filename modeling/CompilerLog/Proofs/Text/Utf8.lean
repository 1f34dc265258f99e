import CompilerLog.Text.Utf8
import Mathlib.Tactic.IntervalCases
/-!
# Text survives its bytes

What is written as UTF-8 is read back character by character, so that a text that is stored as
bytes is the text that is read from them, whatever characters it has.
-/

namespace CompilerLog.Text.Utf8

theorem toList_loop (bytes : ByteArray) (i : Nat) (found : List UInt8) :
    ByteArray.toList.loop bytes i found = found.reverse ++ bytes.data.toList.drop i := by
  fun_induction ByteArray.toList.loop bytes i found with
  | case1 i found h ih =>
      have hi : i < bytes.data.toList.length := by simpa using h
      have hget : bytes.get! i = bytes.data.toList[i] := by
        cases bytes
        exact getElem!_pos _ _ (by simpa using hi)
      rw [ih, hget, List.reverse_cons, List.append_assoc, List.drop_eq_getElem_cons hi,
        List.singleton_append]
  | case2 i found h =>
      have hi : bytes.data.toList.length ≤ i := by simpa using h
      rw [List.drop_eq_nil_of_le hi, List.append_nil]

/-- The bytes of a text are those of its characters, in order. -/
theorem encode_eq (text : String) : encode text = text.toList.flatMap String.utf8EncodeChar := by
  rw [encode, ByteArray.toList, toList_loop, List.reverse_nil, List.nil_append, List.drop_zero,
    String.toUTF8_eq_toByteArray, ← String.utf8Encode_toList, List.utf8Encode,
    List.toList_data_toByteArray]

section Bytes

variable {n : Nat}

theorem toNat_ofNat (h : n < 0x100) : (UInt8.ofNat n).toNat = n :=
  UInt8.toNat_ofNat_of_lt h

theorem first_ofNat (h : n < 0x80) : first (UInt8.ofNat n) = ([some (Char.ofNat n)], none) := by
  have hn : (UInt8.ofNat n).toNat = n := toNat_ofNat (by omega)
  have hlow : UInt8.ofNat n < 0x80 := by
    rw [UInt8.lt_iff_toNat_lt, hn]
    exact h
  rw [first, if_pos hlow, hn]

/-- The first of two bytes. -/
theorem first_two (hlow : 0xC2 ≤ n) (hhigh : n ≤ 0xDF) :
    first (UInt8.ofNat n) = ([], some ⟨n - 0xC0, 0, 0x80, 0xBF⟩) := by
  interval_cases n <;> rfl

/-- The first of three bytes. The range of the second one leaves out what two bytes can write, and
the surrogates. -/
theorem first_three (hlow : 0xE0 ≤ n) (hhigh : n ≤ 0xEF) :
    ∃ low high : UInt8, first (UInt8.ofNat n) = ([], some ⟨n - 0xE0, 1, low, high⟩) ∧
      low.toNat = (if n = 0xE0 then 0xA0 else 0x80) ∧
      high.toNat = (if n = 0xED then 0x9F else 0xBF) := by
  interval_cases n <;> exact ⟨_, _, rfl, rfl, rfl⟩

/-- The first of four bytes. The range of the second one leaves out what three bytes can write, and
the values that are too large. -/
theorem first_four (hlow : 0xF0 ≤ n) (hhigh : n ≤ 0xF4) :
    ∃ low high : UInt8, first (UInt8.ofNat n) = ([], some ⟨n - 0xF0, 2, low, high⟩) ∧
      low.toNat = (if n = 0xF0 then 0x90 else 0x80) ∧
      high.toNat = (if n = 0xF4 then 0x8F else 0xBF) := by
  interval_cases n <;> exact ⟨_, _, rfl, rfl, rfl⟩

theorem step_ofNat {value later : Nat} {low high : UInt8} (hlow : low.toNat ≤ n)
    (hhigh : n ≤ high.toNat) :
    step (some ⟨value, later, low, high⟩) (UInt8.ofNat n) =
      match later with
      | 0 => ([some (Char.ofNat (value * 64 + (n - 0x80)))], none)
      | later + 1 => ([], some ⟨value * 64 + (n - 0x80), later, 0x80, 0xBF⟩) := by
  have hbyte := high.toNat_lt
  have hn : (UInt8.ofNat n).toNat = n := toNat_ofNat (by omega)
  have hrange : low ≤ UInt8.ofNat n ∧ UInt8.ofNat n ≤ high := by
    rw [UInt8.le_iff_toNat_le, UInt8.le_iff_toNat_le, hn]
    exact ⟨hlow, hhigh⟩
  cases later with
  | zero => simp only [step, if_pos hrange, hn]
  | succ later => simp only [step, if_pos hrange, hn]

theorem later_mem_range (n : Nat) :
    (0x80 : UInt8).toNat ≤ n % 64 + 0x80 ∧ n % 64 + 0x80 ≤ (0xBF : UInt8).toNat := by
  constructor
  · exact Nat.le_add_left _ _
  · change n % 64 + 0x80 ≤ 0xBF
    omega

end Bytes

section Parts

variable {v : Nat} (rest : List UInt8)

theorem parts_cons (begun : Option Begun) (b : UInt8) :
    parts begun (b :: rest) = (step begun b).1 ++ parts (step begun b).2 rest := by
  cases begun <;> rfl

theorem parts_one (hhigh : v ≤ 0x7F) :
    parts none (UInt8.ofNat v :: rest) = some (Char.ofNat v) :: parts none rest := by
  rw [parts_cons, step, first_ofNat (by omega)]
  rfl

theorem parts_two (hlow : 0x7F < v) (hhigh : v ≤ 0x7FF) :
    parts none (UInt8.ofNat (v / 64 % 32 + 0xC0) :: UInt8.ofNat (v % 64 + 0x80) :: rest) =
      some (Char.ofNat v) :: parts none rest := by
  have hvalue : (v / 64 % 32 + 0xC0 - 0xC0) * 64 + (v % 64 + 0x80 - 0x80) = v := by omega
  have hlast := later_mem_range v
  rw [parts_cons, step, first_two (by omega) (by omega), List.nil_append, parts_cons,
    step_ofNat hlast.1 hlast.2, hvalue]
  rfl

theorem parts_three (hlow : 0x7FF < v) (hhigh : v ≤ 0xFFFF) (hvalid : v < 0xD800 ∨ 0xDFFF < v) :
    parts none (UInt8.ofNat (v / 4096 % 16 + 0xE0) :: UInt8.ofNat (v / 64 % 64 + 0x80) ::
      UInt8.ofNat (v % 64 + 0x80) :: rest) = some (Char.ofNat v) :: parts none rest := by
  obtain ⟨low, high, hfirst, hleast, hgreatest⟩ :=
    first_three (n := v / 4096 % 16 + 0xE0) (by omega) (by omega)
  have hsecond : low.toNat ≤ v / 64 % 64 + 0x80 ∧ v / 64 % 64 + 0x80 ≤ high.toNat := by
    rw [hleast, hgreatest]
    constructor
    · split <;> omega
    · split <;> omega
  have hlast := later_mem_range v
  have hvalue : ((v / 4096 % 16 + 0xE0 - 0xE0) * 64 + (v / 64 % 64 + 0x80 - 0x80)) * 64 +
      (v % 64 + 0x80 - 0x80) = v := by omega
  rw [parts_cons, step, hfirst, List.nil_append, parts_cons, step_ofNat hsecond.1 hsecond.2,
    List.nil_append, parts_cons, step_ofNat hlast.1 hlast.2, hvalue]
  rfl

theorem parts_four (hlow : 0xFFFF < v) (hhigh : v < 0x110000) :
    parts none (UInt8.ofNat (v / 262144 % 8 + 0xF0) :: UInt8.ofNat (v / 4096 % 64 + 0x80) ::
      UInt8.ofNat (v / 64 % 64 + 0x80) :: UInt8.ofNat (v % 64 + 0x80) :: rest) =
      some (Char.ofNat v) :: parts none rest := by
  obtain ⟨low, high, hfirst, hleast, hgreatest⟩ :=
    first_four (n := v / 262144 % 8 + 0xF0) (by omega) (by omega)
  have hsecond : low.toNat ≤ v / 4096 % 64 + 0x80 ∧ v / 4096 % 64 + 0x80 ≤ high.toNat := by
    rw [hleast, hgreatest]
    constructor
    · split <;> omega
    · split <;> omega
  have hthird := later_mem_range (v / 64)
  have hlast := later_mem_range v
  have hvalue : (((v / 262144 % 8 + 0xF0 - 0xF0) * 64 + (v / 4096 % 64 + 0x80 - 0x80)) * 64 +
      (v / 64 % 64 + 0x80 - 0x80)) * 64 + (v % 64 + 0x80 - 0x80) = v := by omega
  rw [parts_cons, step, hfirst, List.nil_append, parts_cons, step_ofNat hsecond.1 hsecond.2,
    List.nil_append, parts_cons, step_ofNat hthird.1 hthird.2, List.nil_append, parts_cons,
    step_ofNat hlast.1 hlast.2, hvalue]
  rfl

/-- The bytes of a character are read as that character, whatever follows them. -/
theorem parts_utf8EncodeChar (c : Char) :
    parts none (String.utf8EncodeChar c ++ rest) = some c :: parts none rest := by
  have hvalid : c.toNat < 0xD800 ∨ 0xDFFF < c.toNat ∧ c.toNat < 0x110000 := c.valid
  have hc := Char.ofNat_toNat c
  have htoNat : c.val.toNat = c.toNat := rfl
  simp only [String.utf8EncodeChar, htoNat]
  generalize c.toNat = v at *
  split
  · next hone =>
      exact hc ▸ parts_one rest hone
  split
  · next hone htwo =>
      exact hc ▸ parts_two rest (Nat.not_le.mp hone) htwo
  split
  · next htwo hthree =>
      exact hc ▸ parts_three rest (Nat.not_le.mp htwo) hthree (by omega)
  · next hthree =>
      exact hc ▸ parts_four rest (Nat.not_le.mp hthree) (by omega)

end Parts

/-- A text is read back from its bytes. -/
theorem decode?_encode (text : String) : decode? (encode text) = some text.toList := by
  have hparts (l : List Char) : parts none (l.flatMap String.utf8EncodeChar) = l.map some := by
    induction l with
    | nil => rfl
    | cons c l ih => rw [List.flatMap_cons, parts_utf8EncodeChar, ih, List.map_cons]
  rw [decode?, encode_eq, hparts, List.mapM_map]
  exact (List.mapM_pure (f := id)).trans (congrArg some (List.map_id _))

end CompilerLog.Text.Utf8
