import CompilerLog.Proofs.Gcc.Expansion
import Mathlib.Data.List.Lex
/-!
# Files mentioned by a line

A line mentions the response files that its arguments name, and what those files mention. The
mentions form a tree, which has no end where files mention each other, and each has its place in
it: places are compared like words in a dictionary, so that a smaller place comes first when the
files are expanded depth first and from left to right.
-/

namespace CompilerLog.Gcc

/-- The response files that arguments name, in order. -/
def references (arguments : List String) : List String := (parts arguments).filterMap Part.path?

/-- A file that is named while others are open, the outermost first. -/
structure Mention where
  /-- The number of each open file among those that its line or file names, and that of the file
  itself. -/
  place : List Nat
  opened : List String
  path : String

namespace Mention

def first (path : String) : Mention := ⟨[0], [], path⟩

/-- The mention seen from the line that names `outer` first. -/
def inside (outer : String) (m : Mention) : Mention := ⟨0 :: m.place, outer :: m.opened, m.path⟩

/-- The mention seen from one file before it. -/
def later (m : Mention) : Mention := { m with place := m.place.modifyHead (· + 1) }

def question (stack : List String) (m : Mention) : Question := ⟨stack ++ m.opened, m.path⟩

@[simp] theorem place_first (path : String) : (first path).place = [0] := rfl
@[simp] theorem opened_first (path : String) : (first path).opened = [] := rfl
@[simp] theorem path_first (path : String) : (first path).path = path := rfl
@[simp] theorem place_inside (outer : String) (m : Mention) :
    (m.inside outer).place = 0 :: m.place := rfl
@[simp] theorem opened_inside (outer : String) (m : Mention) :
    (m.inside outer).opened = outer :: m.opened := rfl
@[simp] theorem path_inside (outer : String) (m : Mention) : (m.inside outer).path = m.path := rfl
@[simp] theorem path_later (m : Mention) : m.later.path = m.path := rfl

theorem inside_injective (outer : String) : Function.Injective (inside outer) := by
  rintro ⟨place, opened, path⟩ ⟨place', opened', path'⟩ h
  simpa [inside] using h

theorem later_injective : Function.Injective later := by
  rintro ⟨place, opened, path⟩ ⟨place', opened', path'⟩ h
  cases place <;> cases place' <;> simp_all [later]

theorem later_lt_later {m n : Mention} : m.later.place < n.later.place ↔ m.place < n.place := by
  obtain ⟨place, _, _⟩ := m
  obtain ⟨place', _, _⟩ := n
  cases place <;> cases place' <;> simp [later, List.cons_lt_cons_iff]

theorem inside_lt_inside {outer outer' : String} {m n : Mention} :
    (m.inside outer).place < (n.inside outer').place ↔ m.place < n.place := by
  simp

end Mention

/-- What a list of files mentions, where a file is looked into only if it can be read. -/
inductive Mentions (reader : TextReader) : List String → Mention → Prop
  | first {path rest} : Mentions reader (path :: rest) (.first path)
  | inside {outer text rest m} (hread : reader outer = .ok text) :
      Mentions reader (references (argumentsOf text)) m →
      Mentions reader (outer :: rest) (m.inside outer)
  | later {outer rest m} : Mentions reader rest m → Mentions reader (outer :: rest) m.later

/-- Why a file is not entered, where the files `opened` are being expanded. -/
inductive Refused (reader : TextReader) (opened : List String) (path : String) :
    ExpansionError → Prop
  | cycle : Path.components path ∈ opened.map Path.components →
      Refused reader opened path (.cycle path)
  | tooDeep : Path.components path ∉ opened.map Path.components → 32 ≤ opened.length →
      Refused reader opened path (.tooDeep path)
  | unreadable {cause} : Path.components path ∉ opened.map Path.components →
      opened.length < 32 → reader path = .error cause →
      Refused reader opened path (.unreadable path cause)

variable {reader : TextReader} {stack rest : List String} {path : String} {m n : Mention}

theorem Refused.unique {error error' : ExpansionError} (h : Refused reader stack path error)
    (h' : Refused reader stack path error') : error' = error := by
  cases h with
  | cycle hcycle =>
      cases h' with
      | cycle _ => rfl
      | tooDeep hfree _ => exact absurd hcycle hfree
      | unreadable hfree _ _ => exact absurd hcycle hfree
  | tooDeep hfree hdepth =>
      cases h' with
      | cycle hcycle => exact absurd hcycle hfree
      | tooDeep _ _ => rfl
      | unreadable _ hroom _ => omega
  | unreadable hfree hroom hread =>
      cases h' with
      | cycle hcycle => exact absurd hcycle hfree
      | tooDeep _ hdepth => omega
      | unreadable _ _ hread' => cases hread.symm.trans hread'; rfl

theorem not_refused (hadmits : Admits stack path) {text : String} (hread : reader path = .ok text)
    (error : ExpansionError) : ¬ Refused reader stack path error := by
  rintro (hcycle | ⟨_, hdepth⟩ | ⟨_, _, hunreadable⟩)
  · exact hadmits.2 hcycle
  · exact absurd hadmits.1 (Nat.not_lt_of_le hdepth)
  · cases hread.symm.trans hunreadable

namespace Mentions

theorem place_ne_nil {paths : List String} (h : Mentions reader paths m) : m.place ≠ [] := by
  induction h with
  | first => simp
  | inside _ _ _ => simp
  | later _ ih => simpa [Mention.later] using ih

theorem singleton_iff : Mentions reader [path] m ↔ m = .first path ∨
    ∃ text n, reader path = .ok text ∧ Mentions reader (references (argumentsOf text)) n ∧
      m = n.inside path := by
  constructor
  · intro h
    cases h with
    | first => exact .inl rfl
    | inside hread h => exact .inr ⟨_, _, hread, h, rfl⟩
    | later h => cases h
  · rintro (rfl | ⟨text, n, hread, h, rfl⟩)
    · exact .first
    · exact .inside hread h

theorem cons_iff : Mentions reader (path :: rest) m ↔ Mentions reader [path] m ∨
    ∃ n, Mentions reader rest n ∧ m = n.later := by
  constructor
  · intro h
    cases h with
    | first => exact .inl .first
    | inside hread h => exact .inl (.inside hread h)
    | later h => exact .inr ⟨_, h, rfl⟩
  · rintro (h | ⟨n, h, rfl⟩)
    · rcases singleton_iff.mp h with rfl | ⟨text, n, hread, hn, rfl⟩
      · exact .first
      · exact .inside hread hn
    · exact .later h

theorem lt_later (hm : Mentions reader [path] m) (hn : Mentions reader rest n) :
    m.place < n.later.place := by
  obtain ⟨place, _, _⟩ := n
  cases place with
  | nil => exact absurd rfl hn.place_ne_nil
  | cons i place =>
      rcases singleton_iff.mp hm with rfl | ⟨_, _, _, _, rfl⟩
      · simp [Mention.later, List.cons_lt_cons_iff]
      · simp [Mention.later, List.cons_lt_cons_iff]

theorem not_lt_first (hm : Mentions reader [path] m) (outer : String) :
    ¬ m.place < (Mention.first outer).place := by
  rcases singleton_iff.mp hm with rfl | ⟨_, _, _, _, rfl⟩
  · simp
  · simp

theorem first_lt_inside {paths : List String} (hm : Mentions reader paths m) (outer : String) :
    (Mention.first path).place < (m.inside outer).place := by
  obtain ⟨place, _, _⟩ := m
  cases place with
  | nil => exact absurd rfl hm.place_ne_nil
  | cons i place => simp

theorem eq_of_place {paths : List String} (hm : Mentions reader paths m)
    (hn : Mentions reader paths n) (h : m.place = n.place) : m = n := by
  have hne {outer : String} {rest : List String} {m n : Mention}
      (hm : Mentions reader [outer] m) (hn : Mentions reader rest n) :
      m.place ≠ n.later.place := fun heq => List.lt_irrefl _ (heq ▸ lt_later hm hn)
  induction hm generalizing n with
  | first =>
      rcases cons_iff.mp hn with hfirst | ⟨n, hlater, rfl⟩
      · rcases singleton_iff.mp hfirst with rfl | ⟨_, n, _, hinner, rfl⟩
        · rfl
        · exact absurd (List.cons.inj h).2.symm hinner.place_ne_nil
      · exact absurd h (hne .first hlater)
  | @inside outer text rest m hread hm ih =>
      rcases cons_iff.mp hn with hfirst | ⟨n, hlater, rfl⟩
      · rcases singleton_iff.mp hfirst with rfl | ⟨text', n, hread', hinner, rfl⟩
        · exact absurd (List.cons.inj h).2 hm.place_ne_nil
        · cases hread.symm.trans hread'
          rw [ih hinner (List.cons.inj h).2]
      · exact absurd h (hne (.inside hread hm) hlater)
  | @later outer rest m hm ih =>
      rcases cons_iff.mp hn with hfirst | ⟨n, hlater, rfl⟩
      · exact absurd h.symm (hne hfirst hm)
      · have hplace : m.place = n.place := by
          rcases lt_trichotomy m.place n.place with hlt | heq | hlt
          · exact absurd h (ne_of_lt (Mention.later_lt_later.mpr hlt))
          · exact heq
          · exact absurd h.symm (ne_of_lt (Mention.later_lt_later.mpr hlt))
        rw [ih hlater hplace]

end Mentions

end CompilerLog.Gcc
