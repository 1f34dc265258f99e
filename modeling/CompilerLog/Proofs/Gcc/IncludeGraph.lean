import CompilerLog.Proofs.Gcc.FirstRefusal
import Mathlib.Data.List.Chain
import Mathlib.Logic.Relation
/-!
# The graph of response files

A file includes those that it names. A line can be read if the files that it reaches are readable,
none of them includes itself through others, and no more than 32 of them are on one way. How often
a file is named does not matter.
-/

namespace CompilerLog.Gcc

def Includes (reader : TextReader) (path next : String) : Prop :=
  ∃ text, reader path = .ok text ∧ next ∈ references (argumentsOf text)

/-- A file is named by a line, or by a file that is reached from it. -/
def Reaches (reader : TextReader) (paths : List String) (path : String) : Prop :=
  ∃ first ∈ paths, Relation.ReflTransGen (Includes reader) first path

/-- A way through the files that a line reaches. -/
def Way (reader : TextReader) (paths files : List String) : Prop :=
  (∀ file ∈ files.head?, file ∈ paths) ∧ files.IsChain (Includes reader)

/-- No file that a line reaches includes itself, not even through others. Paths with the same
components count as one file. -/
def Acyclic (reader : TextReader) (paths : List String) : Prop :=
  ∀ file next, Reaches reader paths file → Relation.TransGen (Includes reader) file next →
    Path.components file ≠ Path.components next

/-- Files of which each names the next one and no other, as the line does the first. -/
def Linked (reader : TextReader) : List String → List String → Prop
  | paths, [] => paths = []
  | paths, file :: files => file ∈ paths ∧ (∀ path ∈ paths, path = file) ∧
    ∃ text, reader file = .ok text ∧ Linked reader (references (argumentsOf text)) files

/-- Both readers can read the same files, and what a file names for `other` it names for `reader`
too, in whichever order and however often. -/
def NamesWithin (reader other : TextReader) : Prop := ∀ path,
  (∃ text text', reader path = .ok text ∧ other path = .ok text' ∧
    references (argumentsOf text') ⊆ references (argumentsOf text)) ∨
  ∃ cause cause', reader path = .error cause ∧ other path = .error cause'

namespace Mentions

variable {reader other : TextReader} {paths : List String} {m : Mention}

theorem ne_nil (h : Mentions reader paths m) : paths ≠ [] := by
  cases h <;> exact List.cons_ne_nil _ _

theorem reaches (h : Mentions reader paths m) : Reaches reader paths m.path := by
  induction h with
  | first => exact ⟨_, List.mem_cons_self, .refl⟩
  | inside hread _ ih =>
      obtain ⟨next, hnext, hpath⟩ := ih
      exact ⟨_, List.mem_cons_self, .head ⟨_, hread, hnext⟩ hpath⟩
  | later _ ih =>
      obtain ⟨next, hnext, hpath⟩ := ih
      exact ⟨next, List.mem_cons_of_mem _ hnext, hpath⟩

/-- A file that is open includes what it mentions, at least through others. -/
theorem of_mem_opened (h : Mentions reader paths m) {file : String} (hfile : file ∈ m.opened) :
    Reaches reader paths file ∧ Relation.TransGen (Includes reader) file m.path := by
  induction h with
  | first => cases hfile
  | inside hread hm ih =>
      rcases List.mem_cons.mp hfile with rfl | hfile
      · obtain ⟨next, hnext, hpath⟩ := hm.reaches
        exact ⟨⟨_, List.mem_cons_self, .refl⟩, .head' ⟨_, hread, hnext⟩ hpath⟩
      · obtain ⟨⟨next, hnext, hreaches⟩, hpath⟩ := ih hfile
        exact ⟨⟨_, List.mem_cons_self, .head ⟨_, hread, hnext⟩ hreaches⟩, hpath⟩
  | later _ ih =>
      obtain ⟨⟨next, hnext, hreaches⟩, hpath⟩ := ih hfile
      exact ⟨⟨next, List.mem_cons_of_mem _ hnext, hreaches⟩, hpath⟩

theorem way (h : Mentions reader paths m) : Way reader paths (m.opened ++ [m.path]) := by
  induction h with
  | first => exact ⟨by simp, .singleton _⟩
  | @inside outer text rest m hread _ ih =>
      obtain ⟨hhead, hchain⟩ := ih
      refine ⟨by simp, ?_⟩
      rw [Mention.opened_inside, Mention.path_inside, List.cons_append]
      refine List.isChain_cons.mpr ⟨fun next hnext => ?_, hchain⟩
      exact ⟨text, hread, hhead next hnext⟩
  | later _ ih =>
      obtain ⟨hhead, hchain⟩ := ih
      exact ⟨fun file hfile => List.mem_cons_of_mem _ (hhead file hfile), hchain⟩

theorem length_place (h : Mentions reader paths m) : m.place.length = m.opened.length + 1 := by
  induction h with
  | first => rfl
  | inside _ _ ih => simp [ih]
  | later _ ih => simpa [Mention.later] using ih

theorem of_linked (h : Mentions reader paths m) {files : List String}
    (hfiles : Linked reader paths files) : ∃ more, files = m.opened ++ m.path :: more := by
  induction h generalizing files with
  | first =>
      cases files with
      | nil => cases hfiles
      | cons file files =>
          obtain ⟨_, hfile, _⟩ := hfiles
          exact ⟨files, by simp [hfile _ List.mem_cons_self]⟩
  | inside hread _ ih =>
      cases files with
      | nil => cases hfiles
      | cons file files =>
          obtain ⟨_, hfile, text, hread', hlinked⟩ := hfiles
          obtain rfl := hfile _ List.mem_cons_self
          cases hread.symm.trans hread'
          obtain ⟨more, hmore⟩ := ih hlinked
          exact ⟨more, by simp [hmore]⟩
  | @later outer rest m hm ih =>
      cases files with
      | nil => cases hfiles
      | cons file files =>
          obtain ⟨_, hfile, hlinked⟩ := hfiles
          obtain ⟨path, rest, rfl⟩ := List.exists_cons_of_ne_nil hm.ne_nil
          obtain rfl : path = file := hfile _ (.tail _ (.head _))
          exact ih ⟨List.mem_cons_self, fun path hpath => hfile path (.tail _ hpath), hlinked⟩

/-- What a file mentions is mentioned wherever the file is named. -/
theorem of_mem {path : String} (hpath : path ∈ paths) (h : Mentions reader [path] m) :
    ∃ n, Mentions reader paths n ∧ n.opened = m.opened ∧ n.path = m.path := by
  induction hpath with
  | head => exact ⟨m, cons_iff.mpr (.inl h), rfl, rfl⟩
  | tail _ _ ih =>
      obtain ⟨n, hn, hopened, hpath⟩ := ih
      exact ⟨n.later, .later hn, hopened, hpath⟩

theorem of_namesWithin (h : Mentions other paths m) (hother : NamesWithin reader other)
    {more : List String} (hmore : paths ⊆ more) :
    ∃ n, Mentions reader more n ∧ n.opened = m.opened ∧ n.path = m.path := by
  induction h generalizing more with
  | first => exact of_mem (hmore List.mem_cons_self) .first
  | @inside outer text' rest m hread _ ih =>
      rcases hother outer with ⟨text, other', hread', hother', hnames⟩ | ⟨_, cause, _, hother'⟩
      · cases hread.symm.trans hother'
        obtain ⟨n, hn, hopened, hpath⟩ := ih hnames
        obtain ⟨n', hn', hopened', hpath'⟩ :=
          of_mem (hmore List.mem_cons_self) (.inside hread' hn)
        exact ⟨n', hn', by simp [hopened', hopened], by simp [hpath', hpath]⟩
      · cases hread.symm.trans hother'
  | later _ ih => exact ih fun _ hpath => hmore (List.mem_cons_of_mem _ hpath)

end Mentions

section ReadLine

variable {reader : TextReader} {d : DirectoryOptions} {line : String}

theorem outcome_isOk_of_namesWithin {other : TextReader} {shorter : String}
    (hother : NamesWithin reader other)
    (hshorter : references (argumentsOf shorter) ⊆ references (argumentsOf line))
    (h : ∃ found, (readLine reader d line).value.outcome = .ok found) :
    ∃ found, (readLine other d shorter).value.outcome = .ok found := by
  rw [outcome_isOk_iff] at h ⊢
  intro m hm error hrefused
  obtain ⟨n, hn, hopened, hpath⟩ := hm.of_namesWithin hother hshorter
  have hentered := h n hn
  rw [hopened, hpath] at hentered
  cases hrefused with
  | cycle hcycle => exact hentered _ (.cycle hcycle)
  | tooDeep hfree hdepth => exact hentered _ (.tooDeep hfree hdepth)
  | unreadable hfree hroom hread =>
      rcases hother m.path with ⟨_, _, _, hread', _⟩ | ⟨cause, _, hcause, _⟩
      · cases hread.symm.trans hread'
      · exact hentered _ (.unreadable hfree hroom hcause)

/-- Files that do not include themselves, none of them more than 32 deep, can all be read. -/
theorem outcome_isOk_of_acyclic
    (hreadable : ∀ file, Reaches reader (references (argumentsOf line)) file →
      ∃ text, reader file = .ok text)
    (hacyclic : Acyclic reader (references (argumentsOf line)))
    (hdepth : ∀ files, Way reader (references (argumentsOf line)) files → files.length ≤ 32) :
    ∃ found, (readLine reader d line).value.outcome = .ok found := by
  rw [outcome_isOk_iff]
  intro m hm
  obtain ⟨text, hread⟩ := hreadable m.path hm.reaches
  have hroom : m.opened.length < 32 := by
    have hlength := hdepth _ hm.way
    rw [List.length_append, List.length_singleton] at hlength
    omega
  refine not_refused ⟨hroom, fun hopened => ?_⟩ hread
  obtain ⟨file, hfile, heq⟩ := List.mem_map.mp hopened
  obtain ⟨hreaches, hpath⟩ := hm.of_mem_opened hfile
  exact hacyclic file m.path hreaches hpath heq

theorem Linked.readable {paths files : List String} (h : Linked reader paths files)
    {file : String} (hfile : file ∈ files) : ∃ text, reader file = .ok text := by
  induction files generalizing paths with
  | nil => cases hfile
  | cons first files ih =>
      obtain ⟨_, _, text, hread, hlinked⟩ := h
      rcases List.mem_cons.mp hfile with rfl | hfile
      · exact ⟨text, hread⟩
      · exact ih hlinked hfile

theorem Linked.exists_mention {paths opened more : List String} {path : String}
    (h : Linked reader paths (opened ++ path :: more)) :
    ∃ m, Mentions reader paths m ∧ m.place = List.replicate (opened.length + 1) 0 ∧
      m.opened = opened ∧ m.path = path := by
  induction opened generalizing paths with
  | nil =>
      obtain ⟨hmem, hpaths, _⟩ := h
      obtain ⟨first, rest, rfl⟩ := List.exists_cons_of_ne_nil (List.ne_nil_of_mem hmem)
      obtain rfl : first = path := hpaths _ List.mem_cons_self
      exact ⟨.first first, .first, rfl, rfl, rfl⟩
  | cons outer opened ih =>
      obtain ⟨hmem, hpaths, text, hread, hlinked⟩ := h
      obtain ⟨first, rest, rfl⟩ := List.exists_cons_of_ne_nil (List.ne_nil_of_mem hmem)
      obtain rfl : first = outer := hpaths _ List.mem_cons_self
      obtain ⟨m, hm, hplace, rfl, rfl⟩ := ih hlinked
      exact ⟨m.inside first, .inside hread hm, by simp [hplace, List.replicate_succ], rfl, rfl⟩

theorem length_lt_of_lt_replicate {place : List Nat} {n : Nat}
    (h : place < List.replicate n 0) : place.length < n := by
  induction n generalizing place with
  | zero => exact absurd h (List.not_lt_nil _)
  | succ n ih =>
      cases place with
      | nil => exact Nat.succ_pos n
      | cons i place =>
          rw [List.replicate_succ, List.cons_lt_cons_iff] at h
          rcases h with hi | ⟨_, hplace⟩
          · exact absurd hi (Nat.not_lt_zero i)
          · exact Nat.succ_lt_succ (ih hplace)

theorem Linked.not_cycle {paths files : List String} (h : Linked reader paths files)
    (hfiles : (files.map Path.components).Nodup) {m : Mention} (hm : Mentions reader paths m) :
    Path.components m.path ∉ m.opened.map Path.components := by
  intro hopened
  obtain ⟨more, rfl⟩ := hm.of_linked h
  rw [List.map_append, List.map_cons] at hfiles
  exact (List.nodup_append.mp hfiles).2.2 _ hopened _ List.mem_cons_self rfl

/-- Different linked files are not refused unless they are too deep. -/
theorem Linked.not_refused {paths files : List String} (h : Linked reader paths files)
    (hfiles : (files.map Path.components).Nodup) {m : Mention} (hm : Mentions reader paths m)
    (hroom : m.opened.length < 32) (error : ExpansionError) :
    ¬ Refused reader m.opened m.path error := by
  have hmem : m.path ∈ files := by
    obtain ⟨more, rfl⟩ := hm.of_linked h
    exact List.mem_append_right _ List.mem_cons_self
  obtain ⟨text, hread⟩ := h.readable hmem
  exact Gcc.not_refused ⟨hroom, h.not_cycle hfiles hm⟩ hread error

theorem Linked.outcome_isOk {files : List String}
    (h : Linked reader (references (argumentsOf line)) files)
    (hfiles : (files.map Path.components).Nodup) (hlength : files.length ≤ 32) :
    ∃ found, (readLine reader d line).value.outcome = .ok found := by
  rw [outcome_isOk_iff]
  intro m hm
  refine h.not_refused hfiles hm ?_
  obtain ⟨more, rfl⟩ := hm.of_linked h
  rw [List.length_append, List.length_cons] at hlength
  omega

/-- Of more than 32 linked files the 33rd is the first that is refused: what comes before it is
less deep. -/
theorem Linked.outcome_eq_tooDeep {files : List String}
    (h : Linked reader (references (argumentsOf line)) files)
    (hfiles : (files.map Path.components).Nodup) (hlength : 32 < files.length) :
    (readLine reader d line).value.outcome = .error (.tooDeep files[32]) := by
  have hsplit : files = files.take 32 ++ files[32] :: files.drop 33 := by
    rw [List.getElem_cons_drop, List.take_append_drop]
  have htake : (files.take 32).length = 32 := List.length_take_of_le (Nat.le_of_lt hlength)
  obtain ⟨m, hm, hplace, hopened, hpath⟩ := Linked.exists_mention (hsplit ▸ h)
  refine (outcome_eq_error_iff reader d line _).mpr ⟨m, hm, ?_, fun n hn hlt => ?_⟩
  · rw [← hpath]
    exact .tooDeep (h.not_cycle hfiles hm) (by rw [hopened, htake])
  · refine h.not_refused hfiles hn ?_
    -- No place is smaller than one of zeros but those that are shorter.
    rw [hplace, htake] at hlt
    have hshort := length_lt_of_lt_replicate hlt
    rw [hn.length_place] at hshort
    omega

end ReadLine

/-- Reading a line fails at the first response file that is refused, where the files come depth
first and from left to right, and asks for none behind it. How often a file is named does not
matter, files without cycles can be read where they are not more than 32 deep, and of linked files
the 33rd is the one that is too deep. -/
theorem readLine_fails_at_first_refused (reader : TextReader) (d : DirectoryOptions)
    (line : String) :
    let paths := references (argumentsOf line)
    let outcome := (readLine reader d line).value.outcome
    (∀ error, outcome = .error error ↔ ∃ m, FirstRefused reader paths m error) ∧
    ((∃ error, outcome = .error error) ↔
      ∃ m error, Mentions reader paths m ∧ Refused reader m.opened m.path error) ∧
    (∃ asked : List Mention, asked.Pairwise (fun m n => m.place < n.place) ∧
      (∀ m, m ∈ asked ↔ Mentions reader paths m ∧ ∀ n error, FirstRefused reader paths n error →
        m.place < n.place ∨ m = n ∧ ∃ cause, error = .unreadable m.path cause) ∧
      (∀ levels result t, Returns (fun _ => reader) (.line (parts (argumentsOf line)) .empty)
        (.start d) levels result t → t.questions = asked.map fun m => ⟨m.opened, m.path⟩) ∧
      ∀ other : TextReader, (∀ m ∈ asked, other m.path = reader m.path) →
        (readLine other d line).value = (readLine reader d line).value) ∧
    (∀ other shorter, NamesWithin reader other → references (argumentsOf shorter) ⊆ paths →
      (∃ found, outcome = .ok found) →
        ∃ found, (readLine other d shorter).value.outcome = .ok found) ∧
    ((∀ file, Reaches reader paths file → ∃ text, reader file = .ok text) →
      Acyclic reader paths → (∀ files, Way reader paths files → files.length ≤ 32) →
        ∃ found, outcome = .ok found) ∧
    ∀ files, Linked reader paths files → (files.map Path.components).Nodup →
      (files.length ≤ 32 → ∃ found, outcome = .ok found) ∧
      ∀ _ : 32 < files.length, outcome = .error (.tooDeep files[32]) := by
  intro paths outcome
  refine ⟨outcome_eq_error_iff reader d line, ?_, ?_, ?_, ?_, ?_⟩
  · constructor
    · rintro ⟨error, h⟩
      obtain ⟨m, hm⟩ := (outcome_eq_error_iff reader d line error).mp h
      exact ⟨m, error, hm.mentions, hm.refused⟩
    · rintro ⟨m, error, hm, hrefused⟩
      cases houtcome : outcome with
      | ok found =>
          exact absurd hrefused ((outcome_isOk_iff reader d line).mp ⟨found, houtcome⟩ m hm error)
      | error error' => exact ⟨error', rfl⟩
  · obtain ⟨asked, hordered, hmem, hquestions⟩ := exists_asked_readLine reader d line
    refine ⟨asked, hordered, hmem, hquestions, fun other hother => ?_⟩
    obtain ⟨levels, result, t, h, hvalue⟩ := exists_returns_readLine reader d line
    have hagrees (q : Question) (hq : q ∈ t.questions) : other q.path = reader q.path := by
      rw [hquestions _ _ _ h] at hq
      obtain ⟨m, hm, rfl⟩ := List.mem_map.mp hq
      exact hother m hm
    rw [hvalue, readLine_of_returns (h.congr hagrees)]
  · intro other shorter hother hshorter h
    exact outcome_isOk_of_namesWithin hother hshorter h
  · intro hreadable hacyclic hdepth
    exact outcome_isOk_of_acyclic hreadable hacyclic hdepth
  · intro files hlinked hfiles
    exact ⟨hlinked.outcome_isOk hfiles, hlinked.outcome_eq_tooDeep hfiles⟩

end CompilerLog.Gcc
