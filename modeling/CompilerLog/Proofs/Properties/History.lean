import CompilerLog.Proofs.Files.Tree
import CompilerLog.Proofs.Properties.Content
import CompilerLog.Proofs.Properties.Document
import Mathlib.Data.List.Induction
/-!
# No update is lost

A document is read, merged into and written in any order, each time with the files as they are by
then, and any of it can fail. A call settles a content if it has read it from a file, or has brought
it into one. As long as a document does not count as changed it holds what was settled last, and one
that was changed counts as changed until something is settled.
-/

namespace CompilerLog.Document

/-- What is done to a document, with the files as they are by then. -/
inductive Call where
  | read (tree : FileTree) (path : String)
  | merge (mode : MergeMode) (incoming : Content)
  | write (tree : FileTree) (path : String)

/-- The document behind a call. -/
def perform (d : Document) : Call → Document
  | .read tree path => (d.read tree path).value.2
  | .merge mode incoming => (d.merge mode incoming).2
  | .write tree path => (d.write tree path).value.2.1

def performAll (d : Document) (calls : List Call) : Document :=
  calls.foldl perform d

/-- The call has read the content from a file, or has written a file that stands for it. -/
def Settles (d : Document) (call : Call) (c : Content) : Prop :=
  match call with
  | .read tree path => (d.read tree path).value.1 = .ok true ∧ tree.StandsFor path c
  | .merge _ _ => False
  | .write tree path =>
    (d.write tree path).value.1 = .ok true ∧ (d.write tree path).value.2.2.StandsFor path c

/-- None of the calls, made one after the other, settles anything. -/
def NothingSettled (d : Document) : List Call → Prop
  | [] => True
  | call :: rest => (∀ c, ¬d.Settles call c) ∧ NothingSettled (d.perform call) rest

variable {d : Document} {tree : FileTree} {path : String} {calls : List Call} {call : Call}

/-! ## One reading, one writing -/

theorem read_iff_settles :
    (d.read tree path).value.1 = .ok true ↔ ∃ c, d.Settles (.read tree path) c := by
  constructor
  · intro hanswer
    have hreads := d.reads tree path
    generalize hended : (d.read tree path).value = ended at hanswer hreads
    cases hreads with
    | absent _ => cases hanswer
    | @loaded c hfile => exact ⟨c, by rw [hended], hfile⟩
    | refused error => cases hanswer
  · rintro ⟨c, hanswer, _⟩
    exact hanswer

theorem eq_of_read (h : (d.read tree path).value.1 ≠ .ok true) :
    (d.read tree path).value.2 = d := by
  have hreads := d.reads tree path
  generalize (d.read tree path).value = ended at h hreads ⊢
  cases hreads with
  | absent _ => rfl
  | loaded _ => exact absurd rfl h
  | refused _ => rfl

theorem eq_of_write_error {error : DocumentError} {saved : Document} {after : FileTree}
    (h : (d.write tree path).value = (.error error, saved, after)) : saved = d := by
  have hwrites := d.writes tree path
  rw [h] at hwrites
  cases hwrites with
  | refused _ _ => rfl

theorem exists_text_of_write {saved : Document} {after : FileTree}
    (h : (d.write tree path).value = (.ok true, saved, after)) :
    ∃ text c, d.content = some c ∧ Content.ofText? text = some c ∧
      tree.writeFile path (Text.Utf8.encode text) = (.ok (), after) ∧
      after.Holds path (some text) ∧ saved = ⟨some c, false⟩ := by
  have hwrites := d.writes tree path
  rw [h] at hwrites
  cases hwrites with
  | @replaced c _ hd hwrite =>
    have hfile : after.Holds path (some c.toText) := FileTree.readText_of_writeFile hwrite
    exact ⟨c.toText, c, by rw [hd], c.ofText?_toText, hwrite, hfile, rfl⟩

theorem write_iff_settles :
    (d.write tree path).value.1 = .ok true ↔ ∃ c, d.Settles (.write tree path) c := by
  constructor
  · intro hanswer
    cases hended : (d.write tree path).value with
    | mk answer rest =>
      obtain ⟨saved, after⟩ := rest
      obtain rfl : answer = .ok true := by rwa [hended] at hanswer
      obtain ⟨text, c, _, htext, _, hfile, _⟩ := exists_text_of_write hended
      exact ⟨c, by rw [hended], by rw [hended]; exact ⟨text, hfile, htext⟩⟩
  · rintro ⟨c, hanswer, _⟩
    exact hanswer

theorem fst_write_ne_false (c : Content) :
    ((⟨some c, true⟩ : Document).write tree path).value.1 ≠ .ok false := by
  have hwrites := writes ⟨some c, true⟩ tree path
  generalize ((⟨some c, true⟩ : Document).write tree path).value = ended at hwrites ⊢
  cases hwrites with
  | unneeded hpending => cases hpending
  | replaced _ _ => exact fun h => nomatch h
  | refused _ _ => exact fun h => nomatch h

/-! ## What a call leaves -/

/-- How a call leaves a document: with what it has settled, as it was, or changed. -/
inductive Leaves (d : Document) (call : Call) : Document → Prop
  | settled {c : Content} (h : d.Settles call c) : Leaves d call ⟨some c, false⟩
  | untouched (h : ∀ c, ¬d.Settles call c) : Leaves d call d
  | changed {c : Content} (h : ∀ c, ¬d.Settles call c) : Leaves d call ⟨some c, true⟩

theorem leaves_read (d : Document) (tree : FileTree) (path : String) :
    d.Leaves (.read tree path) (d.read tree path).value.2 := by
  have hsettles {c : Content} : d.Settles (.read tree path) c ↔
      (d.read tree path).value.1 = .ok true ∧ tree.StandsFor path c := Iff.rfl
  have hreads := d.reads tree path
  generalize (d.read tree path).value = ended at hsettles hreads ⊢
  cases hreads with
  | absent _ => exact .untouched fun c h => nomatch (hsettles.mp h).1
  | loaded hfile => exact .settled (hsettles.mpr ⟨rfl, hfile⟩)
  | refused error => exact .untouched fun c h => nomatch (hsettles.mp h).1

theorem leaves_write (d : Document) (tree : FileTree) (path : String) :
    d.Leaves (.write tree path) (d.write tree path).value.2.1 := by
  have hsettles {c : Content} : d.Settles (.write tree path) c ↔
      (d.write tree path).value.1 = .ok true ∧
        (d.write tree path).value.2.2.StandsFor path c := Iff.rfl
  have hwrites := d.writes tree path
  generalize (d.write tree path).value = ended at hsettles hwrites ⊢
  cases hwrites with
  | unneeded _ => exact .untouched fun c h => nomatch (hsettles.mp h).1
  | replaced _ hwrite =>
    have hfile := FileTree.readText_of_writeFile hwrite
    exact .settled (hsettles.mpr ⟨rfl, _, hfile, Content.ofText?_toText _⟩)
  | refused error after => exact .untouched fun c h => nomatch (hsettles.mp h).1

theorem leaves_perform (d : Document) (call : Call) : d.Leaves call (d.perform call) := by
  cases call with
  | read tree path => exact d.leaves_read tree path
  | merge mode incoming =>
    have hnothing : ∀ c, ¬d.Settles (.merge mode incoming) c := fun _ h => h
    rcases d.merge_cases mode incoming with hsame | ⟨c, hchanged⟩
    · rw [perform, hsame]
      exact .untouched hnothing
    · rw [perform, hchanged]
      exact .changed hnothing
  | write tree path => exact d.leaves_write tree path

theorem Settles.unique {c other : Content} (h : d.Settles call c) (h' : d.Settles call other) :
    other = c := by
  cases call with
  | read tree path => exact h.2.unique h'.2
  | merge mode incoming => exact h.elim
  | write tree path => exact h.2.unique h'.2

theorem Settles.perform_eq {c : Content} (h : d.Settles call c) :
    d.perform call = ⟨some c, false⟩ := by
  have hleaves := d.leaves_perform call
  generalize d.perform call = left at hleaves ⊢
  cases hleaves with
  | settled hsettles => rw [h.unique hsettles]
  | untouched hnothing => exact absurd h (hnothing c)
  | changed hnothing => exact absurd h (hnothing c)

/-! ## Calls one after the other -/

theorem performAll_append (d : Document) (calls more : List Call) :
    d.performAll (calls ++ more) = (d.performAll calls).performAll more :=
  List.foldl_append

theorem performAll_concat (d : Document) (calls : List Call) (call : Call) :
    d.performAll (calls ++ [call]) = (d.performAll calls).perform call :=
  performAll_append d calls [call]

theorem NothingSettled.concat (h : d.NothingSettled calls)
    (hcall : ∀ c, ¬(d.performAll calls).Settles call c) : d.NothingSettled (calls ++ [call]) := by
  induction calls generalizing d with
  | nil => exact ⟨hcall, trivial⟩
  | cons first rest ih => exact ⟨h.1, ih h.2 hcall⟩

/-- The content is the one that was settled last. -/
def LastSettled (calls : List Call) (c : Content) : Prop :=
  ∃ before call behind, calls = before ++ call :: behind ∧
    (empty.performAll before).Settles call c ∧
    (empty.performAll (before ++ [call])).NothingSettled behind

theorem lastSettled_concat {c : Content} (h : (empty.performAll calls).Settles call c) :
    LastSettled (calls ++ [call]) c :=
  ⟨calls, call, [], rfl, h, trivial⟩

theorem LastSettled.concat {c : Content} (h : LastSettled calls c)
    (hcall : ∀ c, ¬(empty.performAll calls).Settles call c) : LastSettled (calls ++ [call]) c := by
  obtain ⟨before, settling, behind, rfl, hsettles, hbehind⟩ := h
  refine ⟨before, settling, behind ++ [call], by simp, hsettles, hbehind.concat ?_⟩
  rwa [← performAll_append, List.append_assoc]

/-- What a document that does not count as changed holds. -/
theorem lastSettled_of_unchanged (calls : List Call)
    (h : (empty.performAll calls).changed = false) :
    (empty.performAll calls).content = none ∨
      ∃ c, (empty.performAll calls).content = some c ∧ LastSettled calls c := by
  induction calls using List.reverseRecOn with
  | nil => exact .inl rfl
  | append_singleton calls call ih =>
    rw [performAll_concat] at h ⊢
    have hleaves := (empty.performAll calls).leaves_perform call
    generalize (empty.performAll calls).perform call = left at h hleaves ⊢
    cases hleaves with
    | settled hsettles => exact .inr ⟨_, rfl, lastSettled_concat hsettles⟩
    | untouched hnothing =>
      rcases ih h with hnone | ⟨c, hcontent, hlast⟩
      · exact .inl hnone
      · exact .inr ⟨c, hcontent, hlast.concat hnothing⟩
    | changed _ => cases h

theorem changed_of_nothingSettled (hd : d.changed = true) (h : d.NothingSettled calls) :
    (d.performAll calls).changed = true := by
  induction calls generalizing d with
  | nil => exact hd
  | cons call rest ih =>
    obtain ⟨hcall, hrest⟩ := h
    have hchanged : (d.perform call).changed = true := by
      have hleaves := d.leaves_perform call
      generalize d.perform call = left at hleaves ⊢
      cases hleaves with
      | settled hsettles => exact absurd hsettles (hcall _)
      | untouched _ => exact hd
      | changed _ => rfl
    exact ih hchanged hrest

/-- A document that counts as changed has something to write. -/
theorem exists_content_of_changed (calls : List Call)
    (h : (empty.performAll calls).changed = true) :
    ∃ c, empty.performAll calls = ⟨some c, true⟩ := by
  induction calls using List.reverseRecOn with
  | nil => cases h
  | append_singleton calls call ih =>
    rw [performAll_concat] at h ⊢
    have hleaves := (empty.performAll calls).leaves_perform call
    generalize (empty.performAll calls).perform call = left at h hleaves ⊢
    cases hleaves with
    | settled _ => cases h
    | untouched _ => exact ih h
    | changed _ => exact ⟨_, rfl⟩

/-- Whatever was done to a document before: as long as it does not count as changed, it holds what
was settled last, if it holds anything. Once a merge has changed it, it counts as changed until
something is settled, and no writing passes it over. What reading or writing answers tells whether
something was settled. A reading that fails or finds no file, and a writing that fails, leave the
document as it is. A file that was written stands for the content of the document. -/
theorem no_update_is_lost (calls : List Call) :
    let d := empty.performAll calls
    (d.changed = false → d.content = none ∨ ∃ c, d.content = some c ∧ LastSettled calls c) ∧
    (∀ before mode incoming behind, calls = before ++ .merge mode incoming :: behind →
      ((empty.performAll before).merge mode incoming).1 = true →
      ((empty.performAll before).merge mode incoming).2.NothingSettled behind →
      d.changed = true) ∧
    (d.changed = true → ∀ tree path, (d.write tree path).value.1 ≠ .ok false) ∧
    (∀ tree path, (d.read tree path).value.1 = .ok true ↔ ∃ c, d.Settles (.read tree path) c) ∧
    (∀ tree path, (d.write tree path).value.1 = .ok true ↔ ∃ c, d.Settles (.write tree path) c) ∧
    (∀ tree path, (d.read tree path).value.1 ≠ .ok true → (d.read tree path).value.2 = d) ∧
    (∀ tree path, tree.Holds path none → (d.read tree path).value = (.ok false, d)) ∧
    (∀ tree path error saved after, (d.write tree path).value = (.error error, saved, after) →
      saved = d) ∧
    ∀ tree path saved after, (d.write tree path).value = (.ok true, saved, after) →
      ∃ text c, d.content = some c ∧ Content.ofText? text = some c ∧
        tree.writeFile path (Text.Utf8.encode text) = (.ok (), after) ∧
        after.Holds path (some text) ∧ saved = ⟨some c, false⟩ := by
  intro d
  refine ⟨lastSettled_of_unchanged calls, ?_, ?_, fun _ _ => read_iff_settles,
    fun _ _ => write_iff_settles, fun _ _ => eq_of_read, fun _ _ => d.value_read_none,
    fun _ _ _ _ _ => eq_of_write_error, fun _ _ _ _ => exists_text_of_write⟩
  · intro before mode incoming behind hcalls hanswer hnothing
    have hchanged : ((empty.performAll before).merge mode incoming).2.changed = true := by
      rw [changed_merge, hanswer, Bool.or_true]
    have hd : d = ((empty.performAll before).merge mode incoming).2.performAll behind := by
      show empty.performAll calls = _
      rw [hcalls, performAll_append]
      rfl
    rw [hd]
    exact changed_of_nothingSettled hchanged hnothing
  · intro hchanged tree path
    obtain ⟨c, hd⟩ := exists_content_of_changed calls hchanged
    show ((empty.performAll calls).write tree path).value.1 ≠ .ok false
    rw [hd]
    exact fst_write_ne_false c

/-- A merge that is followed by reading where no file is and by writing where a directory is, and
in the end by writing a file. -/
theorem no_update_is_lost_though_writing_fails :
    let c := Content.ofConfigurations [{ Configuration.empty with name := "board" }]
    let tree := FileTree.empty ["work"]
    let failing : List Call := [.read tree "p.json", .write tree "."]
    let calls := .merge .unique c :: failing
    (empty.merge .unique c).1 = true ∧ (empty.merge .unique c).2.NothingSettled failing ∧
      (empty.performAll calls).changed = true ∧
      (empty.performAll (calls ++ [.write tree "p.json"])).changed = false ∧
      LastSettled (calls ++ [.write tree "p.json"]) c := by
  intro c tree failing calls
  let d : Document := ⟨some c, true⟩
  have hread : (d.read tree "p.json").value.1 = .ok false := by rfl
  have hrefused : (d.write tree ".").value.1 =
      .error (.access "." (.ofSystem .resourceBusy)) := by rfl
  have hnothing : (empty.merge .unique c).2.NothingSettled failing := by
    refine ⟨fun _ h => ?_, fun _ h => ?_, trivial⟩
    · exact nomatch hread.symm.trans h.1
    · exact nomatch hrefused.symm.trans h.1
  obtain ⟨_, hchanged, _⟩ := no_update_is_lost calls
  obtain ⟨hunchanged, _⟩ := no_update_is_lost (calls ++ [.write tree "p.json"])
  have hsaved : empty.performAll (calls ++ [.write tree "p.json"]) = ⟨some c, false⟩ := by rfl
  refine ⟨rfl, hnothing, hchanged [] .unique c failing rfl rfl hnothing, ?_⟩
  rw [hsaved] at hunchanged ⊢
  obtain hnone | ⟨last, hlast, hsettled⟩ := hunchanged rfl
  · cases hnone
  · cases hlast
    exact ⟨rfl, hsettled⟩

end CompilerLog.Document
