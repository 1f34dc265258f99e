import CompilerLog.Proofs.Files.Alike
import CompilerLog.Proofs.Files.Tree
import CompilerLog.Proofs.Properties.Associativity
import CompilerLog.Proofs.Properties.Content
import CompilerLog.Proofs.Properties.Document
/-!
# Storing an invocation

What storing does to the properties file depends on what the file stands for: nothing when it is
refused, nothing when the invocation is stored there already, and otherwise the merged content is
what the file is read as from then on. So an invocation that was stored is stored: storing it again
leaves every file as it is.
-/

namespace CompilerLog

namespace Target

variable {target : Target} {found : Invocation} {tree after : FileTree} {file : Option String}
variable {c : Content} {answer : Bool}

/-- The content with the invocation merged into it. -/
def merged (target : Target) (found : Invocation) (c : Content) : Content :=
  c.merge target.mode (.ofConfigurations [Configuration.ofInvocation target.name found])

theorem merged_merged (target : Target) (found : Invocation) (c : Content) :
    target.merged found (target.merged found c) = target.merged found c :=
  Content.merge_merge _ _ _

/-- The document that is written where the file stands for the given content. -/
def document (target : Target) (found : Invocation) (file : Option String) (c : Content) :
    Document :=
  ⟨some (target.merged found c), decide (file = none ∨ target.merged found c ≠ c)⟩

theorem pending?_document_of_changed (h : file = none ∨ target.merged found c ≠ c) :
    (target.document found file c).pending? = some (target.merged found c).toText := by
  rw [Document.pending?, document, if_pos (decide_eq_true h)]
  rfl

theorem pending?_document_of_unchanged (h : ¬(file = none ∨ target.merged found c ≠ c)) :
    (target.document found file c).pending? = none := by
  rw [Document.pending?, document, if_neg (by rw [decide_eq_false h]; exact Bool.false_ne_true)]

/-! ## What one storing does -/

theorem value_store_of_refused {error : DocumentError} {d : Document}
    (h : (Document.empty.read tree target.path).value = (.error error, d)) :
    (target.store found tree).value = (.error error, tree) := by
  rw [store, Logged.value_bind, h]
  rfl

theorem value_store_of_read {d : Document}
    (h : (Document.empty.read tree target.path).value = (.ok answer, d)) :
    (target.store found tree).value = Prod.map id Prod.snd
      ((d.merge target.mode (.ofConfigurations
        [Configuration.ofInvocation target.name found])).2.write tree target.path).value := by
  rw [store, Logged.value_bind, h]
  dsimp only
  split <;> rfl

theorem value_store (hfile : tree.Holds target.path file) (hc : Content.ofFile? file = some c) :
    (target.store found tree).value =
      Prod.map id Prod.snd ((target.document found file c).write tree target.path).value := by
  cases file with
  | none =>
    cases hc
    have hdocument : (Document.empty.merge target.mode
        (.ofConfigurations [Configuration.ofInvocation target.name found])).2 =
          target.document found none .empty := by
      rw [document, decide_eq_true (.inl rfl)]
      rfl
    rw [value_store_of_read (Document.value_read_none .empty hfile), hdocument]
  | some text =>
    have hdocument : (Document.merge ⟨some c, false⟩ target.mode
        (.ofConfigurations [Configuration.ofInvocation target.name found])).2 =
          target.document found (some text) c := by
      simp [Document.merge, document, merged]
    rw [value_store_of_read (Document.value_read_content .empty hfile hc), hdocument]

theorem value_store_of_unchanged (hfile : tree.Holds target.path file)
    (hc : Content.ofFile? file = some c) (h : ¬(file = none ∨ target.merged found c ≠ c)) :
    (target.store found tree).value = (.ok false, tree) := by
  rw [value_store hfile hc, Document.value_write_of_settled (pending?_document_of_unchanged h)]
  rfl

theorem value_store_of_written (hfile : tree.Holds target.path file)
    (hc : Content.ofFile? file = some c) (h : file = none ∨ target.merged found c ≠ c)
    (hwrite : tree.writeFile target.path (Text.Utf8.encode (target.merged found c).toText) =
      (.ok (), after)) :
    (target.store found tree).value = (.ok true, after) := by
  rw [value_store hfile hc, Document.value_write_of_written (pending?_document_of_changed h) hwrite]
  rfl

theorem value_store_of_failed {error : FileError} (hfile : tree.Holds target.path file)
    (hc : Content.ofFile? file = some c) (h : file = none ∨ target.merged found c ≠ c)
    (hwrite : tree.writeFile target.path (Text.Utf8.encode (target.merged found c).toText) =
      (.error error, after)) :
    (target.store found tree).value = (.error (.access target.path error), after) := by
  rw [value_store hfile hc, Document.value_write_of_failed (pending?_document_of_changed h) hwrite]
  rfl

/-- In trees that are alike but for a file other than the properties file the same is stored. -/
theorem store_alikeBut (target : Target) (found : Invocation) {names : List String}
    {tree' : FileTree} (h : tree.AlikeBut names tree')
    (hpath : tree.resolve target.path ≠ .ok names) :
    ∃ outcome after after', (target.store found tree).value = (outcome, after) ∧
      (target.store found tree').value = (outcome, after') ∧ after.AlikeBut names after' ∧
      ∀ written, outcome = .ok written →
        after'.readText target.path = after.readText target.path := by
  have hsame : Document.empty.read tree' target.path = Document.empty.read tree target.path := by
    rw [Document.read, Document.read, h.readText_eq hpath]
  cases hread : (Document.empty.read tree target.path).value with
  | mk loaded d =>
      cases loaded with
      | error error =>
          exact ⟨_, _, _, value_store_of_refused hread,
            value_store_of_refused (by rw [hsame, hread]), h, fun _ hok => by cases hok⟩
      | ok there =>
          have hread' : (Document.empty.read tree' target.path).value = (.ok there, d) :=
            hsame ▸ hread
          have hstore : (target.store found tree).value = _ := value_store_of_read hread
          have hstore' : (target.store found tree').value = _ := value_store_of_read hread'
          rw [hstore, hstore']
          cases hpending : (d.merge target.mode (.ofConfigurations
              [Configuration.ofInvocation target.name found])).2.pending? with
          | none =>
              rw [Document.value_write_of_settled hpending,
                Document.value_write_of_settled hpending]
              exact ⟨_, _, _, rfl, rfl, h, fun _ _ => h.readText_eq hpath⟩
          | some text =>
              obtain ⟨outcome, after, after', hwrite, hwrite', halike⟩ :=
                h.writeFile target.path (Text.Utf8.encode text)
              cases outcome with
              | error error =>
                  rw [Document.value_write_of_failed hpending hwrite,
                    Document.value_write_of_failed hpending hwrite']
                  exact ⟨_, _, _, rfl, rfl, halike, fun _ hok => by cases hok⟩
              | ok =>
                  rw [Document.value_write_of_written hpending hwrite,
                    Document.value_write_of_written hpending hwrite']
                  refine ⟨_, _, _, rfl, rfl, halike, fun _ _ => ?_⟩
                  rw [FileTree.readText_of_writeFile hwrite, FileTree.readText_of_writeFile hwrite']

theorem exists_ofFile?_of_store (h : (target.store found tree).value = (.ok answer, after)) :
    ∃ file c, tree.Holds target.path file ∧ Content.ofFile? file = some c := by
  cases hread : (Document.empty.read tree target.path).value with
  | mk outcome d =>
    cases outcome with
    | error error =>
      rw [value_store_of_refused hread] at h
      cases h
    | ok there => exact Document.exists_ofFile?_of_read hread

theorem holds_of_written
    (hwrite : tree.writeFile target.path (Text.Utf8.encode c.toText) = (.ok (), after)) :
    after.Holds target.path (some c.toText) ∧ Content.ofFile? (some c.toText) = some c :=
  ⟨FileTree.readText_of_writeFile hwrite, c.ofText?_toText⟩

/-- What storing an invocation does to the file. A text that stands for no content is refused and
kept. Otherwise the file is written when there is none, or when merging the invocation changes its
content; it is read as the merged content from then on. A file that is not written stays the same
to the last byte. Merging keeps the version and all configurations, their order included, other
than the first one of the name of the target. -/
theorem store_brings_invocation_into_file (target : Target) (found : Invocation)
    (hfile : tree.Holds target.path file) (hreplace : tree.Replaceable target.path) :
    (Content.ofFile? file = none → ∃ text, file = some text ∧
      (target.store found tree).value = (.error (.malformed target.path text), tree)) ∧
    ∀ c, Content.ofFile? file = some c →
      ∃ written after, (target.store found tree).value = (.ok written, after) ∧
        (written = true ↔ file = none ∨ target.merged found c ≠ c) ∧
        (written = false → after = tree) ∧
        (written = true → ∃ text, after.readText target.path = .ok text ∧
          Content.ofText? text = some (target.merged found c)) ∧
        (target.merged found c).version = c.version ∧
        Content.BroughtIn target.mode (Configuration.ofInvocation target.name found)
          c.configurations (target.merged found c).configurations := by
  constructor
  · intro hmalformed
    cases file with
    | none => cases hmalformed
    | some text =>
      exact ⟨text, rfl,
        value_store_of_refused (Document.value_read_malformed .empty hfile hmalformed)⟩
  · intro c hc
    have hkept : (target.merged found c).version = c.version := Content.version_merge _ _ _
    have hbrought : Content.BroughtIn target.mode (Configuration.ofInvocation target.name found)
        c.configurations (target.merged found c).configurations :=
      Content.broughtIn_mergeInto _ _ _
    by_cases hchanged : file = none ∨ target.merged found c ≠ c
    · have hok := hreplace (Text.Utf8.encode (target.merged found c).toText)
      cases hwrite : tree.writeFile target.path
          (Text.Utf8.encode (target.merged found c).toText) with
      | mk outcome after =>
        rw [hwrite] at hok
        cases hok
        obtain ⟨hread, htext⟩ := holds_of_written hwrite
        refine ⟨true, after, value_store_of_written hfile hc hchanged hwrite, ?_, ?_, ?_, hkept,
          hbrought⟩
        · exact iff_of_true rfl hchanged
        · exact fun h => nomatch h
        · exact fun _ => ⟨_, hread, htext⟩
    · refine ⟨false, tree, value_store_of_unchanged hfile hc hchanged, ?_, ?_, ?_, hkept,
        hbrought⟩
      · exact iff_of_false Bool.false_ne_true hchanged
      · exact fun _ => rfl
      · exact fun h => nomatch h

/-- A file of an older version with the entry "board" behind another one: its list is extended, and
everything else is read back as it was. -/
theorem store_brings_invocation_into_file_of_older_version :
    let text := "\x7b\"version\": 3, \"configurations\": [\x7b\"name\": \"host\"\x7d, " ++
      "\x7b\"name\": \"board\", \"defines\": [\"A\"]\x7d]\x7d"
    let tree := ((FileTree.empty ["work"]).writeFile "p.json" (Text.Utf8.encode text)).2
    let target : Target := ⟨"p.json", "board", .unique⟩
    let found : Invocation := { Invocation.empty with compiler := "g++", defines := ["B", "A"] }
    let host : Configuration := { Configuration.empty with name := "host" }
    let board : Configuration :=
      { Configuration.empty with
        name := "board", compilerPath := "g++", intelliSenseMode := "gcc-x64"
        defines := ["A", "B"] }
    tree.Holds target.path (some text) ∧ tree.Replaceable target.path ∧
      ∃ after text, (target.store found tree).value = (.ok true, after) ∧
        after.readText target.path = .ok text ∧ Content.ofText? text = some ⟨3, [host, board]⟩ := by
  intro text tree target found host board
  let stored : Configuration := { Configuration.empty with name := "board", defines := ["A"] }
  have hwritten : (FileTree.empty ["work"]).writeFile "p.json" (Text.Utf8.encode text) =
      (.ok (), tree) := by rfl
  have hholds : tree.Holds target.path (some text) := FileTree.readText_of_writeFile hwritten
  have hreplace : tree.Replaceable target.path := by
    have hrewrite (old bytes : List UInt8) : (((FileTree.empty ["work"]).writeFile "p.json"
        old).2.writeFile "p.json" bytes).1 = .ok () := by rfl
    exact hrewrite (Text.Utf8.encode text)
  have htext : Content.ofText? text = some ⟨3, [host, stored]⟩ := by decide
  have hmerged : target.merged found ⟨3, [host, stored]⟩ = ⟨3, [host, board]⟩ := by decide
  obtain ⟨written, after, hstore, hanswer, _, hread, _⟩ :=
    (store_brings_invocation_into_file target found hholds hreplace).2 _ htext
  rw [hmerged] at hanswer hread
  obtain rfl : written = true := hanswer.mpr (.inr (by decide))
  obtain ⟨new, hnew, hcontent⟩ := hread rfl
  exact ⟨hholds, hreplace, after, new, hstore, hnew, hcontent⟩

/-! ## Storing again and again -/

/-- The file stands for a content that holds the invocation already. -/
def Settled (target : Target) (found : Invocation) (tree : FileTree) : Prop :=
  ∃ text c, tree.Holds target.path (some text) ∧ Content.ofText? text = some c ∧
    target.merged found c = c

theorem settled_of_store (h : (target.store found tree).value = (.ok answer, after)) :
    target.Settled found after := by
  obtain ⟨file, c, hfile, hc⟩ := exists_ofFile?_of_store h
  -- a file that was written is read as the merged content, any other one stands for it already
  by_cases hchanged : file = none ∨ target.merged found c ≠ c
  · cases hwrite : tree.writeFile target.path
        (Text.Utf8.encode (target.merged found c).toText) with
    | mk outcome t =>
      cases outcome with
      | error error =>
        rw [value_store_of_failed hfile hc hchanged hwrite] at h
        cases h
      | ok =>
        rw [value_store_of_written hfile hc hchanged hwrite] at h
        cases h
        obtain ⟨hread, htext⟩ := holds_of_written hwrite
        exact ⟨_, _, hread, htext, merged_merged target found c⟩
  · rw [value_store_of_unchanged hfile hc hchanged] at h
    cases h
    obtain ⟨hpresent, hsame⟩ := not_or.mp hchanged
    obtain ⟨text, rfl⟩ := Option.ne_none_iff_exists'.mp hpresent
    exact ⟨text, c, hfile, hc, not_not.mp hsame⟩

theorem Settled.value_store (h : target.Settled found tree) :
    (target.store found tree).value = (.ok false, tree) := by
  obtain ⟨text, c, hfile, hc, hmerged⟩ := h
  refine value_store_of_unchanged hfile hc ?_
  rintro (habsent | hchanged)
  · cases habsent
  · exact hchanged hmerged

/-- Stores an invocation the given number of times: the answers in order, and the tree left. -/
def storeRepeatedly (target : Target) (found : Invocation) :
    Nat → FileTree → List (Except DocumentError Bool) × FileTree
  | 0, tree => ([], tree)
  | count + 1, tree =>
    let (answer, tree) := (target.store found tree).value
    let (answers, tree) := storeRepeatedly target found count tree
    (answer :: answers, tree)

theorem Settled.storeRepeatedly (h : target.Settled found tree) (count : Nat) :
    target.storeRepeatedly found count tree = (List.replicate count (.ok false), tree) := by
  induction count with
  | zero => rfl
  | succ count ih =>
    rw [Target.storeRepeatedly, h.value_store]
    simp only [ih, List.replicate_succ]

/-- An invocation that was stored is stored: storing it again, however often, answers that nothing
was written and leaves all files as they are. -/
theorem store_again_changes_nothing (target : Target) (found : Invocation)
    (h : (target.store found tree).value = (.ok answer, after)) :
    (target.store found after).value = (.ok false, after) ∧
    ∀ count, target.storeRepeatedly found count after =
      (List.replicate count (.ok false), after) :=
  have hsettled := settled_of_store h
  ⟨hsettled.value_store, hsettled.storeRepeatedly⟩

/-- The first storing makes the file, with a list in which an entry stands twice. -/
theorem store_again_changes_nothing_after_making_file :
    let tree := FileTree.empty ["work"]
    let target : Target := ⟨".vscode/p.json", "board", .keepOrder⟩
    let found : Invocation := { Invocation.empty with includes := ["inc", "lib", "inc"] }
    ∃ after, (target.store found tree).value = (.ok true, after) ∧
      (target.store found after).value = (.ok false, after) ∧
      ∀ count, target.storeRepeatedly found count after =
        (List.replicate count (.ok false), after) := by
  intro tree target found
  have hresolve : (FileTree.empty ["work"]).resolve ".vscode/p.json" = .error .notFound := by rfl
  have hwrite (bytes : List UInt8) : ∃ after,
      (FileTree.empty ["work"]).writeFile ".vscode/p.json" bytes = (.ok (), after) := ⟨_, rfl⟩
  obtain ⟨after, hwritten⟩ := hwrite (Text.Utf8.encode (target.merged found .empty).toText)
  have hstore : (target.store found tree).value = (.ok true, after) :=
    value_store_of_written (FileTree.holds_none_of_resolve hresolve) rfl (.inl rfl) hwritten
  exact ⟨after, hstore, store_again_changes_nothing target found hstore⟩

end Target

end CompilerLog
