import CompilerLog.Properties.Document
/-!
# Reading and writing documents

One lemma for each way in which reading or writing a document can end. Reading is told by what the
path holds, writing by the text that is to be written.
-/

namespace CompilerLog

/-- What a path leads to, as far as reading it tells: no file, or one with the given text. -/
def FileTree.Holds (tree : FileTree) (path : String) : Option String → Prop
  | none => ∃ error, tree.readText path = .error error ∧ error.kind = .notFound
  | some text => tree.readText path = .ok text

/-- Any bytes can be written where the path leads to. -/
def FileTree.Replaceable (tree : FileTree) (path : String) : Prop :=
  ∀ bytes, (tree.writeFile path bytes).1 = .ok ()

/-- The content that a file stands for. No file stands for the empty content. -/
def Content.ofFile? : Option String → Option Content
  | none => some .empty
  | some text => Content.ofText? text

/-- The file that a path leads to stands for a content. -/
def FileTree.StandsFor (tree : FileTree) (path : String) (c : Content) : Prop :=
  ∃ text, tree.Holds path (some text) ∧ Content.ofText? text = some c

theorem FileTree.holds_none_of_resolve {tree : FileTree} {path : String}
    (h : tree.resolve path = .error .notFound) : tree.Holds path none :=
  ⟨.ofSystem .notFound, by simp only [readText, readBytes, find, h], rfl⟩

theorem FileTree.StandsFor.unique {tree : FileTree} {path : String} {c other : Content}
    (h : tree.StandsFor path c) (h' : tree.StandsFor path other) : other = c := by
  obtain ⟨text, hfile, htext⟩ := h
  obtain ⟨text', hfile', htext'⟩ := h'
  obtain rfl : text = text' := Except.ok.inj (hfile.symm.trans hfile')
  exact Option.some.inj (htext'.symm.trans htext)

namespace Document

variable {d loaded : Document} {tree after : FileTree} {path text : String} {answer : Bool}

theorem value_read_none (d : Document) (h : tree.Holds path none) :
    (d.read tree path).value = (.ok false, d) := by
  obtain ⟨error, hread, hkind⟩ := h
  rw [read, hread, load, if_pos hkind]
  rfl

theorem value_read_malformed (d : Document) (h : tree.Holds path (some text))
    (htext : Content.ofText? text = none) :
    (d.read tree path).value = (.error (.malformed path text), d) := by
  have hread : tree.readText path = .ok text := h
  rw [read, hread, load, htext]
  rfl

theorem value_read_content {c : Content} (d : Document) (h : tree.Holds path (some text))
    (htext : Content.ofText? text = some c) :
    (d.read tree path).value = (.ok true, ⟨some c, false⟩) := by
  have hread : tree.readText path = .ok text := h
  rw [read, hread, load, htext]
  rfl

theorem exists_ofFile?_of_read (h : (d.read tree path).value = (.ok answer, loaded)) :
    ∃ file c, tree.Holds path file ∧ Content.ofFile? file = some c := by
  rw [read] at h
  cases hread : tree.readText path with
  | error error =>
    rw [hread, load] at h
    split at h
    · rename_i hkind
      exact ⟨none, .empty, ⟨error, hread, hkind⟩, rfl⟩
    · cases h
  | ok text =>
    rw [hread, load] at h
    cases hcontent : Content.ofText? text with
    | none =>
      rw [hcontent] at h
      cases h
    | some c => exact ⟨some text, c, hread, hcontent⟩

theorem value_write_of_settled (h : d.pending? = none) :
    (d.write tree path).value = (.ok false, d, tree) := by
  rw [write, h]
  rfl

theorem value_write_of_unchanged (h : d.changed = false) :
    (d.write tree path).value = (.ok false, d, tree) := by
  apply value_write_of_settled
  rw [pending?, h]
  rfl

theorem value_write_of_written (h : d.pending? = some text)
    (hwrite : tree.writeFile path (Text.Utf8.encode text) = (.ok (), after)) :
    (d.write tree path).value = (.ok true, { d with changed := false }, after) := by
  rw [write, h]
  simp only [hwrite]
  rfl

theorem value_write_of_failed {error : FileError} (h : d.pending? = some text)
    (hwrite : tree.writeFile path (Text.Utf8.encode text) = (.error error, after)) :
    (d.write tree path).value = (.error (.access path error), d, after) := by
  rw [write, h]
  simp only [hwrite]
  rfl

/-- How reading a document can end: what it answers, and the document it leaves. -/
inductive Reads (d : Document) (tree : FileTree) (path : String) :
    Except DocumentError Bool × Document → Prop
  | absent (h : tree.Holds path none) : Reads d tree path (.ok false, d)
  | loaded {c : Content} (h : tree.StandsFor path c) : Reads d tree path (.ok true, ⟨some c, false⟩)
  | refused (error : DocumentError) : Reads d tree path (.error error, d)

theorem reads (d : Document) (tree : FileTree) (path : String) :
    d.Reads tree path (d.read tree path).value := by
  cases hread : tree.readText path with
  | error error =>
    by_cases hkind : error.kind = .notFound
    · have habsent : tree.Holds path none := ⟨error, hread, hkind⟩
      rw [value_read_none d habsent]
      exact .absent habsent
    · rw [read, hread, load, if_neg hkind]
      exact .refused _
  | ok text =>
    have hholds : tree.Holds path (some text) := hread
    cases htext : Content.ofText? text with
    | none =>
      rw [value_read_malformed d hholds htext]
      exact .refused _
    | some c =>
      rw [value_read_content d hholds htext]
      exact .loaded ⟨text, hholds, htext⟩

/-- How writing a document can end: what it answers, and the document and the files it leaves. -/
inductive Writes (d : Document) (tree : FileTree) (path : String) :
    Except DocumentError Bool × Document × FileTree → Prop
  | unneeded (h : d.pending? = none) : Writes d tree path (.ok false, d, tree)
  | replaced {c : Content} {after : FileTree} (hd : d = ⟨some c, true⟩)
      (hwrite : tree.writeFile path (Text.Utf8.encode c.toText) = (.ok (), after)) :
      Writes d tree path (.ok true, ⟨some c, false⟩, after)
  | refused (error : DocumentError) (after : FileTree) :
      Writes d tree path (.error error, d, after)

theorem exists_of_pending? (h : d.pending? = some text) :
    ∃ c, d = ⟨some c, true⟩ ∧ text = c.toText := by
  obtain ⟨_ | c, _ | _⟩ := d
  iterate 3 cases h
  exact ⟨c, rfl, (Option.some.inj h).symm⟩

theorem writes (d : Document) (tree : FileTree) (path : String) :
    d.Writes tree path (d.write tree path).value := by
  cases hpending : d.pending? with
  | none =>
    rw [value_write_of_settled hpending]
    exact .unneeded hpending
  | some text =>
    obtain ⟨c, hd, rfl⟩ := exists_of_pending? hpending
    cases hwrite : tree.writeFile path (Text.Utf8.encode c.toText) with
    | mk outcome after =>
      cases outcome with
      | error error =>
        rw [value_write_of_failed hpending hwrite]
        exact .refused _ _
      | ok =>
        rw [value_write_of_written hpending hwrite, hd]
        exact .replaced rfl hwrite

/-! ## What merging answers -/

section
variable (d : Document) (mode : MergeMode) (incoming : Content)

theorem fst_merge :
    (d.merge mode incoming).1 = decide ((d.merge mode incoming).2.content ≠ d.content) := by
  obtain ⟨_ | c, changed⟩ := d <;> simp [merge]

theorem changed_merge :
    (d.merge mode incoming).2.changed = (d.changed || (d.merge mode incoming).1) := by
  obtain ⟨_ | c, changed⟩ := d <;> simp [merge]

/-- A merge either leaves the document as it is, or leaves it changed, and answers which. -/
theorem merge_cases :
    d.merge mode incoming = (false, d) ∨ ∃ c, d.merge mode incoming = (true, ⟨some c, true⟩) := by
  obtain ⟨_ | c, changed⟩ := d
  · exact .inr ⟨incoming, rfl⟩
  · by_cases hmerged : c.merge mode incoming = c
    · left
      simp [merge, hmerged]
    · right
      exact ⟨c.merge mode incoming, by simp [merge, hmerged]⟩

end

end Document

end CompilerLog
