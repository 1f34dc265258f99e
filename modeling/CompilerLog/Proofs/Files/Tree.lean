import CompilerLog.Files.Tree
import CompilerLog.Proofs.Text.Utf8
/-!
# A written file is read back

A path is followed through directories only, so what stands where the path ends, unless it is a
directory itself, plays no part in following it. A file put there is found by the same path.
-/

namespace CompilerLog.FileTree

open Text (Utf8.encode Utf8.decode?_encode)

variable {t after : FileTree} {path : String} {names : List String} {bytes : List UInt8}

@[simp] theorem working_put (t : FileTree) (names : List String) (node : FileNode) :
    (t.put names node).working = t.working := rfl

theorem follow_put {start : List String} {pieces : List (List Char)}
    (h : t.follow start pieces = .ok names) (hend : t.node? names ≠ some .directory)
    (node : FileNode) : (t.put names node).follow start pieces = .ok names := by
  induction pieces generalizing start with
  | nil => exact h
  | cons piece rest ih =>
    simp only [follow] at h ⊢
    cases hstart : t.node? start with
    | none =>
      rw [hstart] at h
      cases h
    | some found =>
      rw [hstart] at h
      cases found with
      | file bytes executable => cases h
      | directory =>
        -- what a step leaves is a directory, so it is not where the path ends
        have hne : start ≠ names := by
          rintro rfl
          exact hend hstart
        rw [node?_put_of_ne t node hne, hstart]
        exact ih h

theorem resolve_put (h : t.resolve path = .ok names) (hend : t.node? names ≠ some .directory)
    (node : FileNode) : (t.put names node).resolve path = .ok names := by
  simp only [resolve] at h ⊢
  split at h
  · cases h
  split at h
  · cases h
  rw [if_neg (by assumption), if_neg (by assumption)]
  split at h
  · rw [if_pos (by assumption)]
    exact follow_put h hend node
  · rw [if_neg (by assumption), working_put]
    exact follow_put h hend node

/-- What replacing a file does where it succeeds. -/
theorem exists_put_of_replaceFile (h : t.replaceFile path bytes = .ok after) :
    ∃ names, t.resolve path = .ok names ∧ t.node? names ≠ some .directory ∧
      after = t.put names (.file bytes false) := by
  simp only [replaceFile] at h
  split at h
  · cases h
  split at h
  · cases h
  split at h
  iterate 3 cases h
  split at h
  · cases h
  rename_i names hresolve
  split at h
  · cases h
  rename_i hend
  cases h
  exact ⟨names, hresolve, hend, rfl⟩

theorem readBytes_of_replaceFile (h : t.replaceFile path bytes = .ok after) :
    after.readBytes path = .ok bytes := by
  obtain ⟨names, hresolve, hend, rfl⟩ := exists_put_of_replaceFile h
  have hnames : names ≠ [] := by
    rintro rfl
    exact hend rfl
  have hfound : (t.put names (.file bytes false)).find path = .ok (.file bytes false) := by
    simp only [find, resolve_put hresolve hend, node?_put_self t _ hnames]
  rw [readBytes, hfound]

theorem readBytes_of_writeFile (h : t.writeFile path bytes = (.ok (), after)) :
    after.readBytes path = .ok bytes := by
  simp only [writeFile] at h
  split at h
  · cases h
  split at h
  · cases h
  rename_i hreplace
  cases h
  exact readBytes_of_replaceFile hreplace

theorem readText_of_writeFile {text : String}
    (h : t.writeFile path (Utf8.encode text) = (.ok (), after)) :
    after.readText path = .ok text := by
  rw [readText, readBytes_of_writeFile h]
  simp only [Utf8.decode?_encode, String.ofList_toList]

end CompilerLog.FileTree
