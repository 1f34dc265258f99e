import CompilerLog.Proofs.Files.Tree
/-!
# Trees that are alike but for one file

Two trees may differ in what is written in one file. What is done to other files succeeds in both or
in neither and leaves the trees alike, since a path leads the same way in both: what is written in a
file plays no part in following it.
-/

namespace CompilerLog.FileTree

def IsFile (t : FileTree) (names : List String) : Prop :=
  ∃ bytes executable, t.node? names = some (.file bytes executable)

/-- Two trees that differ at most in the file that the given names lead to. -/
structure AlikeBut (names : List String) (t t' : FileTree) : Prop where
  working : t'.working = t.working
  elsewhere : ∀ other, other ≠ names → t'.node? other = t.node? other
  isFile : t.IsFile names
  isFile' : t'.IsFile names

theorem node?_put (t : FileTree) (names other : List String) (node : FileNode)
    (h : other ≠ []) : (t.put names node).node? other =
      if other = names then some node else t.node? other := by
  split
  · rename_i heq
    subst heq
    exact node?_put_self t node h
  · rename_i hne
    exact node?_put_of_ne t node hne

theorem IsFile.put {t : FileTree} {names other : List String} {node : FileNode}
    (h : t.IsFile names)
    (hother : other = names → ∃ bytes executable, node = .file bytes executable) :
    (t.put other node).IsFile names := by
  obtain ⟨bytes, executable, hfile⟩ := h
  have hne : names ≠ [] := by
    rintro rfl
    cases hfile
  rw [IsFile, node?_put _ _ _ _ hne]
  split
  · rename_i heq
    obtain ⟨_, _, rfl⟩ := hother heq.symm
    exact ⟨_, _, rfl⟩
  · exact ⟨_, _, hfile⟩

/-- What comes of a directory that cannot be made: it may be there already. -/
def settle (t : FileTree) (path : String) (failure : FileFailure) :
    Except FileFailure Unit × FileTree :=
  if t.isDirectory path then (.ok (), t) else (.error failure, t)

theorem makeDirectories_cons (t : FileTree) (component : Path.Component)
    (above : List Path.Component) :
    t.makeDirectories (component :: above) =
      let path := Path.ofComponents (component :: above).reverse
      match t.makeDirectory path with
      | .ok made => (.ok (), made)
      | .error .notFound =>
        match t.makeDirectories above with
        | (.error failure, t) => (.error failure, t)
        | (.ok (), t) =>
          match t.makeDirectory path with
          | .ok made => (.ok (), made)
          | .error failure => t.settle path failure
      | .error failure => t.settle path failure := rfl

theorem alikeBut_put (t : FileTree) {names : List String} (h : names ≠ [])
    (bytes bytes' : List UInt8) :
    AlikeBut names (t.put names (.file bytes false)) (t.put names (.file bytes' false)) where
  working := rfl
  elsewhere other hother := by rw [node?_put_of_ne t _ hother, node?_put_of_ne t _ hother]
  isFile := ⟨bytes, false, node?_put_self t _ h⟩
  isFile' := ⟨bytes', false, node?_put_self t _ h⟩

namespace AlikeBut

variable {names : List String} {t t' : FileTree} {path : String}

/-- A node is the same in both trees, or a file in both. -/
theorem node?_cases (h : AlikeBut names t t') (other : List String) :
    t'.node? other = t.node? other ∨ ∃ bytes executable bytes' executable',
      t.node? other = some (.file bytes executable) ∧
      t'.node? other = some (.file bytes' executable') := by
  by_cases hother : other = names
  · obtain ⟨_, _, hfile⟩ := h.isFile
    obtain ⟨_, _, hfile'⟩ := h.isFile'
    exact .inr ⟨_, _, _, _, hother ▸ hfile, hother ▸ hfile'⟩
  · exact .inl (h.elsewhere other hother)

theorem isDirectory_iff (h : AlikeBut names t t') (other : List String) :
    t'.node? other = some .directory ↔ t.node? other = some .directory := by
  rcases h.node?_cases other with hsame | ⟨_, _, _, _, hfile, hfile'⟩
  · rw [hsame]
  · simp [hfile, hfile']

theorem isSome_node? (h : AlikeBut names t t') (other : List String) :
    (t'.node? other).isSome = (t.node? other).isSome := by
  rcases h.node?_cases other with hsame | ⟨_, _, _, _, hfile, hfile'⟩
  · rw [hsame]
  · rw [hfile, hfile']
    rfl

theorem follow_eq (h : AlikeBut names t t') (start : List String) (pieces : List (List Char)) :
    t'.follow start pieces = t.follow start pieces := by
  induction pieces generalizing start with
  | nil => rfl
  | cons piece rest ih =>
      rw [follow, follow, ih]
      rcases h.node?_cases start with hsame | ⟨_, _, _, _, hfile, hfile'⟩
      · rw [hsame]
      · rw [hfile, hfile']

theorem resolve_eq (h : AlikeBut names t t') (path : String) :
    t'.resolve path = t.resolve path := by
  simp only [resolve, h.follow_eq, h.working]

theorem isDirectory_eq (h : AlikeBut names t t') (path : String) :
    t'.isDirectory path = t.isDirectory path := by
  simp only [isDirectory, find, h.resolve_eq]
  cases t.resolve path with
  | error failure => rfl
  | ok found =>
      rcases h.node?_cases found with hsame | ⟨_, _, _, _, hfile, hfile'⟩
      · simp only [hsame]
      · simp only [hfile, hfile']

/-- A path that does not lead to the file in question is read alike. -/
theorem readText_eq (h : AlikeBut names t t') (hpath : t.resolve path ≠ .ok names) :
    t'.readText path = t.readText path := by
  simp only [readText, readBytes, find, h.resolve_eq]
  cases hresolve : t.resolve path with
  | error failure => rfl
  | ok found =>
      have hfound : found ≠ names := by
        rintro rfl
        exact hpath hresolve
      simp only [h.elsewhere found hfound]

theorem put (h : AlikeBut names t t') {other : List String} {node : FileNode}
    (hother : other = names → ∃ bytes executable, node = .file bytes executable) :
    AlikeBut names (t.put other node) (t'.put other node) where
  working := h.working
  elsewhere := by
    intro third hthird
    by_cases hempty : third = []
    · subst hempty
      rfl
    · rw [node?_put _ _ _ _ hempty, node?_put _ _ _ _ hempty, h.elsewhere third hthird]
  isFile := h.isFile.put hother
  isFile' := h.isFile'.put hother

theorem makeDirectory (h : AlikeBut names t t') (path : String) :
    (∃ failure, t.makeDirectory path = .error failure ∧ t'.makeDirectory path = .error failure) ∨
    ∃ made made', t.makeDirectory path = .ok made ∧ t'.makeDirectory path = .ok made' ∧
      AlikeBut names made made' := by
  simp only [FileTree.makeDirectory, h.resolve_eq]
  cases t.resolve path with
  | error failure => exact .inl ⟨failure, rfl, rfl⟩
  | ok found =>
      simp only [h.isSome_node? found]
      split
      · exact .inl ⟨_, rfl, rfl⟩
      · rename_i hfree
        refine .inr ⟨_, _, rfl, rfl, h.put ?_⟩
        rintro rfl
        obtain ⟨_, _, hfile⟩ := h.isFile
        simp [hfile] at hfree

theorem settle (h : AlikeBut names t t') (path : String) (failure : FileFailure) :
    ∃ outcome u u', t.settle path failure = (outcome, u) ∧
      t'.settle path failure = (outcome, u') ∧ AlikeBut names u u' := by
  unfold FileTree.settle
  rw [h.isDirectory_eq]
  split
  · exact ⟨_, _, _, rfl, rfl, h⟩
  · exact ⟨_, _, _, rfl, rfl, h⟩

theorem makeDirectories (h : AlikeBut names t t') (components : List Path.Component) :
    ∃ outcome u u', t.makeDirectories components = (outcome, u) ∧
      t'.makeDirectories components = (outcome, u') ∧ AlikeBut names u u' := by
  induction components with
  | nil => exact ⟨_, _, _, rfl, rfl, h⟩
  | cons component above ih =>
      rw [makeDirectories_cons, makeDirectories_cons]
      dsimp only
      rcases h.makeDirectory (Path.ofComponents (component :: above).reverse) with
        ⟨failure, hmake, hmake'⟩ | ⟨_, _, hmake, hmake', hmade⟩
      · rw [hmake, hmake']
        have hsettle := h.settle (Path.ofComponents (component :: above).reverse) failure
        cases failure with
        | notFound =>
            obtain ⟨outcome, u, u', habove, habove', hmade⟩ := ih
            rw [habove, habove']
            cases outcome with
            | error failure => exact ⟨_, _, _, rfl, rfl, hmade⟩
            | ok =>
                dsimp only
                rcases hmade.makeDirectory (Path.ofComponents (component :: above).reverse) with
                  ⟨failure, hagain, hagain'⟩ | ⟨_, _, hagain, hagain', hmade'⟩
                · rw [hagain, hagain']
                  exact hmade.settle _ failure
                · rw [hagain, hagain']
                  exact ⟨_, _, _, rfl, rfl, hmade'⟩
        | _ => exact hsettle
      · rw [hmake, hmake']
        exact ⟨_, _, _, rfl, rfl, hmade⟩

theorem replaceFile (h : AlikeBut names t t') (path : String) (bytes : List UInt8) :
    (∃ failure, t.replaceFile path bytes = .error failure ∧
      t'.replaceFile path bytes = .error failure) ∨
    ∃ after after', t.replaceFile path bytes = .ok after ∧ t'.replaceFile path bytes = .ok after' ∧
      AlikeBut names after after' := by
  simp only [FileTree.replaceFile, h.resolve_eq, h.isDirectory_iff]
  split
  · exact .inl ⟨_, rfl, rfl⟩
  split
  · exact .inl ⟨_, rfl, rfl⟩
  split
  iterate 3 exact .inl ⟨_, rfl, rfl⟩
  split
  · exact .inl ⟨_, rfl, rfl⟩
  split
  · exact .inl ⟨_, rfl, rfl⟩
  · exact .inr ⟨_, _, rfl, rfl, h.put fun _ => ⟨_, _, rfl⟩⟩

theorem writeFile (h : AlikeBut names t t') (path : String) (bytes : List UInt8) :
    ∃ outcome u u', t.writeFile path bytes = (outcome, u) ∧
      t'.writeFile path bytes = (outcome, u') ∧ AlikeBut names u u' := by
  obtain ⟨outcome, u, u', hmake, hmake', hmade⟩ :=
    h.makeDirectories (Path.components (directoryOf path)).reverse
  unfold FileTree.writeFile
  rw [hmake, hmake']
  cases outcome with
  | error failure => exact ⟨_, _, _, rfl, rfl, hmade⟩
  | ok =>
      dsimp only
      rcases hmade.replaceFile path bytes with
        ⟨failure, hreplace, hreplace'⟩ | ⟨_, _, hreplace, hreplace', hafter⟩
      · rw [hreplace, hreplace']
        exact ⟨_, _, _, rfl, rfl, hmade⟩
      · rw [hreplace, hreplace']
        exact ⟨_, _, _, rfl, rfl, hafter⟩

end AlikeBut

end CompilerLog.FileTree
