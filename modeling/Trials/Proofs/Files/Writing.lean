import Trials.Proofs.Files.Replacement

/-!
# Written files

Making directories takes none away (`Disk.extends_makeDirectories`), so that the current directory
is still there afterwards.  As long as it is, every name leads to a directory that exists
(`Disk.isDirAt_of_locate`), and what has been written to a file is read from it
(`Disk.read_of_write`).
-/

namespace Trials.Disk

variable {d d' : Disk} {name own text : String} {position : List String}

/-- The current directory exists. -/
def Grounded (d : Disk) : Prop := d.root.IsDirAt d.here

/-- The second disk has the current directory and all directories of the first one. -/
structure Extends (d d' : Disk) : Prop where
  here : d'.here = d.here
  dirs : ∀ position, d.root.IsDirAt position → d'.root.IsDirAt position

theorem Extends.refl (d : Disk) : d.Extends d := ⟨rfl, fun _ h => h⟩

theorem Extends.trans {d'' : Disk} (h : d.Extends d') (h' : d'.Extends d'') : d.Extends d'' :=
  ⟨h'.here.trans h.here, fun position hdir => h'.dirs position (h.dirs position hdir)⟩

theorem Extends.grounded (h : d.Extends d') (hd : d.Grounded) : d'.Grounded := by
  rw [Grounded, h.here]
  exact h.dirs _ hd

/-! ## Making directories -/

theorem extends_makeDirectory (h : d.makeDirectory name = .ok d') : d.Extends d' := by
  unfold makeDirectory at h
  cases hlocate : d.locate name with
  | error e =>
    rw [hlocate] at h
    cases h
  | ok target =>
    rw [hlocate] at h
    cases target with
    | directory position => cases h
    | entry position own slash =>
      dsimp only [bind, Except.bind] at h
      split at h
      · cases h
      · rename_i hnone
        cases h
        exact ⟨rfl, fun _ hdir => FileTree.isDirAt_put_of_none _ hnone hdir⟩

theorem extends_ensureDirectory (h : d.ensureDirectory name = .ok d') : d.Extends d' := by
  unfold ensureDirectory at h
  split at h
  next hmade =>
    cases h
    exact extends_makeDirectory hmade
  next =>
    split at h
    · cases h
      exact .refl _
    · cases h

theorem extends_makeEnclosing {names : List String} {result : Except FileError Unit}
    (h : d.makeEnclosing names = (result, d')) : d.Extends d' := by
  induction names generalizing d d' result with
  | nil =>
    cases h
    exact .refl _
  | cons name around ih =>
    unfold makeEnclosing at h
    split at h
    next hmade =>
      cases h
      exact extends_ensureDirectory hmade
    next =>
      split at h
      next haround =>
        cases h
        exact ih haround
      next haround =>
        split at h
        next hmade =>
          cases h
          exact (ih haround).trans (extends_ensureDirectory hmade)
        next =>
          cases h
          exact ih haround
    next =>
      cases h
      exact .refl _

/-- Making directories takes none away. -/
theorem extends_makeDirectories {result : Except FileError Unit}
    (h : d.makeDirectories name = (result, d')) : d.Extends d' := extends_makeEnclosing h

/-! ## Where names lead -/

theorem isDirAt_dropLast (h : d.root.IsDirAt position) : d.root.IsDirAt position.dropLast := by
  obtain rfl | ⟨init, last, rfl⟩ := List.eq_nil_or_concat position
  · exact h
  · obtain ⟨entries, hentries⟩ := h
    rw [List.concat_eq_append] at hentries ⊢
    rw [List.dropLast_concat]
    exact FileTree.isDirAt_of_at?_append hentries

theorem isDirAt_of_enter {part : String} {target : List String} (hd : d.root.IsDirAt position)
    (h : d.enter position part = .ok target) : d.root.IsDirAt target := by
  unfold enter at h
  split_ifs at h
  · cases h
    exact hd
  · cases h
    exact isDirAt_dropLast hd
  · split at h
    next entries hentries =>
      cases h
      exact ⟨entries, hentries⟩
    next => cases h
    next => cases h

theorem isDirAt_of_foldlM_enter {parts : List String} {target : List String}
    (hd : d.root.IsDirAt position) (h : parts.foldlM d.enter position = .ok target) :
    d.root.IsDirAt target := by
  induction parts generalizing position with
  | nil =>
    cases h
    exact hd
  | cons part rest ih =>
    rw [List.foldlM_cons] at h
    cases hpart : d.enter position part with
    | error e =>
      rw [hpart] at h
      cases h
    | ok next =>
      rw [hpart] at h
      exact ih (isDirAt_of_enter hd hpart) h

/-- Where the current directory exists, so does the directory of any entry that a name leads to. -/
theorem isDirAt_of_locate {slash : Bool} (hd : d.Grounded)
    (h : d.locate name = .ok (.entry position own slash)) : d.root.IsDirAt position := by
  have hroot : d.root.IsDirAt [] := by
    cases hroot : d.root with
    | file text =>
      rw [Grounded, hroot] at hd
      exact absurd hd (FileTree.not_isDirAt_file _ _)
    | dir entries => exact ⟨entries, rfl⟩
  have hstart : d.root.IsDirAt (if name.toList.head? = some '/' then [] else d.here) := by
    split
    · exact hroot
    · exact hd
  unfold locate at h
  dsimp only at h
  split at h
  · split_ifs at h <;> cases h
  · cases hfold : (List.dropLast _).foldlM d.enter _ with
    | error e =>
      rw [hfold] at h
      cases h
    | ok target =>
      rw [hfold] at h
      dsimp only [bind, Except.bind] at h
      split_ifs at h
      · cases h
      · cases h
      · cases h
        exact isDirAt_of_foldlM_enter hstart hfold

/-! ## Writing -/

/-- What has been written to a file is read from it. -/
theorem read_of_write (hd : d.Grounded) (h : d.write name text = .ok d') :
    d'.read name = .ok text := by
  obtain ⟨position, own, hlocate, hfile, rfl⟩ := write_eq_ok h
  have hput := FileTree.sameDirs_put text hfile
  have hexists := isDirAt_of_locate hd hlocate
  exact read_eq_ok (locate_mono hput rfl hlocate) (FileTree.at?_put _ hexists own)

end Trials.Disk
