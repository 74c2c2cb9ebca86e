import Trials.Files.Disk

/-!
# Trees of files

What stands somewhere stands in a directory, and what is put into a directory stands there.  A file
that is put where there is no directory, or is removed, changes no directories (`SameDirs`), and
what is put where there is nothing takes none away (`isDirAt_put_of_none`).
-/

namespace Trials

namespace FileTree

variable {t t' new : FileTree} {entries : List (String × FileTree)} {name n : String}
  {position q : List String}

/-- There is a directory at the position. -/
def IsDirAt (t : FileTree) (position : List String) : Prop :=
  ∃ entries, t.at? position = some (.dir entries)

/-- Both trees have the same directories. -/
def SameDirs (t t' : FileTree) : Prop := ∀ position, t.IsDirAt position ↔ t'.IsDirAt position

theorem not_isDirAt_file (text : String) (position : List String) :
    ¬ (FileTree.file text).IsDirAt position := by
  rintro ⟨entries, h⟩
  cases position <;> cases h

theorem isDirAt_cons : (FileTree.dir entries).IsDirAt (n :: q) ↔
    ∃ t, (FileTree.dir entries).child? n = some t ∧ t.IsDirAt q := by
  constructor
  · rintro ⟨es, h⟩
    obtain ⟨t, ht, hq⟩ := Option.bind_eq_some_iff.1 h
    exact ⟨t, ht, es, hq⟩
  · rintro ⟨t, ht, es, hq⟩
    exact ⟨es, Option.bind_eq_some_iff.2 ⟨t, ht, hq⟩⟩

theorem at?_append (t : FileTree) (p q : List String) :
    t.at? (p ++ q) = (t.at? p).bind fun t => t.at? q := by
  induction p generalizing t with
  | nil => rfl
  | cons n p ih =>
    simp only [List.cons_append, at?]
    cases t.child? n with
    | none => rfl
    | some t => exact ih t

/-- Whatever stands somewhere stands in a directory. -/
theorem isDirAt_of_at?_append (h : t.at? (position ++ [n]) = some t') : t.IsDirAt position := by
  rw [at?_append] at h
  obtain ⟨u, hu, hchild⟩ := Option.bind_eq_some_iff.1 h
  cases u with
  | file text => cases hchild
  | dir entries => exact ⟨entries, hu⟩

/-! ## Setting and removing entries -/

theorem child?_setEntry (name n : String) (new : FileTree) (entries : List (String × FileTree)) :
    (FileTree.dir (setEntry name new entries)).child? n =
      if n = name then some new else (FileTree.dir entries).child? n := by
  induction entries with
  | nil =>
    by_cases hn : n = name
    · simp [setEntry, child?, hn]
    · simp [setEntry, child?, hn, Ne.symm hn]
  | cons e rest ih =>
    by_cases he : e.1 = name
    · by_cases hn : n = name
      · simp [setEntry, child?, he, hn]
      · simp [setEntry, child?, he, hn, Ne.symm hn]
    · by_cases hn : e.1 = n
      · have hne : n ≠ name := fun h => he (hn.trans h)
        simp [setEntry, child?, hn, hne]
      · simpa [setEntry, child?, he, hn] using ih

theorem child?_filter (name n : String) (entries : List (String × FileTree)) :
    (FileTree.dir (entries.filter fun e => e.1 != name)).child? n =
      if n = name then none else (FileTree.dir entries).child? n := by
  induction entries with
  | nil => simp [child?]
  | cons e rest ih =>
    by_cases he : e.1 = name
    · by_cases hn : n = name
      · simp [child?, hn]
      · simpa [child?, he, hn, Ne.symm hn] using ih
    · by_cases hn : e.1 = n
      · have hne : n ≠ name := fun h => he (hn.trans h)
        simp [child?, hn, hne]
      · simpa [child?, he, hn] using ih

theorem put_of_child (new : FileTree) (h : (FileTree.dir entries).child? n = some t) (hq : q ≠ []) :
    (FileTree.dir entries).put (n :: q) new = .dir (setEntry n (t.put q new) entries) := by
  cases q with
  | nil => exact absurd rfl hq
  | cons m q => simp only [put, h]

theorem put_of_no_child (new : FileTree) (h : (FileTree.dir entries).child? n = none)
    (hq : q ≠ []) : (FileTree.dir entries).put (n :: q) new = .dir entries := by
  cases q with
  | nil => exact absurd rfl hq
  | cons m q => simp only [put, h]

theorem at?_setEntry (entries : List (String × FileTree)) (n : String) (new : FileTree)
    (q : List String) :
    (FileTree.dir (setEntry n new entries)).at? (n :: q) = new.at? q := by
  rw [at?, child?_setEntry, if_pos rfl]
  rfl

/-- What is put into a directory stands there. -/
theorem at?_put (new : FileTree) (h : t.IsDirAt position) (name : String) :
    (t.put (position ++ [name]) new).at? (position ++ [name]) = some new := by
  induction position generalizing t with
  | nil =>
    obtain ⟨entries, ht⟩ := h
    obtain rfl : t = .dir entries := Option.some.inj ht
    exact at?_setEntry entries name new []
  | cons n rest ih =>
    cases t with
    | file old => exact absurd h (not_isDirAt_file old _)
    | dir entries =>
      obtain ⟨t, ht, hrest⟩ := isDirAt_cons.1 h
      rw [List.cons_append, put_of_child new ht (by simp), at?_setEntry]
      exact ih hrest

/-- Nothing else can stand where something has been put. -/
theorem eq_of_at?_put (h : (t.put (position ++ [name]) new).at? (position ++ [name]) = some t') :
    t' = new := by
  induction position generalizing t with
  | nil =>
    cases t with
    | file text => cases h
    | dir entries =>
      have hnew := at?_setEntry entries name new []
      exact Option.some.inj (h.symm.trans hnew)
  | cons n rest ih =>
    cases t with
    | file text => cases h
    | dir entries =>
      rw [List.cons_append] at h
      cases ht : (FileTree.dir entries).child? n with
      | none =>
        rw [put_of_no_child new ht (by simp), at?, ht] at h
        cases h
      | some t =>
        rw [put_of_child new ht (by simp), at?_setEntry] at h
        exact ih h

/-! ## Directories stay -/

theorem SameDirs.refl (t : FileTree) : t.SameDirs t := fun _ => Iff.rfl

theorem SameDirs.trans {t'' : FileTree} (h : t.SameDirs t') (h' : t'.SameDirs t'') :
    t.SameDirs t'' := fun p => (h p).trans (h' p)

/-- An entry may be set to a tree whose directories were there before. -/
theorem SameDirs.setEntry
    (h : ∀ q, (FileTree.dir entries).IsDirAt (name :: q) ↔ new.IsDirAt q) :
    (FileTree.dir entries).SameDirs (.dir (setEntry name new entries)) := by
  intro p
  cases p with
  | nil => exact iff_of_true ⟨_, rfl⟩ ⟨_, rfl⟩
  | cons n q =>
    by_cases hn : n = name
    · subst hn
      rw [h, IsDirAt, IsDirAt, at?_setEntry]
    · rw [isDirAt_cons, isDirAt_cons, child?_setEntry, if_neg hn]

theorem SameDirs.setEntry_of_child (ht : (FileTree.dir entries).child? name = some t)
    (h : t.SameDirs new) :
    (FileTree.dir entries).SameDirs (.dir (FileTree.setEntry name new entries)) := by
  refine SameDirs.setEntry fun q => ?_
  rw [← h q, IsDirAt, at?, ht]
  rfl

/-- A file may be put wherever there is no directory. -/
theorem sameDirs_put (text : String) (h : ¬ t.IsDirAt position) :
    t.SameDirs (t.put position (.file text)) := by
  induction position generalizing t with
  | nil =>
    cases t with
    | file old => exact fun q => iff_of_false (not_isDirAt_file old q) (not_isDirAt_file text q)
    | dir entries => exact absurd ⟨entries, rfl⟩ h
  | cons n rest ih =>
    cases t with
    | file old => exact .refl _
    | dir entries =>
      by_cases hrest : rest = []
      · subst hrest
        refine SameDirs.setEntry fun q => iff_of_false ?_ (not_isDirAt_file text q)
        rintro hq
        obtain ⟨t, ht, hdir⟩ := isDirAt_cons.1 hq
        cases t with
        | file old => exact not_isDirAt_file old q hdir
        | dir es => exact h (isDirAt_cons.2 ⟨_, ht, es, rfl⟩)
      · cases ht : (FileTree.dir entries).child? n with
        | none =>
          rw [put_of_no_child _ ht hrest]
          exact .refl _
        | some t =>
          rw [put_of_child _ ht hrest]
          exact .setEntry_of_child ht (ih fun hdir => h (isDirAt_cons.2 ⟨t, ht, hdir⟩))

/-- Anything may be put where there is nothing. -/
theorem isDirAt_put_of_none (new : FileTree) (h : t.at? position = none) (hq : t.IsDirAt q) :
    (t.put position new).IsDirAt q := by
  induction position generalizing t q with
  | nil => cases h
  | cons n rest ih =>
    cases t with
    | file old => exact absurd hq (not_isDirAt_file old q)
    | dir entries =>
      by_cases hrest : rest = []
      · subst hrest
        have hput : (FileTree.dir entries).put [n] new = .dir (setEntry n new entries) := rfl
        rw [hput]
        cases q with
        | nil => exact ⟨_, rfl⟩
        | cons m q =>
          obtain ⟨t, ht, hdir⟩ := isDirAt_cons.1 hq
          have hm : m ≠ n := by
            rintro rfl
            rw [at?, ht] at h
            cases h
          exact isDirAt_cons.2 ⟨t, by rw [child?_setEntry, if_neg hm, ht], hdir⟩
      · cases hu : (FileTree.dir entries).child? n with
        | none =>
          rw [put_of_no_child _ hu hrest]
          exact hq
        | some u =>
          rw [put_of_child _ hu hrest]
          cases q with
          | nil => exact ⟨_, rfl⟩
          | cons m q =>
            obtain ⟨t, ht, hdir⟩ := isDirAt_cons.1 hq
            by_cases hm : m = n
            · subst hm
              rw [hu] at ht
              obtain rfl := Option.some.inj ht
              rw [at?, hu] at h
              exact isDirAt_cons.2 ⟨_, by rw [child?_setEntry, if_pos rfl], ih h hdir⟩
            · exact isDirAt_cons.2 ⟨t, by rw [child?_setEntry, if_neg hm, ht], hdir⟩

/-- A file may be removed. -/
theorem sameDirs_remove {text : String} (h : t.at? position = some (.file text)) :
    t.SameDirs (t.remove position) := by
  induction position generalizing t with
  | nil => exact .refl _
  | cons n rest ih =>
    cases t with
    | file old => exact .refl _
    | dir entries =>
      obtain ⟨t, ht, hrest⟩ := Option.bind_eq_some_iff.1 h
      cases rest with
      | nil =>
        obtain rfl : t = .file text := Option.some.inj hrest
        intro p
        show _ ↔ (FileTree.dir (entries.filter _)).IsDirAt p
        cases p with
        | nil => exact iff_of_true ⟨_, rfl⟩ ⟨_, rfl⟩
        | cons m q =>
          rw [isDirAt_cons, isDirAt_cons, child?_filter]
          by_cases hm : m = n
          · simp [hm, ht, not_isDirAt_file]
          · rw [if_neg hm]
      | cons m rest =>
        have hremove : (FileTree.dir entries).remove (n :: m :: rest) =
            .dir (setEntry n (t.remove (m :: rest)) entries) := by
          simp only [remove, ht]
        rw [hremove]
        exact .setEntry_of_child ht (ih hrest)

end FileTree
end Trials
