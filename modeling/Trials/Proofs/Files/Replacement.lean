import Trials.Store.SessionRecord
import Trials.Proofs.Files.Tree
import Mathlib.Data.List.TakeWhile
import Mathlib.Tactic.SplitIfs

/-!
# Replaced files

A file that has been replaced has the new text (`read_replaceFile`), whatever else the disk holds.
The text is first written to a file beside it, whose name leads to the same directory
(`locate_withExtension`).  Neither writing that file nor moving it changes any directories, so names
go on leading where they led before (`Disk.locate_mono`).
-/

namespace Trials

/-! ## Parts of names -/

namespace FileName

variable {cs own : List Char}

theorem parts_ne_nil (cs : List Char) : parts cs ≠ [] := by
  cases cs with
  | nil => simp [parts]
  | cons c cs =>
    unfold parts
    split_ifs
    · simp
    · split <;> simp

theorem parts_eq_singleton (h : '/' ∉ cs) : parts cs = [cs] := by
  induction cs with
  | nil => rfl
  | cons c cs ih =>
    obtain ⟨hc, hcs⟩ := not_or.1 (mt List.mem_cons.2 h)
    rw [parts, if_neg (Ne.symm hc), ih hcs]

theorem parts_append (cs : List Char) (h : '/' ∉ own) :
    parts (cs ++ '/' :: own) = parts cs ++ [own] := by
  induction cs with
  | nil =>
    have hfirst : parts ('/' :: own) = [] :: parts own := rfl
    rw [List.nil_append, hfirst, parts_eq_singleton h]
    rfl
  | cons c cs ih =>
    rw [List.cons_append, parts, parts, ih]
    split_ifs
    · rfl
    · obtain ⟨part, rest, hparts⟩ := List.exists_cons_of_ne_nil (parts_ne_nil cs)
      rw [hparts]
      rfl

theorem slash_notMem_lastPart (cs : List Char) : '/' ∉ lastPart cs := by
  intro h
  have hslash := List.mem_takeWhile_imp (List.mem_reverse.1 h)
  simp at hslash

/-- A name without slashes is its last part; before the last part of any other name stands a
slash. -/
theorem eq_lastPart_or (cs : List Char) :
    lastPart cs = cs ∨ ∃ before, cs = before ++ '/' :: lastPart cs := by
  have hsplit := List.takeWhile_append_dropWhile (p := (· ≠ '/')) (l := cs.reverse)
  cases hrest : cs.reverse.dropWhile (· ≠ '/') with
  | nil =>
    rw [hrest, List.append_nil] at hsplit
    exact .inl (by rw [lastPart, hsplit, List.reverse_reverse])
  | cons c more =>
    have hc : c = '/' := by
      have hhead := List.head?_dropWhile_not (· ≠ '/') cs.reverse
      rw [hrest] at hhead
      simpa using hhead
    refine .inr ⟨more.reverse, ?_⟩
    rw [hrest, hc] at hsplit
    have hreverse := congrArg List.reverse hsplit
    simpa [lastPart] using hreverse.symm

theorem mem_of_mem_stem {c : Char} (h : c ∈ stem own) : c ∈ own := by
  unfold stem at h
  split at h
  · exact h
  · exact h
  · rename_i d before hne heq
    have hmem : c ∈ own.reverse.dropWhile (· ≠ '.') := by
      rw [heq]
      exact List.mem_cons_of_mem _ (List.mem_reverse.1 h)
    exact List.mem_reverse.1 (List.dropWhile_subset _ hmem)

/-- A name that ends with more than a slash or a dot is not trimmed. -/
theorem trimmed_eq {name : String} (hne : lastPart name.toList ≠ [])
    (hdot : lastPart name.toList ≠ ['.']) : trimmed name = name.toList := by
  have htrim : trimReversed name.toList.reverse = name.toList.reverse := by
    unfold lastPart at hne hdot
    generalize name.toList.reverse = cs at hne hdot
    unfold trimReversed
    split
    · simp at hne
    · simp at hdot
    · simp at hdot
    · rfl
  rw [trimmed, htrim, List.reverse_reverse]

/-- The last part of a name with another extension. -/
def renamed (own : List Char) (extension : String) : List Char :=
  stem own ++ '.' :: extension.toList

theorem slash_notMem_renamed {extension : String} (hown : '/' ∉ own)
    (hextension : '/' ∉ extension.toList) : '/' ∉ renamed own extension := by
  intro h
  obtain h | h := List.mem_append.1 h
  · exact hown (mem_of_mem_stem h)
  · obtain h | h := List.mem_cons.1 h
    · cases h
    · exact hextension h

theorem head?_ne_slash (h : '/' ∉ cs) : cs.head? ≠ some '/' :=
  fun hhead => h (List.mem_of_head? hhead)

theorem parts_eq (cs : List Char) : parts cs = (parts cs).dropLast ++ [lastPart cs] := by
  obtain heq | ⟨before, heq⟩ := eq_lastPart_or cs
  · have hparts := parts_eq_singleton (slash_notMem_lastPart cs)
    rw [heq] at hparts ⊢
    rw [hparts]
    rfl
  · have hparts := parts_append before (slash_notMem_lastPart cs)
    rw [← heq] at hparts
    rw [hparts, List.dropLast_concat]

/-- Another extension changes the last part of a name only, and a name stays absolute or
relative. -/
theorem parts_withExtension {name : String} (extension : String)
    (hne : lastPart name.toList ≠ []) (hdot : lastPart name.toList ≠ ['.'])
    (hdots : lastPart name.toList ≠ ['.', '.']) (hextension : '/' ∉ extension.toList) :
    parts (withExtension name extension).toList =
        (parts name.toList).dropLast ++ [renamed (lastPart name.toList) extension] ∧
      ((withExtension name extension).toList.head? = some '/' ↔
        name.toList.head? = some '/') := by
  have htext : (withExtension name extension).toList =
      name.toList.take (name.toList.length - (lastPart name.toList).length)
        ++ renamed (lastPart name.toList) extension := by
    simp [withExtension, trimmed_eq hne hdot, hne, hdot, hdots, renamed]
  have hown := slash_notMem_lastPart name.toList
  have hrenamed := slash_notMem_renamed hown hextension
  rw [htext]
  obtain heq | ⟨before, heq⟩ := eq_lastPart_or name.toList
  · rw [heq] at hown hrenamed ⊢
    rw [Nat.sub_self, List.take_zero, List.nil_append, parts_eq_singleton hown,
      parts_eq_singleton hrenamed]
    exact ⟨rfl, iff_of_false (head?_ne_slash hrenamed) (head?_ne_slash hown)⟩
  · have hparts := parts_append before hown
    rw [← heq] at hparts
    have htake : name.toList.take (name.toList.length - (lastPart name.toList).length) =
        before ++ ['/'] := by
      generalize lastPart name.toList = own at heq
      have hlength : (before ++ '/' :: own).length - own.length = (before ++ ['/']).length := by
        simp only [List.length_append, List.length_cons, List.length_nil]
        omega
      have hslash : before ++ '/' :: own = before ++ ['/'] ++ own := by simp
      rw [heq, hlength, hslash, List.take_left]
    rw [htake, List.append_assoc, List.singleton_append, parts_append before hrenamed, hparts,
      List.dropLast_concat]
    refine ⟨rfl, ?_⟩
    rw [heq]
    cases before <;> simp

end FileName

/-! ## Where names lead -/

namespace Disk

variable {d d' : Disk} {name own text extension : String} {position : List String}
  {target : Target}

/-- The directory that some parts of a name lead to. -/
def follow (d : Disk) (name : String) (init : List (List Char)) : Except FileError (List String) :=
  ((init.filter fun part => !part.isEmpty).map String.ofList).foldlM d.enter
    (if name.toList.head? = some '/' then [] else d.here)

/-- What the last part of a name makes of the directory that the others lead to. -/
def finish (own : List Char) (position : List String) : Except FileError Target :=
  if String.ofList own = "." then .ok (.directory position)
  else if String.ofList own = ".." then .ok (.directory position.dropLast)
  else if 255 < (String.ofList own).utf8ByteSize then .error .nameTooLong
  else .ok (.entry position (String.ofList own) false)

/-- Where a name leads that ends with a part of its own. -/
theorem locate_eq {init : List (List Char)} {own : List Char}
    (hparts : FileName.parts name.toList = init ++ [own]) (hown : own ≠ []) :
    d.locate name = d.follow name init >>= finish own := by
  unfold locate follow finish
  simp [hparts, List.filter_append, hown]
  rfl

/-- Names go on leading where they led before as long as directories stay. -/
theorem enter_mono (hroot : d.root.SameDirs d'.root) {part : String} {p q : List String}
    (h : d.enter p part = .ok q) : d'.enter p part = .ok q := by
  unfold enter at h ⊢
  split_ifs at h ⊢
  · exact h
  · exact h
  · split at h
    · rename_i entries hdir
      obtain ⟨entries', hdir'⟩ := (hroot _).1 ⟨entries, hdir⟩
      rw [hdir']
      exact h
    · cases h
    · cases h

theorem foldlM_enter_mono (hroot : d.root.SameDirs d'.root) {parts : List String}
    {p q : List String}
    (h : parts.foldlM d.enter p = .ok q) : parts.foldlM d'.enter p = .ok q := by
  induction parts generalizing p with
  | nil => exact h
  | cons part rest ih =>
    rw [List.foldlM_cons] at h ⊢
    cases hpart : d.enter p part with
    | error e =>
      rw [hpart] at h
      cases h
    | ok p' =>
      rw [hpart] at h
      rw [enter_mono hroot hpart]
      exact ih h

theorem locate_mono (hroot : d.root.SameDirs d'.root) (hhere : d'.here = d.here)
    (h : d.locate name = .ok target) : d'.locate name = .ok target := by
  unfold locate at h ⊢
  rw [hhere]
  dsimp only at h ⊢
  split at h
  · exact h
  · rename_i last hlast
    cases hfold : (List.dropLast _).foldlM d.enter _ with
    | error e =>
      rw [hfold] at h
      cases h
    | ok position =>
      rw [hfold] at h
      rw [foldlM_enter_mono hroot hfold]
      exact h

theorem slash_of_locate {slash : Bool} (h : d.locate name = .ok (.entry position own slash)) :
    slash = decide ((FileName.parts name.toList).getLast? = some []) := by
  unfold locate at h
  dsimp only at h
  split at h
  · split_ifs at h <;> cases h
  · cases hfold : (List.dropLast _).foldlM d.enter _ with
    | error e =>
      rw [hfold] at h
      cases h
    | ok position =>
      rw [hfold] at h
      dsimp only [bind, Except.bind] at h
      split_ifs at h <;> cases h
      rfl

/-- The last part of a name that leads to an entry and is not followed by a slash. -/
theorem lastPart_of_locate (h : d.locate name = .ok (.entry position own false)) :
    FileName.lastPart name.toList ≠ [] ∧ FileName.lastPart name.toList ≠ ['.'] ∧
      FileName.lastPart name.toList ≠ ['.', '.'] := by
  have hparts := FileName.parts_eq name.toList
  have hne : FileName.lastPart name.toList ≠ [] := by
    intro hnil
    rw [hnil] at hparts
    have hslash := slash_of_locate h
    rw [hparts] at hslash
    simp at hslash
  rw [locate_eq hparts hne] at h
  cases hfollow : d.follow name (FileName.parts name.toList).dropLast with
  | error e =>
    rw [hfollow] at h
    cases h
  | ok position =>
    rw [hfollow] at h
    refine ⟨hne, fun hdot => ?_, fun hdots => ?_⟩
    · rw [hdot] at h
      cases h
    · rw [hdots] at h
      cases h

theorem finish_cases {own : List Char} (h : finish own position = .ok target) :
    own = ['.'] ∨ own = ['.', '.'] ∨ target = .entry position (String.ofList own) false := by
  unfold finish at h
  split_ifs at h with hdot hdots
  · exact .inl (by simpa using congrArg String.toList hdot)
  · exact .inr (.inl (by simpa using congrArg String.toList hdots))
  · cases h
    exact .inr (.inr rfl)

/-- The name with another extension leads to the same directory. -/
theorem locate_withExtension (hslash : '/' ∉ extension.toList) (hlong : 1 < extension.toList.length)
    (h : d.locate name = .ok (.entry position own false))
    (h' : d.locate (FileName.withExtension name extension) = .ok target) :
    ∃ own', target = .entry position own' false := by
  obtain ⟨hne, hdot, hdots⟩ := lastPart_of_locate h
  obtain ⟨hparts', hhead⟩ :=
    FileName.parts_withExtension extension hne hdot hdots hslash
  have hlength : 2 < (FileName.renamed (FileName.lastPart name.toList) extension).length := by
    rw [FileName.renamed, List.length_append, List.length_cons]
    omega
  generalize FileName.renamed (FileName.lastPart name.toList) extension = renamed
    at hparts' hlength
  have hfollow : d.follow (FileName.withExtension name extension) =
      d.follow name := by
    funext init
    unfold follow
    rw [if_congr hhead rfl rfl]
  rw [locate_eq (FileName.parts_eq name.toList) hne] at h
  rw [locate_eq hparts' (by rintro rfl; cases hlength), hfollow] at h'
  cases hposition : d.follow name (FileName.parts name.toList).dropLast with
  | error e =>
    rw [hposition] at h
    cases h
  | ok position' =>
    rw [hposition] at h h'
    obtain heq | heq | heq := finish_cases h
    · exact absurd heq hdot
    · exact absurd heq hdots
    obtain rfl | rfl | heq' := finish_cases h'
    · simp at hlength
    · simp at hlength
    cases heq
    exact ⟨_, heq'⟩

/-! ## Replacing -/

theorem write_eq_ok (h : d.write name text = .ok d') : ∃ position own,
    d.locate name = .ok (.entry position own false) ∧ ¬ d.root.IsDirAt (position ++ [own]) ∧
      d' = { d with root := d.root.put (position ++ [own]) (.file text) } := by
  unfold write at h
  cases hlocate : d.locate name with
  | error e =>
    rw [hlocate] at h
    cases h
  | ok target =>
    rw [hlocate] at h
    cases target with
    | directory position => cases h
    | entry position own slash =>
      dsimp only [bind, Except.bind] at h
      split_ifs at h with hslash
      split at h
      · cases h
      · rename_i hfile
        cases h
        rw [Bool.not_eq_true] at hslash
        subst hslash
        exact ⟨position, own, rfl, fun ⟨entries, hdir⟩ => hfile entries hdir, rfl⟩

theorem rename_eq_ok {old new : String} (h : d.rename old new = .ok d') :
    ∃ oldPosition oldName slash position own t,
      d.locate old = .ok (.entry oldPosition oldName slash) ∧
      d.locate new = .ok (.entry position own false) ∧
      d.root.at? (oldPosition ++ [oldName]) = some t ∧ ¬ d.root.IsDirAt (position ++ [own]) ∧
      d' = { d with root :=
        (d.root.remove (oldPosition ++ [oldName])).put (position ++ [own]) t } := by
  unfold rename at h
  cases hold : d.locate old with
  | error e =>
    rw [hold] at h
    cases h
  | ok oldTarget =>
    cases hnew : d.locate new with
    | error e =>
      rw [hold, hnew] at h
      cases h
    | ok target =>
      rw [hold, hnew] at h
      dsimp only [bind, Except.bind] at h
      split at h
      · rename_i oldPosition oldName oldSlash position own slash
        split at h
        · cases h
        · rename_i t ht
          split_ifs at h with hslash hdir
          cases h
          rw [Bool.not_eq_true] at hslash
          subst hslash
          have hfile : ¬ d.root.IsDirAt (position ++ [own]) := by
            rintro ⟨entries, hentries⟩
            rw [hentries] at hdir
            exact hdir rfl
          exact ⟨_, _, _, _, _, _, rfl, rfl, ht, hfile, rfl⟩
      · cases h

theorem read_eq_ok (hlocate : d.locate name = .ok (.entry position own false))
    (hat : d.root.at? (position ++ [own]) = some (.file text)) : d.read name = .ok text := by
  unfold read find
  rw [hlocate]
  simp [bind, Except.bind, hat, pure, Except.pure]

theorem contains_of_read (h : d.read name = .ok text) :
    d.contains name = true := by
  unfold Disk.read at h
  unfold Disk.contains
  cases hfind : d.find name with
  | error e =>
    rw [hfind] at h
    cases h
  | ok t => rfl

/-- After a text has been written to the file beside it and that file has been moved, a file has
the text. -/
theorem read_of_write_of_rename {written moved : Disk} (hslash : '/' ∉ extension.toList)
    (hlong : 1 < extension.toList.length)
    (hwrite : d.write (FileName.withExtension name extension) text = .ok written)
    (hrename : written.rename (FileName.withExtension name extension) name = .ok moved) :
    moved.read name = .ok text := by
  obtain ⟨position, temporary, hlocate, hfile, rfl⟩ := write_eq_ok hwrite
  obtain ⟨position', temporary', slash, target, own, t, hlocate', hname, hat, hdir, rfl⟩ :=
    rename_eq_ok hrename
  have hput := FileTree.sameDirs_put text hfile
  cases hlocate'.symm.trans (locate_mono hput rfl hlocate)
  obtain rfl := FileTree.eq_of_at?_put hat
  -- The file is moved within one directory, which therefore exists.
  obtain ⟨own', htarget⟩ := locate_withExtension hslash hlong hname hlocate'
  cases htarget
  have hremove := FileTree.sameDirs_remove hat
  have hmoved := FileTree.sameDirs_put text (mt (hremove _).2 hdir)
  have hexists := (hremove _).1 (FileTree.isDirAt_of_at?_append hat)
  refine read_eq_ok ?_ (FileTree.at?_put _ hexists own)
  exact locate_mono (hremove.trans hmoved) rfl hname

end Disk

/-- A file that has been replaced has the new text. -/
theorem read_replaceFile {disk disk' : Disk} {name text : String}
    (h : replaceFile disk name text = (.ok (), disk')) : disk'.read name = .ok text := by
  unfold replaceFile at h
  dsimp only at h
  split at h
  · cases h
  · rename_i made _
    cases hwrite : made.write (FileName.withExtension name "json.tmp") text with
    | error e =>
      rw [hwrite] at h
      cases h
    | ok written =>
      rw [hwrite] at h
      cases hrename : written.rename (FileName.withExtension name "json.tmp") name with
      | error e =>
        dsimp only [onFile, Except.mapError] at h
        rw [hrename] at h
        cases h
      | ok moved =>
        dsimp only [onFile, Except.mapError] at h
        rw [hrename] at h
        cases h
        exact Disk.read_of_write_of_rename (by decide) (by decide) hwrite hrename

end Trials
