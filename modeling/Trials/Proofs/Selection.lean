import Trials.Proofs.Order.Permutation
import Trials.Proofs.Rotation
import Trials.Selection

/-!
# One page per group

When no group is empty, each gives one of its elements, be it by a Latin square, which also asks for
groups of one size (`exists_selectLatinSquare`), or at random (`exists_selectRandom`).

Which column of a group a Latin square reads goes round with the version as well as with the number
of the group.  So it is a Latin square both ways (`selectLatinSquare_latin`): versions in a row read
different columns of a group, and groups in a row are read at different columns.
-/

namespace Trials

variable {α : Type} {groups : List (List α)} {chosen : List α}

theorem latinColumn_lt {n : Nat} (h : 0 < n) (row : Nat) (version : UInt32) :
    latinColumn n row version < n :=
  Nat.mod_lt _ h

/-- A Latin square reads one column of each group. -/
theorem exists_selectLatinSquare {n : Nat} (hn : 0 < n) (heven : ∀ group ∈ groups, group.length = n)
    (version : UInt32) : ∃ chosen, selectLatinSquare groups version = .ok chosen ∧
      chosen.length = groups.length ∧ ∀ {row : Nat} {group : List α}, groups[row]? = some group →
        chosen[row]? = group[latinColumn n row version]? := by
  cases groups with
  | nil => exact ⟨[], rfl, rfl, nofun⟩
  | cons first rest =>
    obtain rfl : first.length = n := heven first List.mem_cons_self
    have hfull : first.isEmpty = false := by
      rw [List.isEmpty_eq_false_iff]
      exact List.ne_nil_of_length_pos hn
    have hsizes : ((first :: rest).any fun group => group.length ≠ first.length) = false := by
      simpa using fun group hgroup => heven group (List.mem_cons_of_mem _ hgroup)
    rw [selectLatinSquare, hfull, hsizes, if_neg Bool.false_ne_true, if_neg Bool.false_ne_true]
    have hcolumns : ∀ x ∈ (first :: rest).zipIdx, ∃ a,
        x.1[latinColumn first.length x.2 version]? = some a := by
      rintro ⟨group, row⟩ hx
      have hgroup := List.mem_of_getElem? (List.mk_mem_zipIdx_iff_getElem?.1 hx)
      refine ⟨_, List.getElem?_eq_getElem ?_⟩
      rw [heven group hgroup]
      exact latinColumn_lt hn row version
    have hmap := map_some_filterMap hcolumns
    refine ⟨_, rfl, ?_, ?_⟩
    · simpa using congrArg List.length hmap
    · intro row group hgroup
      obtain ⟨a, ha⟩ := hcolumns (group, row) (List.mk_mem_zipIdx_iff_getElem?.2 hgroup)
      have hrow := congrArg (·[row]?) hmap
      simp only [List.getElem?_map, List.getElem?_zipIdx, hgroup, Option.map_some, Nat.zero_add,
        ha] at hrow
      obtain ⟨b, hb, hab⟩ := Option.map_eq_some_iff.1 hrow
      rw [ha, ← hab]
      exact hb

theorem exists_selectLatinSquare_of_even (hnonempty : ∀ group ∈ groups, group ≠ [])
    (heven : ∀ a ∈ groups, ∀ b ∈ groups, a.length = b.length) (version : UInt32) :
    ∃ chosen, selectLatinSquare groups version = .ok chosen := by
  obtain ⟨n, hn, hsize⟩ : ∃ n, 0 < n ∧ ∀ group ∈ groups, group.length = n := by
    cases groups with
    | nil => exact ⟨1, Nat.one_pos, nofun⟩
    | cons first rest =>
      refine ⟨first.length, List.length_pos_of_ne_nil (hnonempty _ List.mem_cons_self), ?_⟩
      exact fun group hgroup => heven group hgroup first List.mem_cons_self
  obtain ⟨chosen, hchosen, -⟩ := exists_selectLatinSquare hn hsize version
  exact ⟨chosen, hchosen⟩

theorem exists_selectLatinSquare_eq_error (hne : groups ≠ [])
    (huneven : ¬ ∃ n, 0 < n ∧ ∀ group ∈ groups, group.length = n) (version : UInt32) :
    ∃ e, selectLatinSquare groups version = .error e := by
  cases groups with
  | nil => exact absurd rfl hne
  | cons first rest =>
    rw [selectLatinSquare]
    by_cases hempty : first.isEmpty = true
    · rw [if_pos hempty]
      exact ⟨_, rfl⟩
    · rw [if_neg hempty]
      split
      · exact ⟨_, rfl⟩
      next hsizes =>
        refine absurd ⟨first.length, ?_, ?_⟩ huneven
        · rw [List.length_pos_iff]
          simpa using hempty
        · simpa using hsizes

/-- A Latin square of groups with `n` elements each.  As many versions in a row as there are columns
read each column of a group once, and so take each of its elements once.  As many groups in a row
are read at different columns, so that the columns are read equally often but for the last,
incomplete round. -/
structure LatinSquare (groups : List (List α)) (n : Nat) : Prop where
  reads : ∀ version, ∃ chosen, selectLatinSquare groups version = .ok chosen ∧
    chosen.length = groups.length ∧ ∀ {row : Nat} {group : List α}, groups[row]? = some group →
      ∃ a, group[latinColumn n row version]? = some a ∧ chosen[row]? = some a
  versions : ∀ (row : Nat) {column first : Nat}, column < n → first + n ≤ UInt32.size →
    ∃! version : UInt32, (first ≤ version.toNat ∧ version.toNat < first + n) ∧
      latinColumn n row version = column
  elements : ∀ {row first : Nat} {group : List α} {a : α}, groups[row]? = some group →
    group.Nodup → a ∈ group → first + n ≤ UInt32.size →
    ∃! version : UInt32, (first ≤ version.toNat ∧ version.toNat < first + n) ∧
      ∃ chosen, selectLatinSquare groups version = .ok chosen ∧ chosen[row]? = some a
  rows : ∀ (version : UInt32) {row row' : Nat}, row < row' → row' < row + n →
    latinColumn n row version ≠ latinColumn n row' version
  columns : ∀ (version : UInt32) {column : Nat}, column < n →
    Nat.count (fun row => latinColumn n row version = column) groups.length =
        groups.length / n ∨
      Nat.count (fun row => latinColumn n row version = column) groups.length =
        (groups.length + n - 1) / n

section

variable {n row column first : Nat} {version : UInt32}

theorem existsUnique_latinColumn (row : Nat) (hcolumn : column < n)
    (hsize : first + n ≤ UInt32.size) :
    ∃! version : UInt32, (first ≤ version.toNat ∧ version.toNat < first + n) ∧
      latinColumn n row version = column :=
  existsUnique_word hsize (existsUnique_rotation hcolumn row first)

theorem latinColumn_ne {row' : Nat} (hlt : row < row') (hnear : row' < row + n) :
    latinColumn n row version ≠ latinColumn n row' version := by
  intro heq
  rw [latinColumn, latinColumn, Nat.add_comm row, Nat.add_comm row'] at heq
  have hsame : row = row' := rotation_inj ⟨Nat.le_refl row, by omega⟩ ⟨hlt.le, hnear⟩ heq
  omega

/-- The column that is read goes round with the number of the group. -/
theorem latinColumn_eq (n row : Nat) (version : UInt32) :
    latinColumn n row version = (version.toNat % n + row) % n := by
  rw [latinColumn, Nat.mod_add_mod, Nat.add_comm]

theorem count_latinColumn (hcolumn : column < n) (total : Nat) :
    Nat.count (fun row => latinColumn n row version = column) total = total / n ∨
      Nat.count (fun row => latinColumn n row version = column) total = (total + n - 1) / n := by
  simp only [latinColumn_eq]
  exact count_rotation_cases hcolumn (Nat.mod_lt _ (Nat.zero_lt_of_lt hcolumn)) total

/-- In whole rounds every column is read equally often. -/
theorem count_latinColumn_of_dvd {total : Nat} (hcolumn : column < n) (hdvd : n ∣ total) :
    Nat.count (fun row => latinColumn n row version = column) total = total / n := by
  simp only [latinColumn_eq]
  exact count_rotation hcolumn (Nat.mod_lt _ (Nat.zero_lt_of_lt hcolumn)) hdvd

/-- An element that does not stand in its group twice is taken just if its column is read. -/
theorem exists_chosen_iff (hn : 0 < n) (heven : ∀ group ∈ groups, group.length = n)
    {group : List α} {a : α} (hgroup : groups[row]? = some group) (hnodup : group.Nodup)
    (ha : group[column]? = some a) :
    (∃ chosen, selectLatinSquare groups version = .ok chosen ∧ chosen[row]? = some a) ↔
      latinColumn n row version = column := by
  obtain ⟨chosen, hchosen, -, hread⟩ := exists_selectLatinSquare hn heven version
  constructor
  · rintro ⟨other, hother, hget⟩
    cases hchosen.symm.trans hother
    rw [hread hgroup] at hget
    exact (List.getElem?_inj (List.getElem?_eq_some_iff.1 hget).1 hnodup).1 (hget.trans ha.symm)
  · intro hcolumn
    exact ⟨chosen, hchosen, by rw [hread hgroup, hcolumn, ha]⟩

theorem latinSquare_of_even (hn : 0 < n) (heven : ∀ group ∈ groups, group.length = n) :
    LatinSquare groups n where
  reads := by
    intro version
    obtain ⟨chosen, hchosen, hlength, hread⟩ := exists_selectLatinSquare hn heven version
    refine ⟨chosen, hchosen, hlength, fun {row group} hgroup => ?_⟩
    have hlt : latinColumn n row version < group.length := by
      rw [heven group (List.mem_of_getElem? hgroup)]
      exact latinColumn_lt hn row version
    exact ⟨_, List.getElem?_eq_getElem hlt, (hread hgroup).trans (List.getElem?_eq_getElem hlt)⟩
  versions := fun row _ _ hcolumn hsize => existsUnique_latinColumn row hcolumn hsize
  elements := by
    intro row first group a hgroup hnodup ha hsize
    obtain ⟨column, ha⟩ := List.mem_iff_getElem?.1 ha
    have hcolumn : column < n := by
      rw [← heven group (List.mem_of_getElem? hgroup)]
      exact (List.getElem?_eq_some_iff.1 ha).1
    simp only [exists_chosen_iff hn heven hgroup hnodup ha]
    exact existsUnique_latinColumn row hcolumn hsize
  rows := fun _ _ _ => latinColumn_ne
  columns := fun _ _ hcolumn => count_latinColumn hcolumn groups.length

end

/-- Groups of one size are read as a Latin square, and no page is taken from any others. -/
theorem selectLatinSquare_latin (hne : groups ≠ []) :
    (∀ n, 0 < n → (∀ group ∈ groups, group.length = n) → LatinSquare groups n) ∧
      ((¬ ∃ n, 0 < n ∧ ∀ group ∈ groups, group.length = n) →
        ∀ version, ∃ e, selectLatinSquare groups version = .error e) :=
  ⟨fun _ hn heven => latinSquare_of_even hn heven, exists_selectLatinSquare_eq_error hne⟩

/-- Three groups of two pages each. -/
def pairs : List (List String) := [["a1", "a2"], ["b1", "b2"], ["c1", "c2"]]

/-- Of the last two versions one alone takes the first page of the second group, and with a fourth
group of another size nothing is taken. -/
theorem pairs_latin : pairs ≠ [] ∧ (∀ group ∈ pairs, group.length = 2) ∧ LatinSquare pairs 2 ∧
    (∃! version : UInt32, (4294967294 ≤ version.toNat ∧ version.toNat < 4294967294 + 2) ∧
      ∃ chosen, selectLatinSquare pairs version = .ok chosen ∧ chosen[1]? = some "b1") ∧
    ∃ e, selectLatinSquare (pairs ++ [["d"]]) 0 = .error e := by
  have heven : ∀ group ∈ pairs, group.length = 2 := by decide
  have hlatin : LatinSquare pairs 2 :=
    (selectLatinSquare_latin (by decide)).1 2 Nat.two_pos heven
  have hsecond : pairs[1]? = some ["b1", "b2"] := rfl
  refine ⟨by decide, heven, hlatin,
    hlatin.elements hsecond (by decide) (by decide) (by decide), ?_⟩
  refine (selectLatinSquare_latin (by decide)).2 ?_ 0
  rintro ⟨n, -, hsize⟩
  have hfirst : 2 = n := hsize ["a1", "a2"] (by decide)
  have hlast : 1 = n := hsize ["d"] (by decide)
  omega

theorem sublist_flatten_filterMap (column : Nat → Nat) (first : Nat) :
    ((groups.zipIdx first).filterMap fun (group, row) => group[column row]?).Sublist
      groups.flatten := by
  induction groups generalizing first with
  | nil => exact List.nil_sublist _
  | cons group rest ih =>
    rw [List.zipIdx_cons, List.flatten_cons]
    cases h : group[column first]? with
    | none =>
      simp only [List.filterMap_cons, h]
      exact (ih _).trans (List.sublist_append_right _ _)
    | some a =>
      simp only [List.filterMap_cons, h]
      exact (List.singleton_sublist.2 (List.mem_of_getElem? h)).append (ih _)

/-- What a Latin square takes stands in the groups, in the same order. -/
theorem sublist_flatten_of_selectLatinSquare {version : UInt32}
    (h : selectLatinSquare groups version = .ok chosen) : chosen.Sublist groups.flatten := by
  cases groups with
  | nil =>
    cases h
    exact List.nil_sublist _
  | cons first rest =>
    simp only [selectLatinSquare] at h
    split at h
    · cases h
    · split at h
      · cases h
      · cases h
        exact sublist_flatten_filterMap (fun row => latinColumn first.length row version) 0

theorem mem_flatten_of_selectLatinSquare {version : UInt32}
    (h : selectLatinSquare groups version = .ok chosen) : ∀ a ∈ chosen, a ∈ groups.flatten :=
  fun _ ha => (sublist_flatten_of_selectLatinSquare h).subset ha

theorem Words.mem_of_choose {l : List α} {a : α} {w : Words} (h : (w.choose l).1 = some a) :
    a ∈ l := by
  cases l with
  | nil => cases h
  | cons first rest => exact List.mem_of_getElem? h

/-- What is drawn from groups stands in them, in the same order. -/
theorem sublist_flatten_of_selectRandomFrom (i : Nat) {w w' : Words}
    (h : selectRandomFrom i groups w = .ok (chosen, w')) : chosen.Sublist groups.flatten := by
  induction groups generalizing i w chosen with
  | nil =>
    cases h
    exact List.nil_sublist _
  | cons group rest ih =>
    rw [selectRandomFrom] at h
    split at h
    · cases h
    · rename_i a ha
      split at h
      · rename_i others w'' hothers
        cases h
        have hfirst := List.singleton_sublist.2 (Words.mem_of_choose ha)
        exact hfirst.append (ih (i + 1) hothers)
      · cases h

theorem Words.exists_choose {l : List α} (h : l ≠ []) (w : Words) :
    ∃ a ∈ l, (w.choose l).1 = some a := by
  cases l with
  | nil => exact absurd rfl h
  | cons first rest =>
    have hlt := below_lt w (Nat.succ_pos rest.length)
    exact ⟨_, List.getElem_mem hlt, List.getElem?_eq_getElem hlt⟩

/-- Elements are drawn from groups that are not empty. -/
theorem exists_selectRandomFrom (i : Nat) :
    ∀ {groups : List (List α)}, (∀ group ∈ groups, group ≠ []) → ∀ w : Words, ∃ chosen w',
      selectRandomFrom i groups w = .ok (chosen, w') ∧ chosen.length = groups.length ∧
        ∀ a ∈ chosen, a ∈ groups.flatten
  | [], _, w => ⟨[], w, rfl, rfl, nofun⟩
  | group :: rest, h, w => by
    obtain ⟨hgroup, hrest⟩ := List.forall_mem_cons.1 h
    obtain ⟨a, ha, hdraw⟩ := w.exists_choose hgroup
    obtain ⟨chosen, w', hchosen, hlength, hmem⟩ :=
      exists_selectRandomFrom (i + 1) hrest (w.choose group).2
    refine ⟨a :: chosen, w', ?_, ?_, ?_⟩
    · simp only [selectRandomFrom, hdraw, hchosen]
    · rw [List.length_cons, List.length_cons, hlength]
    · refine List.forall_mem_cons.2 ⟨?_, fun b hb => ?_⟩
      · exact List.mem_append_left _ ha
      · exact List.mem_append_right _ (hmem b hb)

theorem exists_selectRandom (h : ∀ group ∈ groups, group ≠ []) (w : Words) : ∃ chosen w',
    selectRandom groups w = .ok (chosen, w') ∧ chosen.length = groups.length ∧
      ∀ a ∈ chosen, a ∈ groups.flatten :=
  exists_selectRandomFrom 0 h w

end Trials
