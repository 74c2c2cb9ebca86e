import Mathlib.Data.List.Perm.Basic
import Mathlib.Data.List.Rotate
import Trials.Experiment.Page
import Trials.Order.Siblings

/-!
# Orders are permutations

Whatever the random words, a drawn order is a permutation of what it orders: shuffling
(`Words.shuffle_perm`), keeping equal conditions apart (`perm_of_orderSeparated`), ordering pages
(`Page.perm_of_order`), and giving places of a list to one another (`Siblings.assign_range_perm`).
All of them rest on one fact: setting a place of a list exchanges the element that stood there for
another one (`cons_set_perm`).
-/

namespace Trials

section

variable {α : Type}

/-- Setting a place exchanges the element that stood there for another one. -/
theorem cons_set_perm {l : List α} {i : Nat} {a : α} (h : l[i]? = some a) (b : α) :
    (a :: l.set i b).Perm (b :: l) := by
  obtain ⟨hi, rfl⟩ := List.getElem?_eq_some_iff.1 h
  calc (l[i] :: l.set i b).Perm (l[i] :: b :: l.eraseIdx i) :=
        (List.set_perm_cons_eraseIdx hi b).cons _
    _ |>.Perm (b :: l[i] :: l.eraseIdx i) := List.Perm.swap _ _ _
    _ |>.Perm (b :: l) := (List.getElem_cons_eraseIdx_perm hi).cons _

/-- Erasing the first element with a property takes out the one that was found. -/
theorem cons_eraseP_perm {l : List α} {p : α → Bool} {a : α} (h : l.find? p = some a) :
    (a :: l.eraseP p).Perm l := by
  obtain ⟨hp, as, bs, rfl, has⟩ := List.find?_eq_some_iff_append.1 h
  have herase : (as ++ a :: bs).eraseP p = as ++ bs := by
    rw [List.eraseP_append_right _ (fun x hx => by simpa using has x hx),
      List.eraseP_cons_of_pos hp]
  rw [herase]
  exact List.perm_middle.symm

/-- Nothing is lost where everything stands for something. -/
theorem map_some_filterMap {β : Type} {f : α → Option β} :
    ∀ {l : List α}, (∀ a ∈ l, ∃ b, f a = some b) → (l.filterMap f).map some = l.map f
  | [], _ => rfl
  | a :: l, h => by
    obtain ⟨⟨b, hb⟩, hrest⟩ := List.forall_mem_cons.1 h
    rw [List.filterMap_cons_some hb, List.map_cons, List.map_cons, map_some_filterMap hrest, hb]

theorem filterMap_getElem?_range (l : List α) :
    ((List.range l.length).filterMap fun place => l[place]?) = l := by
  induction l with
  | nil => rfl
  | cons a l ih =>
    rw [List.length_cons, List.range_succ_eq_map, List.filterMap_cons_some (by rfl),
      List.filterMap_map]
    exact congrArg (a :: ·) ih

/-- The elements at all places, in any order of the places. -/
theorem filterMap_getElem?_perm {l : List α} {order : List Nat}
    (h : order.Perm (List.range l.length)) : (order.filterMap fun place => l[place]?).Perm l :=
  calc (order.filterMap fun place => l[place]?).Perm
        ((List.range l.length).filterMap fun place => l[place]?) := h.filterMap _
    _ = l := filterMap_getElem?_range l

namespace Words

theorem exchange_perm (l : List α) (i j : Nat) : (exchange l i j).Perm l := by
  unfold exchange
  split
  next a b ha hb =>
    obtain ⟨hi, rfl⟩ := List.getElem?_eq_some_iff.1 ha
    obtain ⟨hj, rfl⟩ := List.getElem?_eq_some_iff.1 hb
    exact List.set_set_perm hi hj
  · exact List.Perm.refl _

theorem shuffleFrom_perm (i : Nat) (l : List α) (w : Words) : (shuffleFrom i l w).1.Perm l := by
  induction i generalizing l w with
  | zero => exact List.Perm.refl _
  | succ i ih => exact (ih _ _).trans (exchange_perm l _ _)

theorem shuffle_perm (l : List α) (w : Words) : (shuffle l w).1.Perm l := shuffleFrom_perm _ l w

end Words

/-! ## Orders that keep equal conditions apart -/

namespace Separated

variable [DecidableEq α] {condition : Nat → α} {window : Nat}

theorem lt_of_swapTarget {placed : List Nat} {next i : Nat}
    (h : swapTarget condition window placed next = some i) : i < placed.length :=
  List.mem_range.1 (List.mem_of_find?_eq_some h)

theorem swapInto_of_swapTarget {placed : List Nat} {next i : Nat}
    (h : swapTarget condition window placed next = some i) :
    ∃ displaced, placed[i]? = some displaced ∧
      swapInto condition window placed next = (.ok (), placed.set i next ++ [displaced]) := by
  have hget := List.getElem?_eq_getElem (lt_of_swapTarget h)
  refine ⟨_, hget, ?_⟩
  simp only [swapInto, h, hget, Option.toList_some]

theorem swapTarget_of_swapInto {placed out : List Nat} {next : Nat}
    (h : swapInto condition window placed next = (.ok (), out)) :
    ∃ i displaced, swapTarget condition window placed next = some i ∧
      placed[i]? = some displaced ∧ out = placed.set i next ++ [displaced] := by
  cases htarget : swapTarget condition window placed next with
  | none => simp [swapInto, htarget] at h
  | some i =>
    obtain ⟨displaced, hdisplaced, hswap⟩ := swapInto_of_swapTarget htarget
    rw [hswap] at h
    cases h
    exact ⟨i, displaced, rfl, hdisplaced, rfl⟩

theorem perm_of_swapInto {placed out : List Nat} {next : Nat}
    (h : swapInto condition window placed next = (.ok (), out)) : out.Perm (next :: placed) := by
  obtain ⟨i, displaced, -, hdisplaced, rfl⟩ := swapTarget_of_swapInto h
  exact (List.perm_append_singleton _ _).trans (cons_set_perm hdisplaced next)

/-- Placing the item that was found leaves the same items. -/
theorem append_eraseP_perm {p : Nat → Bool} {placed rest : List Nat} {i : Nat}
    (h : rest.find? p = some i) : (placed ++ [i] ++ rest.eraseP p).Perm (placed ++ rest) := by
  rw [List.append_assoc]
  exact (cons_eraseP_perm h).append_left placed

/-- Swapping the next item in leaves the same items. -/
theorem append_swapInto_perm {placed placed' rest : List Nat} {next : Nat}
    (h : swapInto condition window placed next = (.ok (), placed')) :
    (placed' ++ rest).Perm (placed ++ next :: rest) :=
  ((perm_of_swapInto h).append_right rest).trans List.perm_middle.symm

theorem perm_of_placeAll {placed remaining out : List Nat}
    (h : placeAll condition window placed remaining = .ok out) :
    out.Perm (placed ++ remaining) := by
  fun_induction placeAll condition window placed remaining with
  | case1 placed =>
    cases h
    simp
  | case2 placed next rest i found ih => exact (ih h).trans (append_eraseP_perm found)
  | case3 placed next rest _ placed' hswap ih => exact (ih h).trans (append_swapInto_perm hswap)
  | case4 => cases h

end Separated

theorem perm_of_orderSeparated [DecidableEq α] {conditions : List (Option α)} {window : Nat}
    {w : Words} {order : List Nat} (h : (orderSeparated conditions window w).1 = .ok order) :
    order.Perm (List.range conditions.length) := by
  unfold orderSeparated at h
  split at h
  · cases h
  · exact (Separated.perm_of_placeAll h).trans (Words.shuffle_perm _ w)

end

/-- A drawn order of pages shows each of them once. -/
theorem Page.perm_of_order {pages : List Page} {pseudorandom : Bool} {window : Nat} {w : Words}
    {order : List Nat} (h : (Page.order pages pseudorandom window w).1 = .ok order) :
    order.Perm (List.range pages.length) := by
  unfold Page.order at h
  split at h
  · simpa using perm_of_orderSeparated h
  · cases h
    exact Words.shuffle_perm _ w

/-! ## Places that are given to one another -/

namespace Siblings

/-- Giving new values to different places at which a list still has the places themselves. -/
theorem assign_append_perm :
    ∀ {placements : List (Nat × Nat)} {order : List Nat}, (placements.map (·.1)).Nodup →
      (∀ p ∈ placements, order[p.1]? = some p.1) →
      (placements.map (·.1) ++ assign order placements).Perm (placements.map (·.2) ++ order)
  | [], _, _, _ => List.Perm.refl _
  | (slot, value) :: rest, order, hnodup, hown => by
    obtain ⟨hslot, hrest⟩ := List.nodup_cons.1 hnodup
    have hown' : ∀ p ∈ rest, (order.set slot value)[p.1]? = some p.1 := by
      intro p hp
      have hne : slot ≠ p.1 := fun e => hslot (List.mem_map.2 ⟨p, hp, e.symm⟩)
      rw [List.getElem?_set_ne hne]
      exact hown p (List.mem_cons_of_mem _ hp)
    calc (slot :: (rest.map (·.1) ++ assign (order.set slot value) rest)).Perm
          (slot :: (rest.map (·.2) ++ order.set slot value)) :=
          (assign_append_perm hrest hown').cons slot
      _ |>.Perm (rest.map (·.2) ++ slot :: order.set slot value) := List.perm_middle.symm
      _ |>.Perm (rest.map (·.2) ++ value :: order) :=
          (cons_set_perm (hown _ List.mem_cons_self) value).append_left _
      _ |>.Perm (value :: (rest.map (·.2) ++ order)) := List.perm_middle

/-- Permuting some places among themselves permutes all of them. -/
theorem assign_range_perm {placements : List (Nat × Nat)} {n : Nat}
    (hnodup : (placements.map (·.1)).Nodup) (hlt : ∀ slot ∈ placements.map (·.1), slot < n)
    (hvalues : (placements.map (·.2)).Perm (placements.map (·.1))) :
    (assign (List.range n) placements).Perm (List.range n) := by
  have hown : ∀ p ∈ placements, (List.range n)[p.1]? = some p.1 := fun p hp =>
    List.getElem?_range (hlt p.1 (List.mem_map_of_mem hp))
  have h := (assign_append_perm hnodup hown).trans (hvalues.append_right (List.range n))
  exact (List.perm_append_left_iff _).1 h

theorem nodup_slots (ids set : List String) : (slots ids set).Nodup :=
  List.nodup_range.filter _

theorem lt_of_mem_slots {ids set : List String} {i : Nat} (h : i ∈ slots ids set) :
    i < ids.length :=
  List.mem_range.1 (List.mem_filter.1 h).1

/-- The places that a rotation gives values to are the slots counted round from the shift on. -/
theorem map_fst_rotation (slots : List Nat) (shift : Nat) :
    (rotation slots shift).map (·.1) = slots.rotate shift := by
  apply List.ext_getElem
  · simp [rotation]
  · intro k hk hk'
    have hlen : 0 < slots.length := by
      simp only [List.length_rotate] at hk'
      omega
    simp [rotation, List.getElem_rotate, Nat.mod_lt _ hlen]

theorem map_snd_rotation (slots : List Nat) (shift : Nat) :
    (rotation slots shift).map (·.2) = slots := by
  apply List.ext_getElem
  · simp [rotation]
  · intro k hk hk'
    simp [rotation]

end Siblings

end Trials
