import Trials.Proofs.Order.Permutation
import Trials.Proofs.Rotation

/-!
# Who stands where among siblings

An order of siblings is a permutation of them (`perm_of_orderSiblings`).  It gives each kind of them
places of its own: a fixed sibling keeps its place
(`getElem?_fixed`), the exchangeable ones share theirs as they have been shuffled
(`map_getElem?_free`), and the `k`-th counterbalanced one goes to the place of the
`(k + permutation)`-th, counting round (`getElem?_balanced`).  The permutation has no part in
anything else: two orders drawn with the same random words differ in counterbalanced places only
(`getElem?_agree`), and among as many permutations in a row as there are such places one alone puts
a counterbalanced sibling into one of them (`orderSiblings_arranges`).
-/

namespace Trials

namespace Siblings

variable {order : List Nat} {placements : List (Nat × Nat)} {slot value : Nat}

theorem getElem?_assign_of_notMem (h : slot ∉ placements.map (·.1)) :
    (assign order placements)[slot]? = order[slot]? := by
  induction placements generalizing order with
  | nil => rfl
  | cons p rest ih =>
    rw [List.map_cons, List.mem_cons, not_or] at h
    show (assign (order.set p.1 p.2) rest)[slot]? = _
    rw [ih h.2, List.getElem?_set_ne (Ne.symm h.1)]

theorem getElem?_assign_of_mem (hnodup : (placements.map (·.1)).Nodup)
    (hmem : (slot, value) ∈ placements) (hslot : slot < order.length) :
    (assign order placements)[slot]? = some value := by
  induction placements generalizing order with
  | nil => cases hmem
  | cons p rest ih =>
    rw [List.map_cons, List.nodup_cons] at hnodup
    show (assign (order.set p.1 p.2) rest)[slot]? = _
    rcases List.mem_cons.1 hmem with rfl | hmem
    · rw [getElem?_assign_of_notMem hnodup.1, List.getElem?_set_self hslot]
    · exact ih hnodup.2 hmem (by rwa [List.length_set])

theorem mem_slots_iff {ids set : List String} {i : Nat} :
    i ∈ slots ids set ↔ ∃ id, ids[i]? = some id ∧ id ∈ set := by
  rw [slots, List.mem_filter, List.mem_range, Option.any_eq_true]
  constructor
  · rintro ⟨-, id, hid, hmem⟩
    exact ⟨id, hid, List.contains_iff_mem.1 hmem⟩
  · rintro ⟨id, hid, hmem⟩
    exact ⟨(List.getElem?_eq_some_iff.1 hid).1, id, hid, List.contains_iff_mem.2 hmem⟩

theorem mem_slots_of_getElem? {ids set : List String} {i : Nat} {id : String}
    (h : ids[i]? = some id) : i ∈ slots ids set ↔ id ∈ set := by
  rw [mem_slots_iff, h]
  simp

/-- Places that are given a value each hold these values. -/
theorem map_getElem?_assign {places values : List Nat} (hnodup : places.Nodup)
    (hlength : places.length = values.length) (hlt : ∀ place ∈ places, place < order.length) :
    (places.map fun place => (assign order (places.zip values))[place]?) = values.map some := by
  have hfst : (places.zip values).map (·.1) = places := List.map_fst_zip hlength.le
  apply List.ext_getElem
  · simpa using hlength
  · intro k hk hk'
    rw [List.length_map] at hk hk'
    rw [List.getElem_map, List.getElem_map]
    refine getElem?_assign_of_mem (by rwa [hfst]) ?_ (hlt _ (List.getElem_mem hk))
    have hzip : k < (places.zip values).length := by
      rw [List.length_zip]
      omega
    simpa using List.getElem_mem hzip

/-- The `k`-th slot's value stands at the slot that lies `shift` further on, counting round. -/
theorem mem_rotation {slots : List Nat} {k value : Nat} (h : slots[k]? = some value)
    (shift : Nat) : ∃ slot, slots[(k + shift) % slots.length]? = some slot ∧
      (slot, value) ∈ rotation slots shift := by
  have hlt : (k + shift) % slots.length < slots.length :=
    Nat.mod_lt _ (Nat.zero_lt_of_lt (List.getElem?_eq_some_iff.1 h).1)
  have hslot := List.getElem?_eq_getElem hlt
  refine ⟨_, hslot, List.mem_map.2 ⟨(value, k), List.mk_mem_zipIdx_iff_getElem?.2 h, ?_⟩⟩
  show (slots.getD ((k + shift) % slots.length) 0, value) = _
  rw [List.getD_eq_getElem?_getD, hslot, Option.getD_some]

theorem nodup_map_fst_rotation {slots : List Nat} (h : slots.Nodup) (shift : Nat) :
    ((rotation slots shift).map (·.1)).Nodup := by
  rw [map_fst_rotation, List.nodup_rotate]
  exact h

theorem mem_map_fst_rotation {slots : List Nat} (shift : Nat) :
    slot ∈ (rotation slots shift).map (·.1) ↔ slot ∈ slots := by
  rw [map_fst_rotation, List.mem_rotate]

/-- The order of siblings before the counterbalanced ones are rotated. -/
def shuffled (ids : List String) (scheme : SiblingScheme) (w : Words) : List Nat :=
  assign (List.range ids.length)
    ((slots ids scheme.exchangeable).zip (w.shuffle (slots ids scheme.exchangeable)).1)

end Siblings

open Siblings

variable {ids : List String} {scheme scheme' : SiblingScheme} {w w' w'' : Words}
  {order order' : List Nat} {slot : Nat}

theorem exists_orderSiblings_eq_error_iff : (∃ e, orderSiblings ids scheme w = .error e) ↔
    ∃ id ∈ ids, id ∈ scheme.exchangeable ∧ id ∈ scheme.counterbalance := by
  unfold orderSiblings
  split
  next id hboth =>
    have hsets := List.find?_some hboth
    rw [Bool.and_eq_true, List.contains_iff_mem, List.contains_iff_mem] at hsets
    exact ⟨fun _ => ⟨id, List.mem_of_find?_eq_some hboth, hsets⟩, fun _ => ⟨_, rfl⟩⟩
  next hapart =>
    constructor
    · rintro ⟨e, he⟩
      cases he
    · rintro ⟨id, hid, hfree, hbalanced⟩
      refine absurd ?_ (List.find?_eq_none.1 hapart id hid)
      rw [Bool.and_eq_true, List.contains_iff_mem, List.contains_iff_mem]
      exact ⟨hfree, hbalanced⟩

/-- What an order of siblings is, and that none of them is both exchangeable and counterbalanced. -/
theorem orderSiblings_eq_ok (h : orderSiblings ids scheme w = .ok (order, w')) :
    (∀ i ∈ slots ids scheme.exchangeable, i ∉ slots ids scheme.counterbalance) ∧
      order = assign (shuffled ids scheme w)
        (rotation (slots ids scheme.counterbalance) scheme.permutation.toNat) ∧
      w' = (w.shuffle (slots ids scheme.exchangeable)).2 := by
  constructor
  · intro i hi hi'
    obtain ⟨id, hid, hfree⟩ := mem_slots_iff.1 hi
    have hbalanced := (mem_slots_of_getElem? hid).1 hi'
    obtain ⟨e, he⟩ : ∃ e, orderSiblings ids scheme w = .error e :=
      exists_orderSiblings_eq_error_iff.2 ⟨id, List.mem_of_getElem? hid, hfree, hbalanced⟩
    cases h.symm.trans he
  · unfold orderSiblings at h
    split at h
    · cases h
    · cases h
      exact ⟨rfl, rfl⟩

/-- Whether siblings can be ordered, and which random words are drawn, does not depend on the
permutation. -/
theorem exists_orderSiblings_of_permutation (h : orderSiblings ids scheme w = .ok (order, w'))
    (p : UInt32) :
    ∃ order', orderSiblings ids { scheme with permutation := p } w = .ok (order', w') := by
  cases h' : orderSiblings ids { scheme with permutation := p } w with
  | error e =>
    have hboth := exists_orderSiblings_eq_error_iff.1 ⟨e, h'⟩
    obtain ⟨e', he'⟩ : ∃ e', orderSiblings ids scheme w = .error e' :=
      exists_orderSiblings_eq_error_iff.2 hboth
    cases h.symm.trans he'
  | ok result =>
    obtain ⟨order', w''⟩ := result
    obtain rfl : w'' = w' := (orderSiblings_eq_ok h').2.2.trans (orderSiblings_eq_ok h).2.2.symm
    exact ⟨order', rfl⟩

/-- An order of siblings lists each of them once. -/
theorem perm_of_orderSiblings (h : orderSiblings ids scheme w = .ok (order, w')) :
    order.Perm (List.range ids.length) := by
  obtain ⟨hapart, horder, -⟩ := orderSiblings_eq_ok h
  set free := slots ids scheme.exchangeable
  set balanced := slots ids scheme.counterbalance
  set shift := scheme.permutation.toNat
  -- both assignments in one: the shuffled slots and the rotated ones have no place in common
  have hboth : order = assign (List.range ids.length)
      (free.zip (w.shuffle free).1 ++ rotation balanced shift) := by
    rw [horder, shuffled]
    exact List.foldl_append.symm
  have hlen : free.length = (w.shuffle free).1.length := (Words.length_shuffle free w).symm
  have hfst : (free.zip (w.shuffle free).1 ++ rotation balanced shift).map (·.1) =
      free ++ balanced.rotate shift := by
    rw [List.map_append, map_fst_rotation, List.map_fst_zip hlen.le]
  have hsnd : (free.zip (w.shuffle free).1 ++ rotation balanced shift).map (·.2) =
      (w.shuffle free).1 ++ balanced := by
    rw [List.map_append, map_snd_rotation, List.map_snd_zip hlen.ge]
  rw [hboth]
  apply assign_range_perm
  · rw [hfst, List.nodup_append]
    refine ⟨nodup_slots _ _, List.nodup_rotate.2 (nodup_slots _ _), ?_⟩
    rintro i hi _ hj rfl
    exact hapart i hi (List.mem_rotate.1 hj)
  · intro i hi
    rw [hfst, List.mem_append, List.mem_rotate] at hi
    rcases hi with hi | hi <;> exact lt_of_mem_slots hi
  · rw [hfst, hsnd]
    exact (Words.shuffle_perm free w).append (List.rotate_perm _ _).symm

theorem length_shuffled : (shuffled ids scheme w).length = ids.length := by
  rw [shuffled, length_assign, List.length_range]

/-- A sibling that is not counterbalanced stands where it stood before the rotation. -/
theorem getElem?_of_orderSiblings (h : orderSiblings ids scheme w = .ok (order, w'))
    (hslot : slot ∉ slots ids scheme.counterbalance) :
    order[slot]? = (shuffled ids scheme w)[slot]? := by
  rw [(orderSiblings_eq_ok h).2.1]
  exact getElem?_assign_of_notMem (mt (mem_map_fst_rotation _).1 hslot)

theorem getElem?_of_mem_rotation (h : orderSiblings ids scheme w = .ok (order, w')) {place : Nat}
    (hmem : (slot, place) ∈ rotation (slots ids scheme.counterbalance) scheme.permutation.toNat) :
    order[slot]? = some place := by
  rw [(orderSiblings_eq_ok h).2.1]
  refine getElem?_assign_of_mem (nodup_map_fst_rotation (nodup_slots _ _) _) hmem ?_
  rw [length_shuffled]
  exact lt_of_mem_slots ((mem_map_fst_rotation _).1 (List.mem_map_of_mem hmem))

theorem getElem?_balanced (h : orderSiblings ids scheme w = .ok (order, w')) {k place : Nat}
    (hplace : (slots ids scheme.counterbalance)[k]? = some place) :
    ∃ slot, (slots ids scheme.counterbalance)[(k + scheme.permutation.toNat) %
        (slots ids scheme.counterbalance).length]? = some slot ∧ order[slot]? = some place := by
  obtain ⟨slot, hslot, hmem⟩ := mem_rotation hplace scheme.permutation.toNat
  exact ⟨slot, hslot, getElem?_of_mem_rotation h hmem⟩

/-- The `k`-th counterbalanced sibling stands at the `j`-th counterbalanced place just if the
permutation moves it there. -/
theorem getElem?_balanced_iff (h : orderSiblings ids scheme w = .ok (order, w')) {j k place : Nat}
    (hslot : (slots ids scheme.counterbalance)[j]? = some slot)
    (hplace : (slots ids scheme.counterbalance)[k]? = some place) :
    order[slot]? = some place ↔
      (k + scheme.permutation.toNat) % (slots ids scheme.counterbalance).length = j := by
  obtain ⟨taken, htaken, hget⟩ := getElem?_balanced h hplace
  constructor
  · intro hstands
    have horder : order.Nodup := (perm_of_orderSiblings h).nodup_iff.2 List.nodup_range
    have hsame : slot = taken :=
      (List.getElem?_inj (List.getElem?_eq_some_iff.1 hstands).1 horder).1 (hstands.trans hget.symm)
    have hlt := (List.getElem?_eq_some_iff.1 htaken).1
    exact (List.getElem?_inj hlt (nodup_slots _ _)).1 (by rw [htaken, hslot, hsame])
  · rintro rfl
    cases htaken.symm.trans hslot
    exact hget

/-- A counterbalanced place is taken by a counterbalanced sibling. -/
theorem exists_getElem?_balanced (h : orderSiblings ids scheme w = .ok (order, w'))
    (hslot : slot ∈ slots ids scheme.counterbalance) :
    ∃ value ∈ slots ids scheme.counterbalance, order[slot]? = some value := by
  obtain ⟨p, hp, rfl⟩ :=
    List.mem_map.1 ((mem_map_fst_rotation scheme.permutation.toNat).2 hslot)
  have hvalue := List.mem_map_of_mem (f := (·.2)) hp
  rw [map_snd_rotation] at hvalue
  exact ⟨p.2, hvalue, getElem?_of_mem_rotation h hp⟩

theorem map_fst_zip_shuffle (ids : List String) (set : List String) (w : Words) :
    ((slots ids set).zip (w.shuffle (slots ids set)).1).map (·.1) = slots ids set := by
  rw [List.map_fst_zip]
  exact (Words.length_shuffle _ w).ge

/-- The places of exchangeable siblings hold these siblings as they have been shuffled. -/
theorem map_getElem?_free (h : orderSiblings ids scheme w = .ok (order, w')) :
    ((slots ids scheme.exchangeable).map fun slot => order[slot]?) =
      (w.shuffle (slots ids scheme.exchangeable)).1.map some := by
  have hsame : ∀ slot ∈ slots ids scheme.exchangeable,
      order[slot]? = (shuffled ids scheme w)[slot]? := fun slot hslot =>
    getElem?_of_orderSiblings h ((orderSiblings_eq_ok h).1 slot hslot)
  rw [List.map_congr_left hsame]
  refine map_getElem?_assign (nodup_slots _ _) (Words.length_shuffle _ w).symm fun slot hslot => ?_
  rw [List.length_range]
  exact lt_of_mem_slots hslot

/-- The place of an exchangeable sibling is taken by an exchangeable sibling. -/
theorem exists_getElem?_free (h : orderSiblings ids scheme w = .ok (order, w'))
    (hslot : slot ∈ slots ids scheme.exchangeable) :
    ∃ value ∈ slots ids scheme.exchangeable, order[slot]? = some value := by
  have hmem : order[slot]? ∈ (slots ids scheme.exchangeable).map fun slot => order[slot]? :=
    List.mem_map_of_mem hslot
  rw [map_getElem?_free h] at hmem
  obtain ⟨value, hvalue, heq⟩ := List.mem_map.1 hmem
  exact ⟨value, (Words.shuffle_perm _ w).mem_iff.1 hvalue, heq.symm⟩

theorem getElem?_fixed (h : orderSiblings ids scheme w = .ok (order, w')) (hlt : slot < ids.length)
    (hfree : slot ∉ slots ids scheme.exchangeable)
    (hbalanced : slot ∉ slots ids scheme.counterbalance) : order[slot]? = some slot := by
  rw [getElem?_of_orderSiblings h hbalanced, shuffled, getElem?_assign_of_notMem,
    List.getElem?_range hlt]
  rwa [map_fst_zip_shuffle]

theorem length_of_orderSiblings (h : orderSiblings ids scheme w = .ok (order, w')) :
    order.length = ids.length := by
  simpa using (perm_of_orderSiblings h).length_eq

/-- Two siblings are the same one, or both have a property. -/
def SameOrBoth {α : Type} (p : α → Prop) (a b : α) : Prop := a = b ∨ p a ∧ p b

/-- With the same random words two orders of the same siblings agree in all places that are not
counterbalanced. -/
theorem getElem?_agree (h : orderSiblings ids scheme w = .ok (order, w'))
    (h' : orderSiblings ids scheme' w = .ok (order', w''))
    (hexchangeable : scheme'.exchangeable = scheme.exchangeable)
    (hcounterbalance : scheme'.counterbalance = scheme.counterbalance)
    (hslot : slot ∉ slots ids scheme.counterbalance) : order'[slot]? = order[slot]? := by
  rw [getElem?_of_orderSiblings h hslot,
    getElem?_of_orderSiblings h' (hcounterbalance.symm ▸ hslot), shuffled, shuffled, hexchangeable]

/-- With the same random words two orders of the same siblings differ in counterbalanced places
only, and leave the same random words. -/
theorem orderSiblings_agree (h : orderSiblings ids scheme w = .ok (order, w'))
    (h' : orderSiblings ids scheme' w = .ok (order', w''))
    (hexchangeable : scheme'.exchangeable = scheme.exchangeable)
    (hcounterbalance : scheme'.counterbalance = scheme.counterbalance) :
    w'' = w' ∧ List.Forall₂ (SameOrBoth (· ∈ slots ids scheme.counterbalance)) order order' := by
  constructor
  · rw [(orderSiblings_eq_ok h).2.2, (orderSiblings_eq_ok h').2.2, hexchangeable]
  · refine List.forall₂_iff_get.2 ⟨?_, fun slot hlt hlt' => ?_⟩
    · rw [length_of_orderSiblings h, length_of_orderSiblings h']
    · by_cases hslot : slot ∈ slots ids scheme.counterbalance
      · obtain ⟨value, hvalue, hget⟩ := exists_getElem?_balanced h hslot
        obtain ⟨value', hvalue', hget'⟩ :=
          exists_getElem?_balanced h' (hcounterbalance.symm ▸ hslot)
        rw [List.getElem?_eq_getElem hlt] at hget
        rw [List.getElem?_eq_getElem hlt'] at hget'
        right
        rw [List.get_eq_getElem, List.get_eq_getElem, Option.some.inj hget, Option.some.inj hget']
        exact ⟨hvalue, hcounterbalance ▸ hvalue'⟩
      · have hsame := getElem?_agree h h' hexchangeable hcounterbalance hslot
        rw [List.getElem?_eq_getElem hlt, List.getElem?_eq_getElem hlt'] at hsame
        exact .inl (Option.some.inj hsame).symm

/-! ## The order as a whole -/

/-- Fixed siblings stand in their places, exchangeable ones in those of exchangeable ones, and the
`k`-th counterbalanced one in the `(k + permutation)`-th counterbalanced place, counting round. -/
structure Siblings.Arranged (ids : List String) (scheme : SiblingScheme) (order : List Nat) :
    Prop where
  perm : order.Perm (List.range ids.length)
  fixed : ∀ {i : Nat} {id : String}, ids[i]? = some id → id ∉ scheme.exchangeable →
    id ∉ scheme.counterbalance → order[i]? = some i
  exchanged : ((slots ids scheme.exchangeable).map fun slot => order[slot]?).Perm
    ((slots ids scheme.exchangeable).map some)
  rotated : ∀ {k place : Nat}, (slots ids scheme.counterbalance)[k]? = some place →
    ∃ slot, (slots ids scheme.counterbalance)[(k + scheme.permutation.toNat) %
      (slots ids scheme.counterbalance).length]? = some slot ∧ order[slot]? = some place

theorem arranged_of_orderSiblings (h : orderSiblings ids scheme w = .ok (order, w')) :
    Arranged ids scheme order where
  perm := perm_of_orderSiblings h
  fixed := fun hid hfree hbalanced => getElem?_fixed h (List.getElem?_eq_some_iff.1 hid).1
    (mt (mem_slots_of_getElem? hid).1 hfree) (mt (mem_slots_of_getElem? hid).1 hbalanced)
  exchanged := by
    rw [map_getElem?_free h]
    exact (Words.shuffle_perm _ w).map some
  rotated := getElem?_balanced h

/-- Among as many permutations in a row as there are counterbalanced siblings, one alone puts a
counterbalanced sibling into a counterbalanced place. -/
theorem existsUnique_permutation (h : orderSiblings ids scheme w = .ok (order, w')) {first : Nat}
    (hsize : first + (slots ids scheme.counterbalance).length ≤ UInt32.size) {place : Nat}
    (hslot : slot ∈ slots ids scheme.counterbalance)
    (hplace : place ∈ slots ids scheme.counterbalance) :
    ∃! p : UInt32,
      (first ≤ p.toNat ∧ p.toNat < first + (slots ids scheme.counterbalance).length) ∧
      ∃ order', orderSiblings ids { scheme with permutation := p } w = .ok (order', w') ∧
        order'[slot]? = some place := by
  obtain ⟨j, hj⟩ := List.mem_iff_getElem?.1 hslot
  obtain ⟨k, hk⟩ := List.mem_iff_getElem?.1 hplace
  have hstands : ∀ p : UInt32,
      (∃ order', orderSiblings ids { scheme with permutation := p } w = .ok (order', w') ∧
        order'[slot]? = some place) ↔
      (k + p.toNat) % (slots ids scheme.counterbalance).length = j := by
    intro p
    obtain ⟨order', h'⟩ := exists_orderSiblings_of_permutation h p
    rw [← getElem?_balanced_iff h' hj hk]
    constructor
    · rintro ⟨other, hother, hget⟩
      cases h'.symm.trans hother
      exact hget
    · exact fun hget => ⟨order', h', hget⟩
  simp only [hstands]
  exact existsUnique_word hsize
    (existsUnique_rotation (List.getElem?_eq_some_iff.1 hj).1 k first)

/-- Siblings can be ordered unless one of them is both exchangeable and counterbalanced.  Then each
kind has places of its own, the permutation decides about counterbalanced places alone, and as many
permutations in a row as there are such places put each counterbalanced sibling into each of them
once. -/
theorem orderSiblings_arranges (ids : List String) (scheme : SiblingScheme) (w : Words) :
    ((∃ e, orderSiblings ids scheme w = .error e) ↔
      ∃ id ∈ ids, id ∈ scheme.exchangeable ∧ id ∈ scheme.counterbalance) ∧
    ∀ order w', orderSiblings ids scheme w = .ok (order, w') →
      Arranged ids scheme order ∧
      (∀ p, ∃ order', orderSiblings ids { scheme with permutation := p } w = .ok (order', w') ∧
        ∀ slot, slot ∉ slots ids scheme.counterbalance → order'[slot]? = order[slot]?) ∧
      ∀ first, first + (slots ids scheme.counterbalance).length ≤ UInt32.size →
        ∀ slot ∈ slots ids scheme.counterbalance, ∀ place ∈ slots ids scheme.counterbalance,
          ∃! p : UInt32,
            (first ≤ p.toNat ∧ p.toNat < first + (slots ids scheme.counterbalance).length) ∧
            ∃ order', orderSiblings ids { scheme with permutation := p } w = .ok (order', w') ∧
              order'[slot]? = some place := by
  refine ⟨exists_orderSiblings_eq_error_iff, fun order w' h => ?_⟩
  refine ⟨arranged_of_orderSiblings h, fun p => ?_, fun first hsize slot hslot place hplace => ?_⟩
  · obtain ⟨order', h'⟩ := exists_orderSiblings_of_permutation h p
    exact ⟨order', h', fun slot hslot => getElem?_agree h h' rfl rfl hslot⟩
  · exact existsUnique_permutation h hsize hslot hplace

/-- Exchangeable, counterbalanced and fixed siblings in turn, one of them named twice. -/
def interleavedIds : List String := ["a", "x", "b", "y", "fixed", "x"]

def interleaved : SiblingScheme where
  exchangeable := ["b", "unknown", "a"]
  counterbalance := ["y", "x"]
  permutation := 4294967295

/-- Of the last three permutations one alone puts the last sibling first among the counterbalanced
ones. -/
theorem interleaved_arranged : ∃ order w',
    orderSiblings interleavedIds interleaved { word := fun _ => 0 } = .ok (order, w') ∧
      order = [2, 1, 0, 3, 4, 5] ∧ Arranged interleavedIds interleaved order ∧
      ∃! p : UInt32, (4294967293 ≤ p.toNat ∧ p.toNat < 4294967293 + 3) ∧
        ∃ order', orderSiblings interleavedIds { interleaved with permutation := p }
          { word := fun _ => 0 } = .ok (order', w') ∧ order'[1]? = some 5 := by
  obtain ⟨order, w', h, horder⟩ : ∃ order w',
      orderSiblings interleavedIds interleaved { word := fun _ => 0 } = .ok (order, w') ∧
        order = [2, 1, 0, 3, 4, 5] := ⟨_, _, rfl, rfl⟩
  obtain ⟨harranged, -, hunique⟩ := (orderSiblings_arranges _ _ _).2 order w' h
  refine ⟨order, w', h, horder, harranged, ?_⟩
  exact hunique 4294967293 (by decide) 1 (by decide) 5 (by decide)

end Trials
