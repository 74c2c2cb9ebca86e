import Trials.Proofs.Simulation.Pool

/-!
# Rotating through permutations balances the blocks

The participant with index `i` has the permutation `i mod permutations`, and the order of siblings
moves the `k`-th counterbalanced block to the `(k + permutation)`-th counterbalanced slot, counting
round.  If the number of counterbalanced blocks divides the number of permutations, the
participant's index alone decides (`topIds_balanced_iff`), and if it divides the number of
participants too, every block comes into every slot equally often (`count_rotation`).
-/

namespace Trials

open Experiment Simulation Violation

/-- Among which siblings a block changes places. -/
inductive SiblingKind where
  | fixed
  | exchangeable
  | counterbalanced
deriving DecidableEq

namespace Script

/-- The kind of the top-level block with an identifier. -/
def kindOf (s : Script) (id : String) : SiblingKind :=
  if id ∈ s.counterbalance then .counterbalanced
  else if id ∈ s.exchangeable then .exchangeable
  else .fixed

/-- The number of top-level blocks that are counterbalanced. -/
def balancedCount (s : Script) : Nat :=
  s.blocks.countP fun d => s.kindOf d.id = .counterbalanced

variable {s : Script} {id : String}

theorem kindOf_eq_counterbalanced : s.kindOf id = .counterbalanced ↔ id ∈ s.counterbalance := by
  unfold kindOf
  split_ifs <;> simp_all

theorem kindOf_eq_exchangeable :
    s.kindOf id = .exchangeable ↔ id ∉ s.counterbalance ∧ id ∈ s.exchangeable := by
  unfold kindOf
  split_ifs <;> simp_all

theorem kindOf_eq_fixed :
    s.kindOf id = .fixed ↔ id ∉ s.counterbalance ∧ id ∉ s.exchangeable := by
  unfold kindOf
  split_ifs <;> simp_all

end Script

namespace Siblings

/-- A set names as many siblings as it has slots. -/
theorem length_slots (ids set : List String) :
    (slots ids set).length = ids.countP set.contains := by
  rw [slots, ← List.countP_eq_length_filter]
  nth_rewrite 3 [← filterMap_getElem?_range ids]
  rw [List.countP_filterMap]
  refine List.countP_congr fun i _ => ?_
  cases ids[i]? <;> simp

end Siblings

open Siblings

variable {s : Script} {ids : List String} {p : UInt32} {w w' : Words} {order : List Nat}
  {slot place j k n : Nat} {own id : String}

/-- A slot is taken by a block of the same kind as the one that is declared there. -/
theorem kindOf_eq_of_order (h : orderSiblings ids (topScheme s p) w = .ok (order, w'))
    (hown : ids[slot]? = some own) (hplace : order[slot]? = some place)
    (hid : ids[place]? = some id) : s.kindOf id = s.kindOf own := by
  by_cases hbalanced : own ∈ s.counterbalance
  · obtain ⟨value, hvalue, hget⟩ :=
      exists_getElem?_balanced h ((mem_slots_of_getElem? hown).2 hbalanced)
    cases hplace.symm.trans hget
    have hmem : id ∈ s.counterbalance := (mem_slots_of_getElem? hid).1 hvalue
    rw [Script.kindOf_eq_counterbalanced.2 hbalanced, Script.kindOf_eq_counterbalanced.2 hmem]
  · by_cases hfree : own ∈ s.exchangeable
    · obtain ⟨value, hvalue, hget⟩ :=
        exists_getElem?_free h ((mem_slots_of_getElem? hown).2 hfree)
      cases hplace.symm.trans hget
      have hmem : id ∈ s.exchangeable := (mem_slots_of_getElem? hid).1 hvalue
      have hnot : id ∉ s.counterbalance := fun hmem' =>
        (orderSiblings_eq_ok h).1 place hvalue ((mem_slots_of_getElem? hid).2 hmem')
      rw [Script.kindOf_eq_exchangeable.2 ⟨hbalanced, hfree⟩,
        Script.kindOf_eq_exchangeable.2 ⟨hnot, hmem⟩]
    · have hget := getElem?_fixed h (List.getElem?_eq_some_iff.1 hown).1
        (fun hmem => hfree ((mem_slots_of_getElem? hown).1 hmem))
        (fun hmem => hbalanced ((mem_slots_of_getElem? hown).1 hmem))
      cases hplace.symm.trans hget
      cases hown.symm.trans hid
      rfl

/-! ## Who takes a counterbalanced slot -/

/-- The `k`-th counterbalanced block stands in the `j`-th counterbalanced slot just if the
permutation moves it there. -/
theorem getElem?_order_iff (h : orderSiblings ids (topScheme s p) w = .ok (order, w'))
    (hnodup : ids.Nodup) (hslot : (slots ids s.counterbalance)[j]? = some slot)
    (hplace : (slots ids s.counterbalance)[k]? = some place) (hid : ids[place]? = some id) :
    ((order[slot]?).bind fun place => ids[place]?) = some id ↔
      (k + p.toNat) % (slots ids s.counterbalance).length = j := by
  refine Iff.trans ?_ (getElem?_balanced_iff h hslot hplace)
  constructor
  · intro hoccupied
    obtain ⟨other, hother, hid'⟩ := Option.bind_eq_some_iff.1 hoccupied
    have hlt := (List.getElem?_eq_some_iff.1 hid').1
    rw [hother, (List.getElem?_inj hlt hnodup).1 (hid'.trans hid.symm)]
  · intro hstands
    rw [hstands]
    exact hid

theorem permutation_optionsFor (c : SimulationConfig) {i : Nat} (hi : i < 2 ^ 32) :
    (optionsFor c (UInt32.ofNat i)).assignment.permutation.toNat = i % c.permutations.toNat := by
  show (UInt32.ofNat i % c.permutations).toNat = _
  rw [UInt32.toNat_mod, UInt32.toNat_ofNat_of_lt' hi]

/-! ## The main result -/

variable {c : SimulationConfig} {sim : Simulation} {d own : BlockDecl} {o : BuildOptions}
  {e : Experiment}

theorem nodup_ids_of_violations (hrules : s.violations = []) : (s.blocks.map (·.id)).Nodup := by
  have hsiblings := (List.append_eq_nil_iff.1 hrules).1
  exact (nodup_of_idsFaults (List.append_eq_nil_iff.1 (List.map_eq_nil_iff.1 hsiblings)).1).1

theorem length_balancedSlots (s : Script) :
    (slots (s.blocks.map (·.id)) s.counterbalance).length = s.balancedCount := by
  rw [length_slots, List.countP_map, Script.balancedCount]
  refine List.countP_congr fun d _ => ?_
  rw [decide_eq_true_iff, Script.kindOf_eq_counterbalanced]
  exact List.contains_iff_mem

theorem getElem?_ids (h : s.blocks[slot]? = some d) : (s.blocks.map (·.id))[slot]? = some d.id := by
  rw [List.getElem?_map, h]
  rfl

theorem exists_getElem?_balancedSlots (h : s.blocks[slot]? = some d)
    (hkind : s.kindOf d.id = .counterbalanced) :
    ∃ j : Nat, (slots (s.blocks.map (·.id)) s.counterbalance)[j]? = some slot :=
  List.mem_iff_getElem?.1 ((mem_slots_of_getElem? (getElem?_ids h)).2
    (Script.kindOf_eq_counterbalanced.1 hkind))

/-- The index of a participant decides which counterbalanced block stands in a slot. -/
theorem topIds_balanced_iff (hpermutations : s.balancedCount ∣ c.permutations.toNat) {i : Nat}
    (hi : i < 2 ^ 32)
    (hbuild : ofSeed s (optionsFor c (UInt32.ofNat i)) (c.orderSeed (UInt32.ofNat i)) = .ok e)
    (hslot : (slots (s.blocks.map (·.id)) s.counterbalance)[j]? = some slot)
    (hplace : (slots (s.blocks.map (·.id)) s.counterbalance)[k]? = some place)
    (hd : s.blocks[place]? = some d) :
    e.topIds[slot]? = some d.id ↔ (k + i) % s.balancedCount = j := by
  obtain ⟨order, w, w', horder, htop⟩ := exists_order_of_build hbuild
  have hnodup := nodup_ids_of_violations (violations_eq_nil_of_build hbuild).2
  rw [htop, getElem?_order_iff horder hnodup hslot hplace (getElem?_ids hd), length_balancedSlots,
    permutation_optionsFor c hi]
  have hmod : (k + i % c.permutations.toNat) % s.balancedCount = (k + i) % s.balancedCount := by
    rw [Nat.add_mod, Nat.mod_mod_of_dvd i hpermutations, ← Nat.add_mod]
  rw [hmod]

/-- A block that is neither exchangeable nor counterbalanced stands in its own slot. -/
theorem topIds_fixed (hbuild : build s o w = .ok e) (hown : s.blocks[slot]? = some own)
    (hkind : s.kindOf own.id = .fixed) : e.topIds[slot]? = some own.id := by
  obtain ⟨order, w', w'', horder, htop⟩ := exists_order_of_build hbuild
  obtain ⟨hbalanced, hfree⟩ := Script.kindOf_eq_fixed.1 hkind
  have hids := getElem?_ids hown
  have hget := getElem?_fixed horder (List.getElem?_eq_some_iff.1 hids).1
    (fun hmem => hfree ((mem_slots_of_getElem? hids).1 hmem))
    (fun hmem => hbalanced ((mem_slots_of_getElem? hids).1 hmem))
  rw [htop, hget]
  exact hids

/-- In a slot stands a block of the kind that is declared there. -/
theorem kindOf_eq_of_topIds (hbuild : build s o w = .ok e) (hown : s.blocks[slot]? = some own)
    (hid : e.topIds[slot]? = some id) : s.kindOf id = s.kindOf own.id := by
  obtain ⟨order, w', w'', horder, htop⟩ := exists_order_of_build hbuild
  rw [htop] at hid
  obtain ⟨place, hplace, hid⟩ := Option.bind_eq_some_iff.1 hid
  exact kindOf_eq_of_order horder (getElem?_ids hown) hplace hid

/-- When the number of counterbalanced top-level blocks divides the number of permutations and that
of participants, each of these blocks runs in each of their slots equally often.  A fixed block runs
in its slot for every participant, and no other block does; and in no slot runs a block of another
kind than the one that is declared there. -/
theorem rotation_balances_blocks (hpermutations : s.balancedCount ∣ c.permutations.toNat)
    (hparticipants : s.balancedCount ∣ c.participants.toNat) (hsim : simulate s c = .ok sim)
    (hown : s.blocks[slot]? = some own) :
    (s.kindOf own.id = .counterbalanced → ∀ d ∈ s.blocks, s.kindOf d.id = .counterbalanced →
        sim.summary.slots.tally slot d.id = c.participants.toNat / s.balancedCount) ∧
      (s.kindOf own.id = .fixed → ∀ id, sim.summary.slots.tally slot id =
        if id = own.id then c.participants.toNat else 0) ∧
      ∀ id, s.kindOf id ≠ s.kindOf own.id → sim.summary.slots.tally slot id = 0 := by
  have hsmall : ∀ i < c.participants.toNat, i < 2 ^ 32 := fun i hi =>
    Nat.lt_trans hi c.participants.toNat_lt
  refine ⟨fun hkind d hd hbalanced => ?_, fun hkind id => ?_, fun id hkind => ?_⟩
  · obtain ⟨place, hplace⟩ := List.mem_iff_getElem?.1 hd
    obtain ⟨j, hj⟩ := exists_getElem?_balancedSlots hown hkind
    obtain ⟨k, hk⟩ := exists_getElem?_balancedSlots hplace hbalanced
    have hjn := (List.getElem?_eq_some_iff.1 hj).1
    have hkn := (List.getElem?_eq_some_iff.1 hk).1
    rw [length_balancedSlots] at hjn hkn
    rw [tally_simulate hsim fun i hi e hbuild =>
      topIds_balanced_iff hpermutations (hsmall i hi) hbuild hj hk hplace]
    exact count_rotation hjn hkn hparticipants
  · rw [tally_simulate (P := fun _ => id = own.id) hsim fun i hi e hbuild => by
      rw [topIds_fixed hbuild hown hkind, Option.some.injEq, eq_comm]]
    by_cases hid : id = own.id
    · simp [hid, Nat.count]
    · simp [hid, Nat.count]
  · rw [tally_simulate (P := fun _ => False) hsim fun i _ e hbuild =>
      iff_false_intro fun hid => hkind (kindOf_eq_of_topIds hbuild hown hid)]
    simp [Nat.count]

/-- Four participants who rotate through two permutations. -/
def smallPool : SimulationConfig where
  participants := 4
  versions := 1
  permutations := 2
  seed := 7
  correctRate := .one
  window := defaultWindow
  maxPages := none

theorem exists_simulate_rotating : ∃ sim, simulate rotating smallPool = .ok sim := by
  refine exists_simulate rfl rfl (by decide) fun path d hd => ?_
  rcases (Declares.cons_iff _).1 hd with hd | hd
  · rw [(Declares.leaf_iff.1 hd).2]
  rcases (Declares.cons_iff _).1 hd with hd | hd
  · rw [(Declares.leaf_iff.1 hd).2]
  · rw [(Declares.leaf_iff.1 hd).2]

/-- Each of the two rotating blocks runs twice in each of the first two slots, and the last block
always runs in the last one. -/
theorem rotating_balanced : ∃ sim, simulate rotating smallPool = .ok sim ∧
    (∀ slot < 2, ∀ id ∈ ["a", "b"], sim.summary.slots.tally slot id = 2) ∧
      sim.summary.slots.tally 2 "end" = 4 ∧ sim.summary.slots.tally 0 "end" = 0 := by
  obtain ⟨sim, hsim⟩ := exists_simulate_rotating
  have hpermutations : rotating.balancedCount ∣ smallPool.permutations.toNat := by decide
  have hparticipants : rotating.balancedCount ∣ smallPool.participants.toNat := by decide
  have hbalance {slot : Nat} {own : BlockDecl} (hown : rotating.blocks[slot]? = some own) :=
    rotation_balances_blocks hpermutations hparticipants hsim hown
  refine ⟨sim, hsim, fun slot hlt id hid => ?_, ?_, ?_⟩
  · obtain ⟨own, hown, hkind⟩ : ∃ own, rotating.blocks[slot]? = some own ∧
        rotating.kindOf own.id = .counterbalanced := by
      match slot, hlt with
      | 0, _ => exact ⟨_, rfl, rfl⟩
      | 1, _ => exact ⟨_, rfl, rfl⟩
    obtain ⟨d, hd, rfl, hdkind⟩ : ∃ d ∈ rotating.blocks, d.id = id ∧
        rotating.kindOf d.id = .counterbalanced := by
      rcases List.mem_cons.1 hid with rfl | hid
      · exact ⟨_, List.mem_cons_self, rfl, rfl⟩
      · obtain rfl := List.mem_singleton.1 hid
        exact ⟨_, List.mem_cons_of_mem _ List.mem_cons_self, rfl, rfl⟩
    exact (hbalance hown).1 hkind d hd hdkind
  · have hend : rotating.blocks[2]? = some { id := "end", pages := some [{ id := "r" }] } := rfl
    exact (hbalance hend).2.1 rfl "end"
  · have hfirst : rotating.blocks[0]? = some { id := "a", pages := some [{ id := "p" }] } := rfl
    exact (hbalance hfirst).2.2 "end" (by decide)

end Trials
