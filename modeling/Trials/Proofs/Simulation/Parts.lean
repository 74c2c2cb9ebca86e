import Trials.Proofs.Simulation.Balance

/-!
# A pool adds up to its parts

What is seen of a participant depends on nothing that the participants before have done, only on the
assignment and on the seed that the participant's index gives (`seenBy_after`).  So a pool may be
cut wherever the assignments begin anew, and its summary is the sum of those of its parts
(`simulate_adds_up`).  The summary counts what is seen, so it does not depend on the order in which
the participants are recorded either (`ofSeen_eq_of_perm`).
-/

namespace Trials

open Experiment Simulation

namespace SimulationConfig

/-- The first participants of a pool, as a pool of their own. -/
def first (c : SimulationConfig) (k : UInt32) : SimulationConfig := { c with participants := k }

/-- The participants of a pool that come after the first ones, as a pool of their own. -/
def after (c : SimulationConfig) (k : UInt32) : SimulationConfig :=
  { c with participants := c.participants - k, seed := c.seed + k.toUInt64 }

end SimulationConfig

namespace SimulationSummary

/-- The counts of two summaries, added one by one. -/
def add (a b : SimulationSummary) : SimulationSummary where
  participants := a.participants + b.participants
  completed := a.completed + b.completed
  pagesShown := a.pagesShown + b.pagesShown
  slots := a.slots.addTables b.slots
  firstPages := a.firstPages.addTables b.firstPages

theorem ofSeen_append (seen others : List Seen) :
    ofSeen (seen ++ others) = (ofSeen seen).add (ofSeen others) := by
  simp only [ofSeen, add, List.length_append, List.countP_append, List.map_append, List.sum_append,
    List.flatMap_append, Table.tabulate_append]

theorem ofSeen_eq_of_perm {seen others : List Seen} (h : seen.Perm others) :
    ofSeen seen = ofSeen others := by
  have hplacements : (seen.flatMap (·.placements)).Perm (others.flatMap (·.placements)) :=
    h.flatMap_right _
  have hfirsts : (seen.flatMap (·.firsts)).Perm (others.flatMap (·.firsts)) := h.flatMap_right _
  simp only [ofSeen, h.length_eq, h.countP_eq, (h.map _).sum_eq,
    Table.tabulate_eq_of_perm hplacements, Table.tabulate_eq_of_perm hfirsts]

/-- A summary is the sum of two others. -/
structure SumOf (whole front rest : SimulationSummary) : Prop where
  eq_add : whole = front.add rest
  tally_slots : ∀ slot id, whole.slots.tally slot id =
    front.slots.tally slot id + rest.slots.tally slot id
  tally_firstPages : ∀ text page, whole.firstPages.tally text page =
    front.firstPages.tally text page + rest.firstPages.tally text page

theorem sumOf_ofSeen (seen others : List Seen) :
    (ofSeen (seen ++ others)).SumOf (ofSeen seen) (ofSeen others) := by
  constructor
  case eq_add => exact ofSeen_append seen others
  case tally_slots =>
    intro slot id
    rw [ofSeen_append]
    exact Table.tally_addTables (Table.counted_tabulate _).toSorted
      (Table.counted_tabulate _).toSorted slot id
  case tally_firstPages =>
    intro text page
    rw [ofSeen_append]
    exact Table.tally_addTables (Table.counted_tabulate _).toSorted
      (Table.counted_tabulate _).toSorted text page

end SimulationSummary

open SimulationSummary

/-! ## Cutting a pool -/

variable {s : Script} {c : SimulationConfig} {k : UInt32} {i : Nat}

theorem toNat_ofNat_add (h : k.toNat + i < UInt32.size) :
    (UInt32.ofNat (k.toNat + i)).toNat = k.toNat + (UInt32.ofNat i).toNat := by
  rw [UInt32.toNat_ofNat_of_lt' h, UInt32.toNat_ofNat_of_lt' (by omega)]

/-- The assignments of a pool begin anew after a number of participants that both moduli divide. -/
theorem assignmentFor_after (hversions : c.versions.toNat ∣ k.toNat)
    (hpermutations : c.permutations.toNat ∣ k.toNat) (h : k.toNat + i < UInt32.size) :
    c.assignmentFor (UInt32.ofNat (k.toNat + i)) =
      (c.after k).assignmentFor (UInt32.ofNat i) := by
  have hmod {m : UInt32} (hdvd : m.toNat ∣ k.toNat) :
      UInt32.ofNat (k.toNat + i) % m = UInt32.ofNat i % m := by
    obtain ⟨rounds, hrounds⟩ := hdvd
    apply UInt32.toNat_inj.1
    rw [UInt32.toNat_mod, UInt32.toNat_mod, toNat_ofNat_add h, hrounds, Nat.mul_add_mod]
  simp only [SimulationConfig.assignmentFor, SimulationConfig.after, hmod hversions,
    hmod hpermutations]

/-- The seeds of the later participants go on from that of the first of them. -/
theorem orderSeed_after (h : k.toNat + i < UInt32.size) :
    c.orderSeed (UInt32.ofNat (k.toNat + i)) = (c.after k).orderSeed (UInt32.ofNat i) := by
  have hindex : (UInt32.ofNat (k.toNat + i)).toUInt64 = k.toUInt64 + (UInt32.ofNat i).toUInt64 := by
    have hsum := toNat_ofNat_add h
    have hlt := (UInt32.ofNat (k.toNat + i)).toNat_lt
    apply UInt64.toNat_inj.1
    rw [UInt64.toNat_add, UInt32.toNat_toUInt64, UInt32.toNat_toUInt64, UInt32.toNat_toUInt64]
    omega
  rw [SimulationConfig.orderSeed, hindex, ← UInt64.add_assoc]
  rfl

/-- A later participant is seen as the participant of the later ones' own pool is. -/
theorem seenBy_after (s : Script) (hversions : c.versions.toNat ∣ k.toNat)
    (hpermutations : c.permutations.toNat ∣ k.toNat) (h : k.toNat + i < UInt32.size) :
    seenBy s c (UInt32.ofNat (k.toNat + i)) = seenBy s (c.after k) (UInt32.ofNat i) := by
  have hoptions : optionsFor c (UInt32.ofNat (k.toNat + i)) =
      optionsFor (c.after k) (UInt32.ofNat i) := by
    rw [optionsFor, assignmentFor_after hversions hpermutations h]
    rfl
  have hanswers : c.answerSeed (UInt32.ofNat (k.toNat + i)) =
      (c.after k).answerSeed (UInt32.ofNat i) := by
    simp only [SimulationConfig.answerSeed, orderSeed_after h]
  rw [seenBy, hoptions, orderSeed_after h]
  simp only [sessionOf, hanswers]
  rfl

theorem mapM_congr {α β : Type} {f g : α → Option β} {items : List α}
    (h : ∀ a ∈ items, f a = g a) : items.mapM f = items.mapM g := by
  induction items with
  | nil => rfl
  | cons a rest ih =>
    obtain ⟨ha, hrest⟩ := List.forall_mem_cons.1 h
    rw [List.mapM_cons, List.mapM_cons, ha, ih hrest]

/-- What is seen of all participants is what is seen of the first ones and then of the others. -/
theorem exists_append_of_seenByAll {seen : List Seen} (hlt : k < c.participants)
    (hversions : c.versions.toNat ∣ k.toNat) (hpermutations : c.permutations.toNat ∣ k.toNat)
    (h : seenByAll s c = some seen) :
    ∃ front rest, seen = front ++ rest ∧ seenByAll s (c.first k) = some front ∧
      seenByAll s (c.after k) = some rest := by
  have hle : k.toNat ≤ c.participants.toNat := UInt32.le_iff_toNat_le.1 (UInt32.le_of_lt hlt)
  have hrest : (c.after k).participants.toNat = c.participants.toNat - k.toNat :=
    UInt32.toNat_sub_of_le _ _ (UInt32.le_of_lt hlt)
  have hindices : List.range c.participants.toNat = List.range k.toNat ++
      (List.range (c.after k).participants.toNat).map (k.toNat + ·) := by
    rw [hrest, ← List.range_add, Nat.add_sub_cancel' hle]
  rw [seenByAll, hindices, List.mapM_append] at h
  obtain ⟨front, hfront, h⟩ := Option.bind_eq_some_iff.1 h
  obtain ⟨others, hothers, h⟩ := Option.bind_eq_some_iff.1 h
  refine ⟨front, others, (Option.some.inj h).symm, hfront, ?_⟩
  rw [List.mapM_map] at hothers
  refine (mapM_congr fun i hi => ?_).trans hothers
  have hi := List.mem_range.1 hi
  have hsize := c.participants.toNat_lt
  refine (seenBy_after s hversions hpermutations ?_).symm
  show k.toNat + i < 2 ^ 32
  omega

/-! ## The main result -/

/-- A pool whose assignments begin anew after its first participants adds up to these and to the
others: if it comes to a result, then so do they, and its summary is the sum of theirs.  The
participants may be recorded in any order. -/
theorem simulate_adds_up {sim : Simulation} (hpos : 0 < k) (hlt : k < c.participants)
    (hversions : c.versions.toNat ∣ k.toNat) (hpermutations : c.permutations.toNat ∣ k.toNat)
    (hsim : simulate s c = .ok sim) :
    (∃ front rest, simulate s (c.first k) = .ok front ∧ simulate s (c.after k) = .ok rest ∧
      sim.summary.SumOf front.summary rest.summary) ∧
      ∃ seen, seenByAll s c = some seen ∧ ∀ others : List Seen, others.Perm seen →
        others.foldl (fun summary p => summary.record p.top p.shown p.finished) {} =
          sim.summary := by
  obtain ⟨seen, hseen, hsummary⟩ := exists_seen_of_simulate hsim
  obtain ⟨-, hrotation⟩ := SimulationConfig.fault?_eq_none_iff.1 (fault?_of_simulate hsim)
  constructor
  · obtain ⟨p, q, rfl, hp, hq⟩ := exists_append_of_seenByAll hlt hversions hpermutations hseen
    have hfirst : (c.first k).fault? = none :=
      SimulationConfig.fault?_eq_none_iff.2 ⟨(UInt32.ne_of_lt hpos).symm, hrotation⟩
    have hafter : (c.after k).fault? = none := by
      refine SimulationConfig.fault?_eq_none_iff.2 ⟨fun hzero => ?_, hrotation⟩
      have heq : c.participants = 0 + k := UInt32.sub_eq_iff_eq_add.1 hzero
      rw [UInt32.zero_add] at heq
      exact UInt32.ne_of_lt hlt heq.symm
    obtain ⟨front, hfront, hfrontSummary⟩ := exists_simulate_of_seen hfirst hp
    obtain ⟨rest, hrest, hrestSummary⟩ := exists_simulate_of_seen hafter hq
    refine ⟨front, rest, hfront, hrest, ?_⟩
    rw [hsummary, hfrontSummary, hrestSummary]
    exact sumOf_ofSeen p q
  · refine ⟨seen, hseen, fun others hperm => ?_⟩
    rw [hsummary, ← ofSeen_eq_of_perm hperm]
    exact foldl_note others

/-- The four participants add up to the first two and the last two of them. -/
theorem rotating_adds_up : ∃ sim front rest, simulate rotating smallPool = .ok sim ∧
    simulate rotating { smallPool with participants := 2 } = .ok front ∧
    simulate rotating { smallPool with participants := 2, seed := 9 } = .ok rest ∧
    sim.summary.SumOf front.summary rest.summary := by
  obtain ⟨sim, hsim⟩ := exists_simulate_rotating
  obtain ⟨⟨front, rest, hfront, hrest, hsum⟩, -⟩ :=
    simulate_adds_up (k := 2) (by decide) (by decide) (by decide) (by decide) hsim
  exact ⟨sim, front, rest, hsim, hfront, hrest, hsum⟩

end Trials
