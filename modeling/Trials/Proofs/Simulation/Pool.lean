import Mathlib.Data.Nat.Count
import Trials.Simulation.Summary
import Trials.Proofs.Experiment.Assignment
import Trials.Proofs.Session.PageCap
import Trials.Proofs.Simulation.Tabulation

/-!
# What a pool of participants adds up to

A session leaves the top-level blocks as they have been built (`topIds_of_reachable`), in the order
that was drawn for the siblings of the top level (`exists_order_of_build`).  A simulation comes to a
result just if each participant comes to the end of a session, and then it counts what is `Seen` of
them (`summary_simulate`).  It does so unless an experiment cannot be built (`exists_simulate`), for
sessions with a store in memory do not fail.
-/

namespace Trials

open BlockTable Violation

namespace Experiment

variable {s : Script} {o : BuildOptions} {w : Words} {start e : Experiment}

/-! ## The top level -/

/-- The identifiers of the top-level blocks, in run order. -/
def topIds (e : Experiment) : List String := e.top.map fun b => b.info.id

theorem Reaches.roots {seen : List (Nat × Nat)} (h : Reaches start seen e) (hstart : start.Sound) :
    e.roots = start.roots :=
  h.invariant (P := fun _ e => e.roots = start.roots) hstart rfl
    (fun hsound ih hmoved => (hsound.kept hmoved).roots.trans ih) id

/-- Moves leave the top-level blocks as they are. -/
theorem topIds_of_reachable (h : Reachable start e) (hstart : start.Sound) :
    e.topIds = start.topIds := by
  obtain ⟨seen, h⟩ := h
  have hshapes := h.shapes hstart
  rw [topIds, topIds, top, top, h.roots hstart, List.map_filterMap, List.map_filterMap]
  refine List.filterMap_congr fun i _ => ?_
  rcases cases_of_shapes hshapes i with ⟨hnone', hnone⟩ | ⟨b, b', hb, hb', hs⟩
  · rw [hnone, hnone']
  · rw [hb, hb', Option.map_some, Option.map_some, (Block.shape_inj.1 hs).1]

theorem getElem?_filterMap {α β : Type} {f : α → Option β} {l : List α}
    (h : ∀ a ∈ l, ∃ b, f a = some b) (i : Nat) : (l.filterMap f)[i]? = (l[i]?).bind f := by
  have hmap := congrArg (·[i]?) (map_some_filterMap h)
  simp only [List.getElem?_map] at hmap
  cases hget : l[i]? with
  | none =>
    rw [hget] at hmap
    simpa using hmap
  | some a =>
    rw [hget] at hmap
    obtain ⟨b, hb, hab⟩ := Option.map_eq_some_iff.1 hmap
    rw [hb]
    exact hab

/-- The scheme by which the top-level blocks of a script are ordered. -/
def topScheme (s : Script) (permutation : UInt32) : SiblingScheme :=
  { exchangeable := s.exchangeable, counterbalance := s.counterbalance, permutation }

/-- The top-level blocks of a script stand in the order that is drawn for siblings. -/
theorem exists_topIds_of_build (h : build s o w = .ok e) : ∃ order w' w'',
    orderSiblings (s.blocks.map (·.id)) (topScheme s o.assignment.permutation) w' =
        .ok (order, w'') ∧
      e.topIds = order.filterMap fun place => (s.blocks.map (·.id))[place]? := by
  obtain ⟨hrules, numbers, order, w', w'', hbuilt, horder, he⟩ := exists_of_build h
  have hrest := (List.append_eq_nil_iff.1 hrules).2
  have hsiblings := eq_ok_of_mapError_eq_ok horder
  rw [idsOf_of_buildBlocks hrest hbuilt] at hsiblings
  refine ⟨order, w', w'', hsiblings, ?_⟩
  have hid : ∀ place : Nat, ((numbers[place]?).bind fun i => (e.table[i]?).map fun b => b.info.id) =
      (s.blocks.map (·.id))[place]? := by
    intro place
    have hids := congrArg (·[place]?) (ids_of_buildBlocks hrest hbuilt)
    simp only [List.getElem?_map] at hids ⊢
    cases hnumber : numbers[place]? with
    | none =>
      rw [hnumber] at hids
      simpa using hids
    | some i =>
      rw [hnumber] at hids
      obtain ⟨d, hd, hdid⟩ := Option.map_eq_some_iff.1 hids.symm
      rw [hd]
      exact hdid.symm
  have hroots : e.roots = order.filterMap fun place => numbers[place]? := by rw [he]
  rw [topIds, top, hroots, List.map_filterMap, List.filterMap_filterMap]
  exact List.filterMap_congr fun place _ => hid place

/-- In each slot of the top level stands the block that an order of the siblings puts there. -/
theorem exists_order_of_build (h : build s o w = .ok e) : ∃ order w' w'',
    orderSiblings (s.blocks.map (·.id)) (topScheme s o.assignment.permutation) w' =
        .ok (order, w'') ∧
      ∀ slot : Nat, e.topIds[slot]? =
        (order[slot]?).bind fun place => (s.blocks.map (·.id))[place]? := by
  obtain ⟨order, w', w'', horder, htop⟩ := exists_topIds_of_build h
  refine ⟨order, w', w'', horder, fun slot => ?_⟩
  rw [htop]
  refine getElem?_filterMap (fun place hplace => ?_) slot
  have hlt := List.mem_range.1 ((perm_of_orderSiblings horder).mem_iff.1 hplace)
  exact ⟨_, List.getElem?_eq_getElem hlt⟩

/-- Each top-level block of a script stands in one slot of the top level. -/
theorem topIds_perm (h : build s o w = .ok e) : e.topIds.Perm (s.blocks.map (·.id)) := by
  obtain ⟨order, w', w'', horder, htop⟩ := exists_topIds_of_build h
  rw [htop]
  exact filterMap_getElem?_perm (perm_of_orderSiblings horder)

end Experiment

open Experiment

/-! ## Sessions -/

/-- A session with a store in memory that has not been finalized does not fail. -/
theorem Session.Ends.exists_stop {τ : Type} [Participant τ] {cap : Option Nat}
    {first : Session MemoryStore τ}
    {r : Except StoreError SessionStop × Session MemoryStore τ} (h : Session.Ends cap first r)
    (hopen : first.Open) : ∃ stop, r.1 = .ok stop := by
  induction h with
  | @stop s r h =>
    rcases Session.turn_cases cap s with ⟨pages, hturn⟩ | hturn
    · cases hturn.symm.trans h
      exact ⟨_, rfl⟩
    · exact ⟨_, (hopen.of_inr (hturn.symm.trans h)).eq_finished⟩
  | @next s s' r h _ ih =>
    rcases Session.turn_cases cap s with ⟨pages, hturn⟩ | hturn
    · cases hturn.symm.trans h
    · exact ih (hopen.of_inl (hturn.symm.trans h))

theorem SimulationConfig.fault?_eq_none_iff {c : SimulationConfig} : c.fault? = none ↔
    c.participants ≠ 0 ∧ c.versions ≠ 0 ∧ c.permutations ≠ 0 ∧
      c.correctRate.isProbability = true := by
  unfold fault?
  split_ifs with hparticipants hrotation hrate
  · simp [hparticipants]
  · rcases hrotation with h | h <;> simp [h]
  · simp only [Bool.not_eq_true'] at hrate
    simp [hrate]
  · simp only [Bool.not_eq_true', Bool.not_eq_false] at hrate
    exact iff_of_true rfl ⟨hparticipants, (not_or.1 hrotation).1, (not_or.1 hrotation).2, hrate⟩

/-! ## What is seen of participants -/

/-- What is seen of a participant. -/
structure Seen where
  /-- The identifiers of the top-level blocks, in run order. -/
  top : List String
  /-- The paths of the pages shown, oldest first. -/
  shown : List Path
  /-- Whether the session has come to its end. -/
  finished : Bool

namespace Seen

/-- The slots of the top level with the blocks in them. -/
def placements (p : Seen) : List (Nat × String) := p.top.zipIdx.map Prod.swap

/-- The blocks of which a page has been shown, by the texts of their paths, with the first page. -/
def firsts (p : Seen) : List (String × String) := SimulationSummary.firstSeen p.shown

end Seen

namespace SimulationSummary

/-- The summary with one more participant. -/
def note (summary : SimulationSummary) (p : Seen) : SimulationSummary :=
  summary.record p.top p.shown p.finished

/-- What is counted of some participants. -/
def ofSeen (seen : List Seen) : SimulationSummary where
  participants := seen.length
  completed := seen.countP (·.finished)
  pagesShown := (seen.map (·.shown.length)).sum
  slots := Table.tabulate (seen.flatMap (·.placements))
  firstPages := Table.tabulate (seen.flatMap (·.firsts))

theorem ofSeen_concat (seen : List Seen) (p : Seen) :
    ofSeen (seen ++ [p]) = (ofSeen seen).note p := by
  have hcompleted : (seen ++ [p]).countP (·.finished) = ((ofSeen seen).note p).completed := by
    rw [List.countP_append, List.countP_singleton]
    rfl
  have hpages : ((seen ++ [p]).map (·.shown.length)).sum = ((ofSeen seen).note p).pagesShown := by
    rw [List.map_append, List.sum_append, List.map_singleton, List.sum_singleton]
    rfl
  have hslots : Table.tabulate ((seen ++ [p]).flatMap (·.placements)) =
      ((ofSeen seen).note p).slots := by
    rw [List.flatMap_append, List.flatMap_singleton, Table.tabulate, List.foldl_append,
      Seen.placements, List.foldl_map]
    rfl
  have hfirsts : Table.tabulate ((seen ++ [p]).flatMap (·.firsts)) =
      ((ofSeen seen).note p).firstPages := by
    rw [List.flatMap_append, List.flatMap_singleton, Table.tabulate, List.foldl_append]
    rfl
  rw [ofSeen, hcompleted, hpages, hslots, hfirsts, List.length_append]
  rfl

/-- Recording the participants one after the other counts just what is to be counted. -/
theorem foldl_note (seen : List Seen) : seen.foldl note {} = ofSeen seen := by
  induction seen using List.reverseRecOn with
  | nil => rfl
  | append_singleton seen p ih => rw [List.foldl_concat, ih, ofSeen_concat]

end SimulationSummary

namespace Simulation

variable {s : Script} {c : SimulationConfig} {index : UInt32}

/-- What the experiment of a participant is built for. -/
def optionsFor (c : SimulationConfig) (index : UInt32) : BuildOptions :=
  { assignment := c.assignmentFor index, window := c.window }

/-- The session of a participant, for whom an experiment has been built. -/
def sessionOf (c : SimulationConfig) (index : UInt32) (e : Experiment) :
    Session MemoryStore SimulatedParticipant where
  experiment := e
  store := {}
  participant := .ofRate c.correctRate (Words.ofSeed (c.answerSeed index))

/-- What is seen of the participant with an index, if there is an experiment and the session ends. -/
def seenBy (s : Script) (c : SimulationConfig) (index : UInt32) : Option Seen :=
  match ofSeed s (optionsFor c index) (c.orderSeed index) with
  | .error _ => none
  | .ok e =>
    match (sessionOf c index e).run c.maxPages with
    | (.error _, _) => none
    | (.ok stop, last) => some ⟨last.experiment.topIds, last.shown, stop == .finished⟩

/-- What is seen of all participants, in the order of their indices. -/
def seenByAll (s : Script) (c : SimulationConfig) : Option (List Seen) :=
  (List.range c.participants.toNat).mapM fun i => seenBy s c (UInt32.ofNat i)

/-- A participant for whom an experiment has been built comes to the end of the session, and has
seen the top-level blocks in the order in which they have been built. -/
theorem exists_seenBy {e : Experiment}
    (hbuild : ofSeed s (optionsFor c index) (c.orderSeed index) = .ok e) :
    ∃ stop last, Session.Ends c.maxPages (sessionOf c index e) (.ok stop, last) ∧
      seenBy s c index = some ⟨e.topIds, last.shown, stop == .finished⟩ := by
  have hready := ready_of_build hbuild
  obtain ⟨⟨result, last⟩, hends, hreach⟩ :=
    Session.exists_ends hready c.maxPages [] (sessionOf c index e) .start
  obtain ⟨stop, hstop⟩ := hends.exists_stop ⟨hready.sound, hready.finished, rfl⟩
  obtain rfl : result = .ok stop := hstop
  refine ⟨stop, last, hends, ?_⟩
  rw [← topIds_of_reachable hreach hready.sound]
  simp only [seenBy, hbuild, hends.run_eq]

theorem exists_ends_of_seenBy {p : Seen} (h : seenBy s c index = some p) :
    ∃ e stop last, ofSeed s (optionsFor c index) (c.orderSeed index) = .ok e ∧
      Session.Ends c.maxPages (sessionOf c index e) (.ok stop, last) ∧
      p = ⟨e.topIds, last.shown, stop == .finished⟩ := by
  cases hbuild : ofSeed s (optionsFor c index) (c.orderSeed index) with
  | error cause =>
    rw [seenBy, hbuild] at h
    cases h
  | ok e =>
    obtain ⟨stop, last, hends, hseen⟩ := exists_seenBy hbuild
    exact ⟨e, stop, last, rfl, hends, Option.some.inj (h.symm.trans hseen)⟩

/-! ## The summary of a simulation -/

theorem summary_addParticipant (s : Script) (c : SimulationConfig) (index : UInt32)
    (before : Simulation) :
    (addParticipant s c index before).toOption.map (·.summary) =
      (seenBy s c index).map before.summary.note := by
  unfold addParticipant seenBy
  cases hbuild : ofSeed s (optionsFor c index) (c.orderSeed index) with
  | error cause =>
    unfold optionsFor at hbuild
    simp only [hbuild]
    rfl
  | ok e =>
    cases hrun : (sessionOf c index e).run c.maxPages with
    | mk result last =>
      unfold optionsFor at hbuild
      unfold sessionOf at hrun
      simp only [hbuild, sessionOf, hrun]
      cases result <;> rfl

theorem summary_addFrom (s : Script) (c : SimulationConfig) (count index : Nat)
    (before : Simulation) :
    (addFrom s c count index before).toOption.map (·.summary) =
      ((List.range' index count).mapM fun i => seenBy s c (UInt32.ofNat i)).map
        (·.foldl SimulationSummary.note before.summary) := by
  -- by induction on the number of participants left, for any summary of those before
  induction count generalizing index before with
  | zero => rfl
  | succ count ih =>
    have hadd := summary_addParticipant s c (UInt32.ofNat index) before
    rw [addFrom, List.range'_succ, List.mapM_cons]
    cases hmiddle : addParticipant s c (UInt32.ofNat index) before with
    | error cause =>
      rw [hmiddle] at hadd
      rw [Option.map_eq_none_iff.1 hadd.symm]
      rfl
    | ok middle =>
      rw [hmiddle] at hadd
      obtain ⟨p, hp, hsummary : before.summary.note p = middle.summary⟩ :=
        Option.map_eq_some_iff.1 hadd.symm
      rw [hp]
      refine (ih (index + 1) middle).trans ?_
      rw [← hsummary]
      cases (List.range' (index + 1) count).mapM fun i => seenBy s c (UInt32.ofNat i) <;> rfl

/-- A pool without faults is simulated just if every participant comes to the end of the session,
and the summary counts what is seen of them. -/
theorem summary_simulate (h : c.fault? = none) :
    (simulate s c).toOption.map (·.summary) = (seenByAll s c).map SimulationSummary.ofSeen := by
  have hsummary := summary_addFrom s c c.participants.toNat 0 {}
  rw [simulate, h, seenByAll, List.range_eq_range']
  refine hsummary.trans (congrArg (Option.map · _) ?_)
  exact funext SimulationSummary.foldl_note

theorem fault?_of_simulate {sim : Simulation} (h : simulate s c = .ok sim) : c.fault? = none := by
  unfold simulate at h
  split at h
  · cases h
  next hfault => exact hfault

theorem participants_ne_zero_of_simulate {sim : Simulation} (h : simulate s c = .ok sim) :
    c.participants ≠ 0 :=
  (SimulationConfig.fault?_eq_none_iff.1 (fault?_of_simulate h)).1

theorem exists_seen_of_simulate {sim : Simulation} (h : simulate s c = .ok sim) :
    ∃ seen, seenByAll s c = some seen ∧ sim.summary = .ofSeen seen := by
  have hsummary := summary_simulate (s := s) (fault?_of_simulate h)
  rw [h] at hsummary
  obtain ⟨seen, hseen, hcounted⟩ := Option.map_eq_some_iff.1 hsummary.symm
  exact ⟨seen, hseen, hcounted.symm⟩

theorem exists_simulate_of_seen {seen : List Seen} (hfault : c.fault? = none)
    (h : seenByAll s c = some seen) :
    ∃ sim, simulate s c = .ok sim ∧ sim.summary = .ofSeen seen := by
  have hsummary := summary_simulate (s := s) hfault
  rw [h] at hsummary
  obtain ⟨sim, hsim, hcounted⟩ := Option.map_eq_some_iff.1 hsummary
  exact ⟨sim, eq_ok_of_toOption_eq_some hsim, hcounted⟩

theorem forall₂_of_seenByAll {seen : List Seen} (h : seenByAll s c = some seen) :
    List.Forall₂ (fun i p => seenBy s c (UInt32.ofNat i) = some p)
      (List.range c.participants.toNat) seen :=
  forall₂_of_mapM_eq_some h

theorem length_of_seenByAll {seen : List Seen} (h : seenByAll s c = some seen) :
    seen.length = c.participants.toNat := by
  rw [← (forall₂_of_seenByAll h).length_eq, List.length_range]

theorem exists_seenBy_of_mem {seen : List Seen} (h : seenByAll s c = some seen) {p : Seen}
    (hp : p ∈ seen) : ∃ index, seenBy s c index = some p := by
  have hsessions := forall₂_of_seenByAll h
  generalize List.range c.participants.toNat = indices at hsessions
  clear h
  induction hsessions with
  | nil => cases hp
  | @cons i _ _ _ hself _ ih =>
    rcases List.mem_cons.1 hp with rfl | hp
    · exact ⟨UInt32.ofNat i, hself⟩
    · exact ih hp

/-- A pool without faults runs through a script that breaks no rule and keeps no pages apart. -/
theorem exists_simulate (hrules : s.violations = []) (hfault : c.fault? = none)
    (hwindow : c.window ≠ 0) (hplain : ∀ path d, s.Declares path d → d.pseudorandom = false) :
    ∃ sim, simulate s c = .ok sim := by
  have hseen : ∀ i ∈ List.range c.participants.toNat, ∃ p, seenBy s c (UInt32.ofNat i) = some p := by
    intro i _
    cases hbuild : ofSeed s (optionsFor c (UInt32.ofNat i)) (c.orderSeed (UInt32.ofNat i)) with
    | ok e =>
      obtain ⟨stop, last, -, hseen⟩ := exists_seenBy hbuild
      exact ⟨_, hseen⟩
    | error cause =>
      obtain ⟨path, d, -, -, hd, hpseudorandom, -⟩ := failsOnly_build hwindow hrules _ _ hbuild
      cases hpseudorandom.symm.trans (hplain path d hd)
  obtain ⟨seen, hseen⟩ := exists_mapM_eq_some hseen
  obtain ⟨sim, hsim, -⟩ := exists_simulate_of_seen hfault hseen
  exact ⟨sim, hsim⟩

/-! ## Tallies -/

/-- If each item of a list is tabulated as one pair of a kind or as none, the pairs of the kind are
as many as the items of the first sort. -/
theorem countP_flatMap {α β : Type} {p : α → Bool} {q : β → Bool} {pairs : α → List β}
    {items : List α} (h : ∀ a ∈ items, (pairs a).countP q = if p a then 1 else 0) :
    (items.flatMap pairs).countP q = items.countP p := by
  induction items with
  | nil => rfl
  | cons a rest ih =>
    obtain ⟨ha, hrest⟩ := List.forall_mem_cons.1 h
    rw [List.flatMap_cons, List.countP_append, ha, ih hrest, List.countP_cons, Nat.add_comm]

theorem countP_of_forall₂ {α β : Type} {R : α → β → Prop} {p : α → Bool} {q : β → Bool}
    {items : List α} {results : List β} (h : List.Forall₂ R items results)
    (hR : ∀ a ∈ items, ∀ b, R a b → q b = p a) : results.countP q = items.countP p := by
  induction h with
  | nil => rfl
  | cons hab _ ih =>
    obtain ⟨ha, hrest⟩ := List.forall_mem_cons.1 hR
    rw [List.countP_cons, List.countP_cons, ih hrest, ha _ hab]

/-- Where all have different keys, there is one with a given key if there is any. -/
theorem countP_key {α β : Type} [DecidableEq β] {key : α → β} {items : List α}
    (h : (items.map key).Nodup) (b : β) :
    items.countP (fun a => key a = b) = if b ∈ items.map key then 1 else 0 := by
  rw [← h.count, List.count, List.countP_map]
  exact List.countP_congr fun a _ => by simp

theorem map_fst_placements (p : Seen) : p.placements.map (·.1) = List.range p.top.length := by
  rw [Seen.placements, List.map_map, List.range_eq_range', ← List.zipIdx_map_snd]
  rfl

theorem map_snd_placements (p : Seen) : p.placements.map (·.2) = p.top := by
  rw [Seen.placements, List.map_map]
  exact List.zipIdx_map_fst 0 p.top

theorem countP_placements (p : Seen) (slot : Nat) (id : String) :
    p.placements.countP (fun e => e.1 = slot ∧ e.2 = id) =
      if p.top[slot]? = some id then 1 else 0 := by
  have hnodup : (p.placements.map fun e => e).Nodup := by
    refine List.Nodup.of_map Prod.fst ?_
    rw [List.map_id', map_fst_placements]
    exact List.nodup_range
  have hcount := countP_key hnodup (slot, id)
  simpa [Prod.ext_iff, Seen.placements, List.mk_mem_zipIdx_iff_getElem?] using hcount

/-- The tally of a block for which it is known into which slot it is drawn for whom. -/
theorem tally_simulate {P : Nat → Prop} [DecidablePred P] {slot : Nat} {id : String}
    {sim : Simulation} (hsim : simulate s c = .ok sim)
    (hP : ∀ i < c.participants.toNat, ∀ e, ofSeed s (optionsFor c (UInt32.ofNat i))
      (c.orderSeed (UInt32.ofNat i)) = .ok e → (e.topIds[slot]? = some id ↔ P i)) :
    sim.summary.slots.tally slot id = Nat.count P c.participants.toNat := by
  obtain ⟨seen, hseen, hsummary⟩ := exists_seen_of_simulate hsim
  have hplaced : (seen.flatMap (·.placements)).countP (fun e => e.1 = slot ∧ e.2 = id) =
      seen.countP fun p => p.top[slot]? = some id :=
    countP_flatMap fun p _ => by simpa using countP_placements p slot id
  rw [hsummary, SimulationSummary.ofSeen, Table.tally_tabulate, hplaced, Nat.count]
  refine countP_of_forall₂ (forall₂_of_seenByAll hseen) fun i hi p hp => ?_
  obtain ⟨e, stop, last, hbuild, -, rfl⟩ := exists_ends_of_seenBy hp
  exact decide_eq_decide.2 (hP i (List.mem_range.1 hi) e hbuild)

end Simulation

end Trials
