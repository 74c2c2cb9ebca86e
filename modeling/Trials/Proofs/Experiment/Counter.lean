import Trials.Proofs.Experiment.Passes

/-!
# The numbers of passes

Cutoffs are words of 32 bits, and the number of a pass is to fit into such a word as well
(`BlockTable.Numbered`).  A block that begins anew by its own decision has not reached its cutoff,
so the number of its next pass fits.  A block that begins anew along with a block around it is not
asked for its cutoff: the numbers of its passes fit as long as its cutoff and those of the blocks
around it allow fewer than 2³² passes in all (`iteration_of_move`, `Reaches.numbered`), which the
rules of scripts do not ask for.  A block that has used up the largest cutoff within a block that
begins anew once is numbered beyond (`relapsing_overflows`).
-/

namespace Trials

namespace BlockTable

variable {t t' : BlockTable}

/-- Words number the passes of all blocks. -/
def Numbered (t : BlockTable) : Prop :=
  ∀ ⦃i : Nat⦄ ⦃b : Block⦄, t[i]? = some b → b.pass.iteration < UInt32.size

/-- Words still number the passes after blocks have begun anew just if none of these was in the pass
that the largest word numbers. -/
theorem Restarted.numbered_iff {window : Nat} {anew : Nat → Prop}
    (hspec : Restarted window t t' anew) (h : t.Numbered) :
    t'.Numbered ↔ ∀ ⦃j : Nat⦄ ⦃b : Block⦄, anew j → t[j]? = some b →
      b.pass.iteration + 1 < UInt32.size := by
  constructor
  · intro h' j b hj hb
    obtain ⟨c, hb'⟩ := hspec.restarted hj hb
    have hlt := h' hb'
    rwa [Block.iteration_restart] at hlt
  · intro hall j b' hb'
    obtain ⟨b, hb, -, ⟨hj, hnext, -⟩ | ⟨-, rfl⟩⟩ := hspec.cases hb'
    · rw [hnext]
      exact hall hj hb
    · exact h hb

end BlockTable

/-- As a word, the number of the next pass is larger by one, or zero after the largest word. -/
theorem Pass.number_succ {α : Type} {p q : Pass α} (hp : p.iteration < UInt32.size)
    (h : q.iteration = p.iteration + 1) :
    if p.iteration + 1 < UInt32.size then q.number.toNat = p.number.toNat + 1
    else q.number = 0 := by
  split
  next hlt =>
    rw [← h] at hlt
    rw [toNat_number hlt, toNat_number hp, h]
  next hge =>
    have hnext : q.iteration = UInt32.size := by omega
    rw [number, hnext]
    rfl

open BlockTable

namespace Experiment

variable {start e e' : Experiment} {answers : Answers} {m : Motion} {seen : List (Nat × Nat)}

/-- In a move a block stays in its pass, or one begins anew from which it is reached. -/
theorem Moved.iteration_cases (h : Moved answers e m e') {j : Nat} {b b' : Block}
    (hb : e.table[j]? = some b) (hb' : e'.table[j]? = some b') :
    b'.pass.iteration = b.pass.iteration ∨
      ∃ i d, e.position = some i ∧ e.table[i]? = some d ∧
        d.info.policy.decide d.pass.iteration (answers.history d.info.path) = .again ∧
        e.table.Reached i j ∧ m = .between ∧ b'.pass.iteration = b.pass.iteration + 1 := by
  cases h with
  | enter | ended | skip | leave =>
    cases hb.symm.trans hb'
    exact .inl rfl
  | descend _ hd htake => exact .inl (iteration_of_take hd htake hb hb')
  | display _ hd htake => exact .inl (iteration_of_take hd htake hb hb')
  | again hposition hd _ hdecide _ hspec =>
    obtain ⟨b₀, hb₀, -, ⟨hreached, hnext, -⟩ | ⟨-, rfl⟩⟩ := hspec.cases hb'
    · cases hb.symm.trans hb₀
      exact .inr ⟨_, _, hposition, hd, hdecide, hreached, rfl, hnext⟩
    · cases hb.symm.trans hb₀
      exact .inl rfl

/-- A block that decides to begin anew has not reached its cutoff, so a word numbers its next
pass. -/
theorem lt_size_of_decide {b : Block}
    (h : b.info.policy.decide b.pass.iteration (answers.history b.info.path) = .again) :
    b.pass.iteration + 1 < UInt32.size :=
  Nat.lt_of_le_of_lt (LoopPolicy.lt_cutoff_of_decide h) b.info.policy.cutoff.toNat_lt

/-- In a move a block stays in its pass, or it begins anew with the block at the position, within
which it stands.  The number of its next pass is then a word, if the decision was its own or if its
cutoff and those of the blocks around it allow no larger number. -/
theorem iteration_of_move {s : Script} {o : BuildOptions} {w : Words}
    (hbuild : build s o w = .ok start) (hreach : Reachable start e)
    (hmove : e.move answers = pure (m, e')) {j : Nat} {b b' : Block} (hb : e.table[j]? = some b)
    (hb' : e'.table[j]? = some b') :
    b'.pass.iteration = b.pass.iteration ∨
      ∃ i, e.position = some i ∧ e.table.Within j i ∧
        b'.pass.iteration = b.pass.iteration + 1 ∧
        (i = j ∨ start.table.passBound j < UInt32.size → b'.pass.iteration < UInt32.size) := by
  obtain ⟨seen, hreach⟩ := hreach
  have hready := ready_of_build hbuild
  have hsound := hreach.sound hready.sound
  have hle := (hreach.move answers hmove).iteration_le hready hb'
  rcases (hsound.moved_of_move hmove).iteration_cases hb hb' with
    hsame | ⟨i, d, hposition, hd, hdecide, hreached, -, hnext⟩
  · exact .inl hsame
  · refine .inr ⟨i, hposition, hsound.table.within_of_reached hreached, hnext, ?_⟩
    -- a block that decides has not reached its cutoff; one that is taken along may have, and then
    -- only the bound on all of its passes is left
    rintro (rfl | hbound)
    · cases hd.symm.trans hb
      rw [hnext]
      exact lt_size_of_decide hdecide
    · exact Nat.lt_of_le_of_lt hle hbound

/-- All blocks begin with the first pass. -/
theorem Ready.numbered (h : e.Ready) : e.table.Numbered := by
  intro i b hb
  rw [h.iteration hb]
  decide

/-- Where cutoffs allow no larger number, words number all passes. -/
theorem Reaches.numbered (h : Reaches start seen e) (hstart : start.Ready)
    (hbound : ∀ i < start.table.size, start.table.passBound i < UInt32.size) :
    e.table.Numbered := by
  intro i b hb
  have hi := lt_size_of_getElem? hb
  rw [size_of_shapes (h.shapes hstart.sound)] at hi
  exact Nat.lt_of_le_of_lt (h.iteration_le hstart hb) (hbound i hi)

/-- The cutoffs of the training are small. -/
theorem passBound_training_lt (hbuild : build training {} (Words.ofSeed 0) = .ok start) :
    ∀ i < start.table.size, start.table.passBound i < UInt32.size := by
  have hbuild' : build training {} (Words.ofSeed 0) = .ok _ := rfl
  cases hbuild'.symm.trans hbuild
  rintro (_ | _ | _ | i) hi
  · rw [passBound, lineage_of_top rfl rfl]
    decide
  · rw [passBound, lineage_of_inside (p := 0) ⟨_, rfl, rfl⟩ (by decide), lineage_of_top rfl rfl]
    decide
  · rw [passBound, lineage_of_inside (p := 0) ⟨_, rfl, rfl⟩ (by decide), lineage_of_top rfl rfl]
    decide
  · exact absurd (Nat.lt_of_add_lt_add_right (n := 3) hi) (Nat.not_lt_zero i)

/-- A block that is to begin anew does so in one way. -/
theorem Sound.moved_again (h : e.Sound) {i : Nat} {b : Block} {t : BlockTable} {c : Chance}
    (hposition : e.position = some i) (hb : e.table[i]? = some b) (htake : b.pass.take? = none)
    (hdecide : b.info.policy.decide b.pass.iteration (answers.history b.info.path) = .again)
    (hrestart : Course.Ends (restartTop e.window) ([i], e.table, e.chance) (t, c)) :
    Moved answers e .between { e with table := t, chance := c } := by
  obtain ⟨t', c', hends, hspec⟩ := h.table.restart_spec e.window (h.position_lt hposition) e.chance
  cases hends.unique hrestart
  exact .again hposition hb htake hdecide hrestart hspec

/-! ## A block that is numbered beyond -/

/-- A block without pages, with the largest cutoff, in a block that may run twice. -/
def relapsing : Script where
  blocks := [
    { id := "outer", criterion := some .one, cutoff := 2,
      blocks := some [
        { id := "inner", criterion := some .one, cutoff := 4294967295, pages := some [] }] }]

/-- The outer block in some pass. -/
def relapsingOuter (pass : Pass Nat) : Block where
  info := { id := "outer", path := ⟨["outer"]⟩, runIf := .always, policy := ⟨some .one, 2⟩ }
  parent := none
  content := .blocks [1]
  pass := pass

/-- The inner block in a pass with some number. -/
def relapsingInner (n : Nat) : Block where
  info := { id := "inner", path := ⟨["outer", "inner"]⟩, runIf := .always,
            policy := ⟨some .one, 4294967295⟩ }
  parent := some 0
  content := .pages [] false
  pass := ⟨n, [], []⟩

/-- The experiment with the two blocks, each of them being in some pass and the run at some
position. -/
def relapsingAt (outer : Pass Nat) (n cursor : Nat) (position : Option Nat) : Experiment where
  assignment := {}
  window := defaultWindow
  table := #[relapsingOuter outer, relapsingInner n]
  roots := [0]
  cursor := cursor
  position := position
  chance := { words := Words.ofSeed 0 }

theorem build_relapsing :
    build relapsing {} (Words.ofSeed 0) = .ok (relapsingAt (.start [0]) 1 0 none) := rfl

/-- A block of which nothing is graded is short of a streak of one until it reaches its cutoff. -/
theorem decide_of_lt_cutoff {n : Nat} {cutoff : UInt32} (h : n < cutoff.toNat) :
    LoopPolicy.decide ⟨some .one, cutoff⟩ n [] = .again := by
  have hpos : Binary64.zero.lt .one := by decide
  unfold LoopPolicy.decide
  dsimp only
  rw [if_pos ⟨hpos, h⟩]
  rfl

variable {responses : Nat → Response}

/-- The performance of that experiment before it begins, nothing being recorded. -/
def relapsingStart : Performance MemoryStore := ⟨relapsingAt (.start [0]) 1 0 none, {}, []⟩

/-- The performance with the inner block in a numbered pass of the first pass of the outer one. -/
def relapsingPass (n : Nat) : Performance MemoryStore :=
  ⟨relapsingAt ⟨1, [0], []⟩ n 1 (some 1), {}, []⟩

/-- The performance when the inner block has used up its cutoff, at the outer block. -/
def relapsingLast : Performance MemoryStore :=
  ⟨relapsingAt ⟨1, [0], []⟩ 4294967295 1 (some 0), {}, []⟩

theorem reachable_of_leads_relapsing {p : Performance MemoryStore}
    (h : Performance.Leads responses relapsingStart p) :
    Reachable relapsingStart.experiment p.experiment := by
  obtain ⟨seen, hreach, -⟩ := Performance.exists_reaches_of_leads h .start rfl
  exact ⟨seen, hreach⟩

theorem sound_of_leads_relapsing {p : Performance MemoryStore}
    (h : Performance.Leads responses relapsingStart p) : p.experiment.Sound :=
  (reachable_of_leads_relapsing h).sound (ready_of_build build_relapsing).sound

/-- The inner block begins anew by its own decision up to its cutoff. -/
theorem moved_relapsingPass {n : Nat} (hn : n < 4294967295)
    (hsound : (relapsingPass n).experiment.Sound) :
    Moved (OutcomeStore.answers (relapsingPass n).store) (relapsingPass n).experiment .between
      (relapsingPass (n + 1)).experiment :=
  hsound.moved_again (b := relapsingInner n) rfl rfl rfl (decide_of_lt_cutoff hn)
    (.next rfl (.stop rfl))

theorem leads_relapsingPass {n : Nat} (hpos : 1 ≤ n) (hn : n ≤ 4294967295) :
    Performance.Leads responses relapsingStart (relapsingPass n) := by
  induction n, hpos using Nat.le_induction with
  | base =>
    have henter : Moved (OutcomeStore.answers relapsingStart.store) relapsingStart.experiment
        .between (relapsingAt (.start [0]) 1 1 (some 0)) := .enter rfl rfl
    have hdescend : Moved (OutcomeStore.answers relapsingStart.store)
        (relapsingAt (.start [0]) 1 1 (some 0)) .between (relapsingPass 1).experiment :=
      @Moved.descend _ _ 0 0 1 (relapsingOuter (.start [0])) _ _ rfl rfl rfl rfl rfl rfl
    exact .tail (.single (.quiet henter)) (.quiet hdescend)
  | succ n hpos ih =>
    have hleads := ih (Nat.le_of_lt hn)
    exact hleads.tail (.quiet (moved_relapsingPass hn (sound_of_leads_relapsing hleads)))

/-- By its last own decision the inner block comes to the pass that the largest word numbers. -/
theorem relapsing_numbered :
    build relapsing {} (Words.ofSeed 0) = .ok relapsingStart.experiment ∧
      ∃ e e', Reachable relapsingStart.experiment e ∧
        e.move (OutcomeStore.answers ({} : MemoryStore)) = pure (.between, e') ∧
        ∃ b b', e.table[1]? = some b ∧ e'.table[1]? = some b' ∧
          b'.pass.iteration = b.pass.iteration + 1 ∧ b'.pass.iteration = UInt32.size - 1 ∧
          b'.pass.iteration < UInt32.size := by
  have hleads : Performance.Leads (fun _ => {}) relapsingStart (relapsingPass 4294967294) :=
    leads_relapsingPass (by decide) (by decide)
  have hreach := reachable_of_leads_relapsing hleads
  have hmove := (moved_relapsingPass (by decide) (sound_of_leads_relapsing hleads)).move_eq
  have hinner : (relapsingPass 4294967294).experiment.table[1]? =
      some (relapsingInner 4294967294) := rfl
  have hinner' : (relapsingPass 4294967295).experiment.table[1]? =
      some (relapsingInner 4294967295) := rfl
  refine ⟨build_relapsing, _, _, hreach, hmove, _, _, hinner, hinner', rfl, rfl, ?_⟩
  rcases iteration_of_move build_relapsing hreach hmove hinner hinner' with
    hsame | ⟨i, hi, -, -, hlt⟩
  · cases hsame
  · cases hi
    exact hlt (.inl rfl)

/-- The inner block has reached its cutoff. -/
theorem moved_relapsingPass_last :
    Moved (OutcomeStore.answers ({} : MemoryStore)) (relapsingPass 4294967295).experiment .between
      relapsingLast.experiment :=
  @Moved.leave _ _ 1 (relapsingInner 4294967295) rfl rfl rfl
    (LoopPolicy.decide_eq_stop_of_cutoff_le (Nat.le_refl _) _)

theorem leads_relapsingLast : Performance.Leads responses relapsingStart relapsingLast :=
  (leads_relapsingPass (by decide) (by decide)).tail (.quiet moved_relapsingPass_last)

/-- Nothing of the outer block is graded either. -/
theorem decide_relapsingLast :
    (relapsingOuter ⟨1, [0], []⟩).info.policy.decide 1
      ((OutcomeStore.answers ({} : MemoryStore)).history ⟨["outer"]⟩) = .again :=
  decide_of_lt_cutoff (by decide)

/-- The outer block begins anew along with the inner one. -/
theorem ends_relapsingLast :
    Course.Ends (BlockTable.restartTop relapsingLast.experiment.window)
      ([0], relapsingLast.experiment.table, relapsingLast.experiment.chance)
      (#[relapsingOuter ⟨2, [], [0]⟩, relapsingInner 4294967296], { words := Words.ofSeed 0 }) :=
  .next rfl (.next rfl (.stop rfl))

theorem moved_relapsingLast (hsound : relapsingLast.experiment.Sound) :
    Moved (OutcomeStore.answers ({} : MemoryStore)) relapsingLast.experiment .between
      (relapsingAt ⟨2, [], [0]⟩ 4294967296 1 (some 0)) :=
  hsound.moved_again rfl rfl rfl decide_relapsingLast ends_relapsingLast

/-- The script breaks no rule, and in a run of it, nothing being recorded, the inner block begins
anew in the pass that the largest word numbers. -/
theorem relapsing_overflows :
    relapsing.violations = [] ∧
      build relapsing {} (Words.ofSeed 0) = .ok relapsingStart.experiment ∧
      ∃ (p : Performance MemoryStore) (e : Experiment) (b b' : Block),
        Performance.Leads (fun _ => {}) relapsingStart p ∧
        p.experiment.move (OutcomeStore.answers p.store) = pure (.between, e) ∧
        p.experiment.table[1]? = some b ∧ b.pass.iteration = UInt32.size - 1 ∧
        e.table[1]? = some b' ∧ b'.pass = b.pass.rewind ∧ b'.pass.iteration = UInt32.size := by
  have hleads : Performance.Leads (fun _ => {}) relapsingStart relapsingLast := leads_relapsingLast
  have hagain := moved_relapsingLast (sound_of_leads_relapsing hleads)
  exact ⟨rfl, build_relapsing, _, _, relapsingInner 4294967295, relapsingInner 4294967296, hleads,
    hagain.move_eq, rfl, rfl, rfl, rfl, rfl⟩

end Experiment

end Trials
