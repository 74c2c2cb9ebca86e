import Trials.Proofs.Experiment.Counter

/-!
# Fresh passes

`BlockTable.restart` only visits blocks that have been taken, and yet a block that begins anew has
all that stands within it to run again.  This rests on `BlockTable.Fresh`, which every move keeps: a
block that has not been taken in the present pass of the block around it has taken nothing itself.
So when a block has taken nothing, nothing within it has (`Fresh.consumed_eq_nil`).

The main result, `renewed_of_reachable`, says all that beginning anew does to a reachable experiment
(`Experiment.Renewed`), and what becomes of the numbers of passes as words: each block that begins
anew is one pass further, unless it was in the pass that the largest word numbers
(`relapsing_wraps`).
-/

namespace Trials

namespace Block

variable {b : Block} {window : Nat} {c : Chance}

theorem order_restart_of_blocks {numbers : List Nat} (hb : b.content = .blocks numbers) :
    (b.restart window c).1.pass.order = b.pass.order := by
  unfold restart
  rw [hb]
  exact Pass.order_rewind _

end Block

namespace BlockTable

variable {t t' : BlockTable} {i : Nat}

theorem getElem?_of_block {b : Block} (h : t.block i = pure b) : t[i]? = some b := by
  unfold block at h
  split at h
  next hb =>
    cases h
    exact hb
  · cases h

/-- A block that has not been taken in the present pass of the block around it has taken nothing. -/
def Fresh (t : BlockTable) : Prop :=
  ∀ ⦃c p : Nat⦄, t.Inside c p → ¬ t.Taken p c → ∀ ⦃d : Block⦄, t[c]? = some d →
    d.pass.consumed = []

/-- If a block has taken nothing, neither has any block within it. -/
theorem Fresh.consumed_eq_nil (h : t.Fresh) {b : Block} (hb : t[i]? = some b)
    (hnone : b.pass.consumed = []) {j : Nat} (hj : t.Within j i) :
    ∀ {d : Block}, t[j]? = some d → d.pass.consumed = [] := by
  induction hj using Relation.ReflTransGen.head_induction_on with
  | refl =>
    intro d hd
    rw [hb] at hd
    cases hd
    exact hnone
  | @head j q hq _ ih =>
    intro d hd
    refine h hq ?_ hd
    rintro ⟨k, place, hk, hplace, -⟩
    simp [ih hk] at hplace

/-- A block takes a child, having been taken itself. -/
theorem Fresh.take (h : t.Fresh) (ht : t.Sound) {place : Nat} {b : Block} {pass : Pass Nat}
    (hb : t[i]? = some b) (htake : b.pass.take? = some (place, pass))
    (htaken : ∀ {p : Nat}, t.Inside i p → t.Taken p i) : (t.put i { b with pass }).Fresh := by
  intro c p hc hnot d hd
  have hshapes : (t.put i { b with pass }).shapes = t.shapes := shapes_put hb rfl
  have hinside : t.Inside c p := inside_of_shapes hshapes.symm hc
  have hne : c ≠ p := Nat.ne_of_gt (ht.lt_of_inside hinside)
  rcases cases_of_put hb hd with ⟨rfl, -⟩ | ⟨-, hd⟩
  · exact absurd ((taken_congr (getElem?_put_of_ne hne)).2 (htaken hinside)) hnot
  · refine h hinside (fun hp => hnot ?_) hd
    by_cases hpi : p = i
    · subst hpi
      obtain ⟨k, place', hk, hplace', hchild⟩ := hp
      rw [hb] at hk
      cases hk
      refine ⟨_, place', getElem?_put_self hb, ?_, hchild⟩
      show place' ∈ pass.consumed
      rw [(Pass.take?_eq_some htake).2.1]
      exact List.mem_append_left _ hplace'
    · exact (taken_congr (getElem?_put_of_ne (Ne.symm hpi))).2 hp

/-- A block begins anew. -/
theorem Fresh.restart (h : t.Fresh) {window : Nat} (hspec : Restarted window t t' (t.Reached i)) :
    t'.Fresh := by
  intro c p hc hnot d' hd'
  obtain ⟨d, hd, -, ⟨-, -, hnone⟩ | ⟨hout, rfl⟩⟩ := hspec.cases hd'
  · exact hnone
  · -- the block around has taken it neither before nor afterwards
    refine h (inside_of_shapes hspec.shapes.symm hc) (fun hp => ?_) hd
    have hpout : ¬ t.Reached i p := fun hr => hout (hr.tail hp)
    exact hnot ((taken_congr (hspec.same hpout)).2 hp)

end BlockTable

namespace Experiment

variable {start e e' : Experiment} {seen : List (Nat × Nat)} {m : Motion} {answers : Answers}

/-- Each block around the position has taken the next one towards it. -/
theorem OnPath.taken (h : e.OnPath) {i p : Nat} (hposition : e.position = some i)
    (hp : e.table.Inside i p) : e.table.Taken p i := by
  obtain ⟨b, place, hb, hlast, hchild⟩ := (h i hposition i .refl).last_taken hp
  exact ⟨b, place, hb, List.mem_of_getLast? hlast, hchild⟩

theorem fresh_moved (h : e.Sound) (hpath : e.OnPath) (hfresh : e.table.Fresh)
    (hmoved : Moved answers e m e') : e'.table.Fresh := by
  cases hmoved with
  | enter | ended | skip | leave => exact hfresh
  | descend hposition hb htake hholds hcontent hchild =>
    exact hfresh.take h.table hb htake fun hp => hpath.taken hposition hp
  | display hposition hb htake hholds hcontent hpage =>
    exact hfresh.take h.table hb htake fun hp => hpath.taken hposition hp
  | again hposition hb htake hdecide hrestart hspec => exact hfresh.restart hspec

theorem Reaches.fresh (h : Reaches start seen e) (hstart : start.Sound) (hpath : start.OnPath)
    (hfresh : start.table.Fresh) : e.table.Fresh := by
  have hboth : e.OnPath ∧ e.table.Fresh := by
    refine h.invariant (P := fun _ e => e.OnPath ∧ e.table.Fresh) hstart ⟨hpath, hfresh⟩ ?_ ?_
    · rintro seen e m e' answers hsound ⟨hpath, hfresh⟩ hmoved
      exact ⟨hpath.moved hsound hmoved, fresh_moved hsound hpath hfresh hmoved⟩
    · rintro seen e ⟨hpath, hfresh⟩
      exact ⟨hpath.finish, hfresh⟩
  exact hboth.2

/-! ## Beginning anew -/

/-- A block that is to begin anew does so, and something is still to be done at it. -/
theorem act_eq_of_ends {i : Nat} {b : Block} {t : BlockTable} {c : Chance}
    (hb : e.table[i]? = some b) (htake : b.pass.take? = none)
    (hdecide : b.info.policy.decide b.pass.iteration (answers.history b.info.path) = .again)
    (hends : Course.Ends (BlockTable.restartTop e.window) ([i], e.table, e.chance) (t, c)) :
    e.act answers i = pure (.stay, { e with table := t, chance := c }) := by
  simp only [act, BlockTable.block_eq_pure hb, pure_bind, htake, hdecide, restart,
    BlockTable.restart_eq_of_ends hends]

/-- If something is still to be done at a block, it has begun anew by its own decision. -/
theorem restart_eq_of_act {i : Nat} (hact : e.act answers i = pure (.stay, e')) :
    ∃ b, e.table[i]? = some b ∧
      b.info.policy.decide b.pass.iteration (answers.history b.info.path) = .again ∧
      e.restart i = pure e' := by
  obtain ⟨b, hb, hact⟩ := exists_of_bind_eq_ok hact
  refine ⟨b, BlockTable.getElem?_of_block hb, ?_⟩
  split at hact
  · split at hact
    · split at hact
      · obtain ⟨child, -, hact⟩ := exists_of_bind_eq_ok hact
        cases hact
      · cases hact
    · cases hact
  · split at hact
    next hdecide =>
      obtain ⟨anew, hrestart, hact⟩ := exists_of_bind_eq_ok hact
      cases hact
      exact ⟨hdecide, hrestart⟩
    · cases hact

/-- The loop that begins a block anew restarts the blocks that are reached from it, and nothing but
blocks and the source of random orders changes. -/
theorem Sound.restarted_of_restart (h : e.Sound) {i : Nat} (hi : i < e.table.size)
    (hrestart : e.restart i = pure e') :
    e.table.Restarted e.window e'.table (e.table.Reached i) ∧
      e' = { e with table := e'.table, chance := e'.chance } := by
  obtain ⟨t, c, hends, hspec⟩ := h.table.restart_spec e.window hi e.chance
  rw [restart, BlockTable.restart_eq_of_ends hends, pure_bind] at hrestart
  cases hrestart
  exact ⟨hspec, rfl⟩

/-- What has become of an experiment when the block with a number has begun anew. -/
structure Renewed (e e' : Experiment) (i : Nat) : Prop where
  /-- Within the block nothing has been taken, and all children are left. -/
  fresh : ∀ {j : Nat} {b' : Block}, e.table.Within j i → e'.table[j]? = some b' →
    b'.pass.consumed = [] ∧ b'.pass.remaining.Perm (List.range b'.content.count)
  /-- The block, and what is reached from it through blocks that had been taken, is one pass
  further. -/
  reached : ∀ {j : Nat} {b : Block}, e.table.Reached i j → e.table[j]? = some b →
    e.table.Within j i ∧ ∃ b', e'.table[j]? = some b' ∧ b'.shape = b.shape ∧
      b'.pass.iteration = b.pass.iteration + 1 ∧
      ∀ {numbers : List Nat}, b.content = .blocks numbers → b'.pass.order = b.pass.order
  /-- All other blocks are as they were, be they within the block or not. -/
  same : ∀ {j : Nat}, ¬ e.table.Reached i j → e'.table[j]? = e.table[j]?
  /-- Nothing but blocks and the source of random orders has changed. -/
  rest : e' = { e with table := e'.table, chance := e'.chance }

/-- When a block of a sound experiment with fresh passes begins anew, all that stands within it has
its children left. -/
theorem Sound.renewed (h : e.Sound) (hfresh : e.table.Fresh) {i : Nat} (hi : i < e.table.size)
    (hrestart : e.restart i = pure e') : e.Renewed e' i := by
  obtain ⟨hspec, hrest⟩ := h.restarted_of_restart hi hrestart
  obtain ⟨b, hb⟩ := BlockTable.exists_of_lt_size hi
  obtain ⟨_, hb'⟩ := hspec.restarted .refl hb
  constructor
  case fresh =>
    intro j d' hj hd'
    have hj := (BlockTable.within_congr hspec.shapes).2 hj
    have hnone := (hfresh.restart hspec).consumed_eq_nil hb' Block.consumed_restart hj hd'
    have horder := (hspec.sound h.table).order_perm hd'
    rw [Pass.order, hnone, List.nil_append] at horder
    exact ⟨hnone, horder⟩
  case reached =>
    intro j d hj hd
    obtain ⟨chance, hd'⟩ := hspec.restarted hj hd
    exact ⟨h.table.within_of_reached hj, _, hd', Block.shape_restart _ _ _,
      Block.iteration_restart, Block.order_restart_of_blocks⟩
  case same => exact hspec.same
  case rest => exact hrest

/-- When a block of a reachable experiment begins anew, everything within it has all children left,
also what it had never entered or had left halfway.  The block and what is reached from it through
blocks that had been taken are one pass further, and all other blocks, the top-level blocks and the
position are as they were.  As a word, too, the number of each of these passes has grown by one,
unless it was the largest word: then it is zero.  The block itself was not in the pass with that
number, nor was one whose cutoff and those of the blocks around it allow no larger number. -/
theorem renewed_of_reachable {s : Script} {o : BuildOptions} {w : Words} {i : Nat}
    (hbuild : build s o w = .ok start) (hreach : Reachable start e)
    (hnumbered : e.table.Numbered) (hact : e.act answers i = pure (.stay, e')) :
    e.Renewed e' i ∧
      (∀ {j : Nat} {b b' : Block}, e.table.Reached i j → e.table[j]? = some b →
        e'.table[j]? = some b' →
        if b.pass.iteration + 1 < UInt32.size then
          b'.pass.number.toNat = b.pass.number.toNat + 1
        else b'.pass.number = 0) ∧
      (e'.table.Numbered ↔ ∀ ⦃j : Nat⦄ ⦃b : Block⦄, e.table.Reached i j → e.table[j]? = some b →
        b.pass.iteration + 1 < UInt32.size) ∧
      ∀ {j : Nat} {b : Block}, e.table.Reached i j → e.table[j]? = some b →
        i = j ∨ start.table.passBound j < UInt32.size → b.pass.iteration + 1 < UInt32.size := by
  have hready := ready_of_build hbuild
  obtain ⟨seen, hreach⟩ := hreach
  have hsound := hreach.sound hready.sound
  have hfresh : start.table.Fresh := fun _ _ _ _ _ hd => consumed_of_build hbuild hd
  obtain ⟨k, hk, hdecide, hrestart⟩ := restart_eq_of_act hact
  have hi := BlockTable.lt_size_of_getElem? hk
  have hspec := (hsound.restarted_of_restart hi hrestart).1
  have hrenewed := hsound.renewed (hreach.fresh hready.sound hready.onPath hfresh) hi hrestart
  refine ⟨hrenewed, ?_, hspec.numbered_iff hnumbered, ?_⟩
  · intro j b b' hj hb hb'
    obtain ⟨-, d, hd, -, hnext, -⟩ := hrenewed.reached hj hb
    cases hd.symm.trans hb'
    exact Pass.number_succ (hnumbered hb) hnext
  · rintro j b hj hb (rfl | hbound)
    · cases hk.symm.trans hb
      exact lt_size_of_decide hdecide
    · obtain ⟨-, d, hd, -, hnext, -⟩ := hrenewed.reached hj hb
      have hpaced := (hreach.paced_and_counted hready).1.restart hsound.table hk
        (LoopPolicy.lt_cutoff_of_decide hdecide) hspec
      have hle := hpaced.iteration_le (hspec.sound hsound.table) hd
      rw [BlockTable.passBound_congr (hspec.shapes.trans (hreach.shapes hready.sound)), hnext] at hle
      exact Nat.lt_of_le_of_lt hle hbound

/-- When the trial has been passed and yet more is asked for, the whole training begins anew, and
words go on to number its passes. -/
theorem training_renewed :
    ∃ start e e', build training {} (Words.ofSeed 0) = .ok start ∧ Reachable start e ∧
      e.table.Numbered ∧ e.act (gradedAnswers false) 0 = pure (.stay, e') ∧ e.Renewed e' 0 ∧
      e'.table.Numbered := by
  have hmoves : ∃ start e b, build training {} (Words.ofSeed 0) = .ok start ∧ Reachable start e ∧
      e.table[0]? = some b ∧ b.pass.take? = none ∧
      b.info.policy.decide b.pass.iteration ((gradedAnswers false).history b.info.path) =
        .again := by
    -- into the training and the practice, to the trial, out again, and through the pause
    set_option maxRecDepth 4000 in
    refine ⟨_, _, _, rfl, ⟨_, .move (gradedAnswers true) (.move (gradedAnswers true)
      (.move (gradedAnswers true) (.move (gradedAnswers true) (.move (gradedAnswers true)
        (.move (gradedAnswers true) .start rfl) rfl) rfl) rfl) rfl) rfl⟩, rfl, rfl, ?_⟩
    decide
  obtain ⟨start, e, b, hbuild, ⟨seen, hreach⟩, hb, htake, hdecide⟩ := hmoves
  have hready := ready_of_build hbuild
  have hbound := passBound_training_lt hbuild
  have hnumbered := hreach.numbered hready hbound
  obtain ⟨t, c, hends, -⟩ := (hreach.sound hready.sound).table.restart_spec e.window
    (BlockTable.lt_size_of_getElem? hb) e.chance
  have hact := act_eq_of_ends hb htake hdecide hends
  obtain ⟨hrenewed, -, hiff, hown⟩ := renewed_of_reachable hbuild ⟨seen, hreach⟩ hnumbered hact
  refine ⟨start, e, _, hbuild, ⟨seen, hreach⟩, hnumbered, hact, hrenewed, hiff.2 ?_⟩
  intro j d hj hd
  have hj' := BlockTable.lt_size_of_getElem? hd
  rw [BlockTable.size_of_shapes (hreach.shapes hready.sound)] at hj'
  exact hown hj hd (.inr (hbound j hj'))

/-- The script breaks no rule, and in a run of it, nothing being recorded, the outer block begins
anew with the inner one in the pass that the largest word numbers: as a word, the number of its next
pass is zero. -/
theorem relapsing_wraps :
    relapsing.violations = [] ∧
      build relapsing {} (Words.ofSeed 0) = .ok relapsingStart.experiment ∧
      ∃ (e e' : Experiment) (b b' : Block),
        Reachable relapsingStart.experiment e ∧ e.table.Numbered ∧
        e.act (OutcomeStore.answers ({} : MemoryStore)) 0 = pure (.stay, e') ∧
        e.table.Reached 0 1 ∧ e.table[1]? = some b ∧ e'.table[1]? = some b' ∧
        b.pass.number = 4294967295 ∧ b'.pass.number = 0 := by
  have hleads : Performance.Leads (fun _ => {}) relapsingStart relapsingLast := leads_relapsingLast
  have hact : relapsingLast.experiment.act (OutcomeStore.answers ({} : MemoryStore)) 0 =
      pure (.stay, relapsingAt ⟨2, [], [0]⟩ 4294967296 1 (some 0)) :=
    act_eq_of_ends rfl rfl decide_relapsingLast ends_relapsingLast
  have hnumbered : relapsingLast.experiment.table.Numbered := by
    rintro (_ | _ | i) b hb
    · cases hb
      decide
    · cases hb
      decide
    · cases hb
  have htaken : relapsingLast.experiment.table.Taken 0 1 :=
    ⟨relapsingOuter ⟨1, [0], []⟩, 0, rfl, List.mem_singleton_self 0, rfl⟩
  exact ⟨rfl, build_relapsing, _, _, relapsingInner 4294967295, relapsingInner 4294967296,
    reachable_of_leads_relapsing hleads, hnumbered, hact, .single htaken, rfl, rfl, rfl, rfl⟩

end Experiment

end Trials
