import Trials.Proofs.Experiment.Counter

/-!
# Where a call ends

A call makes moves until one of them shows a page or finds no top-level block left.  It comes to its
end from every reachable experiment, unless on its way a block begins anew in the pass that the
largest word numbers (`Experiment.Overflows`): passes are numbered upwards, so the call has come to
its end with words as numbers if and only if it has not overflowed (`Runs.numbered_iff`).
-/

namespace Trials

namespace Experiment

variable {start e e' : Experiment} {answers : Answers} {m : Motion}

/-- On the moves up to the next page or to the end a block begins anew in the pass that the largest
word numbers. -/
inductive Overflows (answers : Answers) : Experiment → Prop where
  | here {e e' : Experiment} {i : Nat} {b b' : Block} (hmove : e.move answers = pure (.between, e'))
    (hb : e.table[i]? = some b) (hlast : b.pass.iteration + 1 = UInt32.size)
    (hb' : e'.table[i]? = some b') (hnext : b'.pass.iteration = b.pass.iteration + 1) :
    Overflows answers e
  | later {e e' : Experiment} (hmove : e.move answers = pure (.between, e'))
    (h : Overflows answers e') : Overflows answers e

/-- What overflows does so in its next move or after it. -/
theorem Overflows.move_cases (h : e.Overflows answers) (hmove : e.move answers = pure (m, e')) :
    m = .between ∧ (¬ e'.table.Numbered ∨ e'.Overflows answers) := by
  cases h with
  | here hmove' hb hlast hb' hnext =>
    cases hmove.symm.trans hmove'
    refine ⟨rfl, .inl fun hnumbered => ?_⟩
    have hlt := hnumbered hb'
    omega
  | later hmove' h =>
    cases hmove.symm.trans hmove'
    exact ⟨rfl, .inr h⟩

/-- Passes are numbered upwards. -/
theorem Sound.numbered_of_moved (h : e.Sound) (hmoved : Moved answers e m e')
    (hnumbered : e'.table.Numbered) : e.table.Numbered := by
  intro i b hb
  obtain ⟨b', hb', -⟩ := BlockTable.exists_of_shapes (h.shapes_moved hmoved) hb
  have hlt := hnumbered hb'
  rcases hmoved.iteration_cases hb hb' with hsame | ⟨_, _, _, _, _, _, _, hnext⟩
  · omega
  · omega

/-- A move after which words no longer number the passes has overflowed. -/
theorem Sound.overflows_of_moved (h : e.Sound) (hnumbered : e.table.Numbered)
    (hmoved : Moved answers e m e') (hnot : ¬ e'.table.Numbered) :
    m = .between ∧ e.Overflows answers := by
  unfold BlockTable.Numbered at hnot
  push Not at hnot
  obtain ⟨i, b', hb', hle⟩ := hnot
  obtain ⟨b, hb, -⟩ := BlockTable.exists_of_shapes (h.shapes_moved hmoved).symm hb'
  have hlt := hnumbered hb
  rcases hmoved.iteration_cases hb hb' with hsame | ⟨_, _, _, _, _, _, rfl, hnext⟩
  · omega
  · exact ⟨rfl, .here hmoved.move_eq hb (by omega) hb' hnext⟩

theorem Runs.numbered_of_numbered (h : Runs answers e m e') (hsound : e.Sound)
    (hnumbered : e'.table.Numbered) : e.table.Numbered := by
  induction h with
  | shown hmoved => exact hsound.numbered_of_moved hmoved hnumbered
  | ended hmoved => exact hsound.numbered_of_moved hmoved hnumbered
  | between hmoved _ ih =>
    exact hsound.numbered_of_moved hmoved (ih (hsound.moved hmoved) hnumbered)

/-- A run that shows a page or finds no top-level block left in its first move does not overflow. -/
theorem Sound.numbered_of_ne_between (h : e.Sound) (hnumbered : e.table.Numbered)
    (hmoved : Moved answers e m e') (hm : m ≠ .between) :
    e'.table.Numbered ∧ ¬ e.Overflows answers := by
  constructor
  · by_contra hnot
    exact hm (h.overflows_of_moved hnumbered hmoved hnot).1
  · intro hover
    exact hm (hover.move_cases hmoved.move_eq).1

/-- At the end of a run words number the passes if and only if the run has not overflowed. -/
theorem Runs.numbered_iff (h : Runs answers e m e') (hsound : e.Sound)
    (hnumbered : e.table.Numbered) : e'.table.Numbered ↔ ¬ e.Overflows answers := by
  induction h with
  | shown hmoved =>
    obtain ⟨h', hnot⟩ := hsound.numbered_of_ne_between hnumbered hmoved nofun
    exact iff_of_true h' hnot
  | ended hmoved =>
    obtain ⟨h', hnot⟩ := hsound.numbered_of_ne_between hnumbered hmoved nofun
    exact iff_of_true h' hnot
  | @between e e₁ e' m hmoved hrest ih =>
    have hsound' := hsound.moved hmoved
    by_cases h' : e₁.table.Numbered
    · rw [ih hsound' h', not_iff_not]
      constructor
      · exact .later hmoved.move_eq
      · intro hover
        exact (hover.move_cases hmoved.move_eq).2.resolve_left (not_not_intro h')
    · -- this move has overflowed, and no later one brings the numbers back
      refine iff_of_false (fun hlast => h' (hrest.numbered_of_numbered hsound' hlast)) ?_
      exact not_not_intro (hsound.overflows_of_moved hnumbered hmoved h').2

/-- The loop of moves comes to an end with words as numbers, if and only if it does not overflow on
its way. -/
theorem Sound.ends_numbered_iff (h : e.Sound) (hnumbered : e.table.Numbered) :
    (∃ m e', Course.Ends (onward answers) e (m, e') ∧ e.run answers = pure (m, e') ∧
      e'.table.Numbered) ↔ ¬ e.Overflows answers := by
  obtain ⟨m, e', hruns⟩ := h.exists_runs answers
  rw [← hruns.numbered_iff h hnumbered]
  constructor
  · rintro ⟨m', e'', hends, -, h''⟩
    cases hends.unique hruns.ends
    exact h''
  · intro h'
    exact ⟨m, e', hruns.ends, hruns.run_eq, h'⟩

/-- The loop that begins a block anew comes to an end with words as numbers, if and only if none of
the blocks that begin anew is in the pass that the largest word numbers. -/
theorem Sound.restart_numbered_iff (h : e.Sound) (hnumbered : e.table.Numbered) {i : Nat}
    (hi : i < e.table.size) :
    (∃ t c, Course.Ends (BlockTable.restartTop e.window) ([i], e.table, e.chance) (t, c) ∧
      e.restart i = pure { e with table := t, chance := c } ∧ t.Numbered) ↔
    ∀ ⦃j : Nat⦄ ⦃b : Block⦄, e.table.Reached i j → e.table[j]? = some b →
      b.pass.iteration + 1 < UInt32.size := by
  obtain ⟨t, c, hends, hspec⟩ := h.table.restart_spec e.window hi e.chance
  rw [← hspec.numbered_iff hnumbered]
  constructor
  · rintro ⟨t', c', hends', -, h'⟩
    cases hends'.unique hends
    exact h'
  · intro h'
    refine ⟨t, c, hends, ?_, h'⟩
    rw [restart, BlockTable.restart_eq_of_ends hends, pure_bind]

/-- After a call that does not overflow words number the passes. -/
theorem Sound.numbered_advance {σ : Type} [OutcomeStore σ] (h : e.Sound)
    (hnumbered : e.table.Numbered) {store : σ}
    (hnot : ¬ e.Overflows (OutcomeStore.answers store)) :
    (e.advance store).2.1.table.Numbered := by
  cases hfinished : e.finished with
  | true =>
    rw [advance_eq_of_finished hfinished]
    exact hnumbered
  | false =>
    obtain ⟨m, e', hruns⟩ := h.exists_runs (OutcomeStore.answers store)
    have h' := (hruns.numbered_iff h hnumbered).2 hnot
    cases m with
    | between => exact absurd rfl hruns.ne_between
    | shown number place page =>
      rw [advance_eq_of_shown hruns hfinished]
      exact h'
    | ended =>
      rw [advance_eq_of_ended hruns hfinished]
      exact h'

/-- Let words number the passes of a reachable experiment; then they have done so on the way to it,
as passes are numbered upwards.  Whatever is answered, the loop of moves comes to its end with words
as numbers unless it overflows, and so does the loop that begins a block anew, unless a block is in
the pass that the largest word numbers.  A call that does not overflow leads to a reachable
experiment with such numbers again, and it shows a page, or the experiment is finished, or the store
cannot be finalized.  No call overflows if the cutoff of each block and those of the blocks around
it allow no larger number. -/
theorem call_ends_of_reachable {s : Script} {o : BuildOptions} {w : Words}
    (hbuild : build s o w = .ok start) (hreach : Reachable start e)
    (hnumbered : e.table.Numbered) :
    (∀ answers, (∃ m e', Course.Ends (onward answers) e (m, e') ∧ e.run answers = pure (m, e') ∧
      e'.table.Numbered) ↔ ¬ e.Overflows answers) ∧
    (∀ {i : Nat}, i < e.table.size →
      ((∃ t c, Course.Ends (BlockTable.restartTop e.window) ([i], e.table, e.chance) (t, c) ∧
        e.restart i = pure { e with table := t, chance := c } ∧ t.Numbered) ↔
      ∀ ⦃j : Nat⦄ ⦃b : Block⦄, e.table.Reached i j → e.table[j]? = some b →
        b.pass.iteration + 1 < UInt32.size)) ∧
    (∀ {σ : Type} [OutcomeStore σ] (store : σ), ¬ e.Overflows (OutcomeStore.answers store) →
      Reachable start (e.advance store).2.1 ∧ (e.advance store).2.1.table.Numbered ∧
        ((∃ page, (e.advance store).1 = .ok (.shown page)) ∨
          (e.advance store).1 = .ok .finished ∨
          ∃ cause, (OutcomeStore.finalize store).1 = .error cause ∧
            (e.advance store).1 = .error cause)) ∧
    ((∀ i < start.table.size, start.table.passBound i < UInt32.size) →
      ∀ answers, ¬ e.Overflows answers) := by
  have hready := ready_of_build hbuild
  have hsound := hreach.sound hready.sound
  refine ⟨fun answers => hsound.ends_numbered_iff hnumbered,
    fun hi => hsound.restart_numbered_iff hnumbered hi, ?_, ?_⟩
  · intro σ _ store hnot
    exact ⟨hreach.advance hready.sound store, hsound.numbered_advance hnumbered hnot,
      hsound.advance_cases store⟩
  · intro hbound answers
    obtain ⟨seen, hreach⟩ := hreach
    obtain ⟨m, e', hruns⟩ := hsound.exists_runs answers
    rw [← hruns.numbered_iff hsound hnumbered]
    exact (hreach.runs hruns).numbered hready hbound

/-- After the first page of the training a call ends, whatever has been answered. -/
theorem call_ends_after_first_page :
    ∃ start, build training {} (Words.ofSeed 0) = .ok start ∧
      ∃ e, Reachable start e ∧ e = (start.advance ({} : MemoryStore)).2.1 ∧ e.table.Numbered ∧
        ∀ store : MemoryStore, Reachable start (e.advance store).2.1 ∧
          (e.advance store).2.1.table.Numbered ∧
          ((∃ page, (e.advance store).1 = .ok (.shown page)) ∨
            (e.advance store).1 = .ok .finished ∨
            ∃ cause, (OutcomeStore.finalize store).1 = .error cause ∧
              (e.advance store).1 = .error cause) := by
  obtain ⟨start, hbuild⟩ := exists_build_training (Words.ofSeed 0)
  have hready := ready_of_build hbuild
  have hbound := passBound_training_lt hbuild
  obtain ⟨seen, hreach⟩ := Reachable.advance ⟨[], .start⟩ hready.sound ({} : MemoryStore)
  have hnumbered := hreach.numbered hready hbound
  obtain ⟨-, -, hcall, hnot⟩ := call_ends_of_reachable hbuild ⟨seen, hreach⟩ hnumbered
  exact ⟨start, hbuild, _, ⟨seen, hreach⟩, rfl, hnumbered, fun store => hcall store (hnot hbound _)⟩

/-- From each of its passes the inner block comes to the last one that a word numbers, in which the
outer block makes it begin anew. -/
theorem overflows_relapsingPass {n : Nat} (hpos : 1 ≤ n) (hn : n ≤ 4294967295) :
    (relapsingPass n).experiment.Overflows (OutcomeStore.answers ({} : MemoryStore)) := by
  induction hn using Nat.decreasingInduction with
  | self =>
    have hleads : Performance.Leads (fun _ => {}) relapsingStart relapsingLast :=
      leads_relapsingLast
    have hagain := moved_relapsingLast (sound_of_leads_relapsing hleads)
    exact .later moved_relapsingPass_last.move_eq (.here (i := 1) hagain.move_eq rfl rfl rfl rfl)
  | of_succ n hn ih =>
    have hleads : Performance.Leads (fun _ => {}) relapsingStart (relapsingPass n) :=
      leads_relapsingPass hpos (Nat.le_of_lt hn)
    have hmoved := moved_relapsingPass hn (sound_of_leads_relapsing hleads)
    exact .later hmoved.move_eq (ih (Nat.le_add_left 1 n))

/-- The script breaks no rule, and yet the first call of a run of it, nothing being recorded,
overflows: it does not come to its end with words as numbers. -/
theorem relapsing_call_overflows :
    relapsing.violations = [] ∧
      build relapsing {} (Words.ofSeed 0) = .ok relapsingStart.experiment ∧
      relapsingStart.experiment.table.Numbered ∧
      relapsingStart.experiment.Overflows (OutcomeStore.answers ({} : MemoryStore)) ∧
      ¬ ∃ m e', Course.Ends (onward (OutcomeStore.answers ({} : MemoryStore)))
          relapsingStart.experiment (m, e') ∧ e'.table.Numbered := by
  have hready := ready_of_build build_relapsing
  have hover : relapsingStart.experiment.Overflows (OutcomeStore.answers ({} : MemoryStore)) :=
    .later rfl (.later rfl (overflows_relapsingPass (Nat.le_refl 1) (by decide)))
  refine ⟨rfl, build_relapsing, hready.numbered, hover, ?_⟩
  rintro ⟨m, e', hends, hnumbered⟩
  obtain ⟨m', e'', hruns⟩ := hready.sound.exists_runs (OutcomeStore.answers ({} : MemoryStore))
  cases hends.unique hruns.ends
  exact (hruns.numbered_iff hready.sound hready.numbered).1 hnumbered hover

end Experiment

end Trials
