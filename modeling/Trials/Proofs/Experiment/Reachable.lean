import Trials.Proofs.Experiment.Building

/-!
# Reachable experiments

`Reaches start seen e` says that moves lead from `start` to `e`, each of them with answers of its
own, and that they show the pages of `seen` on the way.  So it covers the states within a call as
well as those between calls (`Reachable.advance`), whatever has been recorded between them.  What a
sound experiment keeps in a move it keeps on all of this way (`Reaches.sound`, `Reaches.onPath`).
-/

namespace Trials

/-- The number of the block and the place of the page that a move shows. -/
def Motion.seen : Motion → List (Nat × Nat)
  | .between => []
  | .shown number place _ => [(number, place)]
  | .ended => []

namespace Experiment

/-- Moves lead from `start` to an experiment and show some pages, oldest first, each known by the
number of its block and its place there. -/
inductive Reaches (start : Experiment) : List (Nat × Nat) → Experiment → Prop where
  | start : Reaches start [] start
  | move {seen : List (Nat × Nat)} {e e' : Experiment} {m : Motion} (answers : Answers)
    (h : Reaches start seen e) (hmove : e.move answers = pure (m, e')) :
    Reaches start (seen ++ m.seen) e'
  | leave {seen : List (Nat × Nat)} {e e' : Experiment} (answers : Answers)
    (h : Reaches start seen e) (hmove : e.move answers = pure (.ended, e')) :
    Reaches start seen { e' with finished := true }

/-- Moves lead from `start` to an experiment. -/
def Reachable (start e : Experiment) : Prop := ∃ seen, Reaches start seen e

variable {start e e' : Experiment} {seen : List (Nat × Nat)} {m : Motion} {answers : Answers}

/-! ## What is kept -/

theorem Sound.leave (h : e.Sound) : ({ e with finished := true } : Experiment).Sound where
  table := h.table
  nodup_roots := h.nodup_roots
  mem_roots := h.mem_roots
  position_lt := h.position_lt

theorem Reaches.sound (h : Reaches start seen e) (hstart : start.Sound) : e.Sound := by
  induction h with
  | start => exact hstart
  | move _ _ hmove ih => exact ih.moved (ih.moved_of_move hmove)
  | leave _ _ hmove ih => exact (ih.moved (ih.moved_of_move hmove)).leave

theorem Reachable.sound (h : Reachable start e) (hstart : start.Sound) : e.Sound := by
  obtain ⟨seen, h⟩ := h
  exact h.sound hstart

/-- What holds at the start, and is kept by every move of a sound experiment and when the experiment
is finished, holds on all of the way. -/
theorem Reaches.invariant {P : List (Nat × Nat) → Experiment → Prop} (h : Reaches start seen e)
    (hstart : start.Sound) (hfirst : P [] start)
    (hmove : ∀ {seen e m e' answers}, Experiment.Sound e → P seen e → Moved answers e m e' →
      P (seen ++ m.seen) e')
    (hfinish : ∀ {seen e}, P seen e → P seen { e with finished := true }) : P seen e := by
  induction h with
  | start => exact hfirst
  | move _ h hmoved ih =>
    have hsound := h.sound hstart
    exact hmove hsound ih (hsound.moved_of_move hmoved)
  | @leave seen _ e' _ h hmoved ih =>
    have hsound := h.sound hstart
    have hended : P (seen ++ Motion.ended.seen) e' :=
      hmove hsound ih (hsound.moved_of_move hmoved)
    rw [Motion.seen, List.append_nil] at hended
    exact hfinish hended

theorem Reaches.shapes (h : Reaches start seen e) (hstart : start.Sound) :
    e.table.shapes = start.table.shapes :=
  h.invariant (P := fun _ e => e.table.shapes = start.table.shapes) hstart rfl
    (fun hsound ih hmoved => (hsound.shapes_moved hmoved).trans ih) id

theorem OnPath.finish (h : e.OnPath) : ({ e with finished := true } : Experiment).OnPath := by
  intro i hi c hc
  exact (h i hi c hc).of_shapes rfl (fun _ => rfl) rfl rfl

theorem Reaches.onPath (h : Reaches start seen e) (hstart : start.Sound) (hpath : start.OnPath) :
    e.OnPath :=
  h.invariant (P := fun _ e => e.OnPath) hstart hpath
    (fun hsound ih hmoved => ih.moved hsound hmoved) fun ih => ih.finish

theorem Ready.onPath (h : e.Ready) : e.OnPath := by
  intro i hi
  cases h.position.symm.trans hi

/-! ## Calls -/

theorem Reaches.runs (h : Reaches start seen e) (hruns : Runs answers e m e') :
    Reaches start (seen ++ m.seen) e' := by
  induction hruns generalizing seen with
  | shown hmoved => exact h.move _ hmoved.move_eq
  | ended hmoved => exact h.move _ hmoved.move_eq
  | between hmoved _ ih =>
    have hnext := h.move _ hmoved.move_eq
    rw [Motion.seen, List.append_nil] at hnext
    exact ih hnext

/-- A run that finds no top-level block left stays where it has found none. -/
theorem Runs.moved_ended (h : Runs answers e .ended e') : Moved answers e' .ended e' := by
  generalize hm : Motion.ended = m at h
  induction h with
  | shown => cases hm
  | ended hmoved =>
    cases hmoved with
    | ended hposition hroot => exact .ended hposition hroot
  | between _ _ ih => exact ih hm

/-- A page that is shown stands in its block. -/
theorem Runs.exists_shown {answers : Answers} {number place : Nat} {page : Page}
    (h : Runs answers e (.shown number place page) e') :
    ∃ b, e'.table[number]? = some b ∧ b.content.shown[place]? = some page := by
  generalize hm : Motion.shown number place page = m at h
  induction h with
  | shown hmoved =>
    cases hm
    obtain ⟨b, pass, -, -, hb, hpage⟩ := hmoved.shown_cases
    exact ⟨_, hb, hpage⟩
  | ended => cases hm
  | between _ _ ih => exact ih hm

variable {σ : Type} [OutcomeStore σ]

/-- A call leads to a reachable experiment. -/
theorem Reachable.advance (h : Reachable start e) (hstart : start.Sound) (store : σ) :
    Reachable start (e.advance store).2.1 := by
  obtain ⟨seen, h⟩ := h
  cases hfinished : e.finished with
  | true =>
    rw [advance_eq_of_finished hfinished]
    exact ⟨seen, h⟩
  | false =>
    obtain ⟨m, e', hruns⟩ := (h.sound hstart).exists_runs (OutcomeStore.answers store)
    have hreach := h.runs hruns
    cases m with
    | between => exact absurd rfl hruns.ne_between
    | shown number place page =>
      rw [advance_eq_of_shown hruns hfinished]
      exact ⟨_, hreach⟩
    | ended =>
      rw [advance_eq_of_ended hruns hfinished]
      exact ⟨_, hreach.leave _ hruns.moved_ended.move_eq⟩

/-- A call shows a page, or the experiment is finished, or the store cannot be finalized. -/
theorem Sound.advance_cases (h : e.Sound) (store : σ) :
    (∃ page, (e.advance store).1 = .ok (.shown page)) ∨
      (e.advance store).1 = .ok .finished ∨
      ∃ cause, (OutcomeStore.finalize store).1 = .error cause ∧
        (e.advance store).1 = .error cause := by
  cases hfinished : e.finished with
  | true =>
    rw [advance_eq_of_finished hfinished]
    exact .inr (.inl rfl)
  | false =>
    obtain ⟨m, e', hruns⟩ := h.exists_runs (OutcomeStore.answers store)
    cases m with
    | between => exact absurd rfl hruns.ne_between
    | shown number place page =>
      rw [advance_eq_of_shown hruns hfinished]
      exact .inl ⟨page, rfl⟩
    | ended =>
      rw [advance_eq_of_ended hruns hfinished]
      cases hresult : (OutcomeStore.finalize store).1 with
      | ok => exact .inr (.inl rfl)
      | error cause => exact .inr (.inr ⟨cause, rfl, rfl⟩)

/-- A call that shows a page has come to it by moves and leaves the store as it is. -/
theorem Sound.runs_of_shown (h : e.Sound) {store : σ} {page : Page}
    (hshown : (e.advance store).1 = .ok (.shown page)) : ∃ number place e',
      Runs (OutcomeStore.answers store) e (.shown number place page) e' ∧
        e.advance store = (.ok (.shown page), e', store) := by
  cases hfinished : e.finished with
  | true =>
    rw [advance_eq_of_finished hfinished] at hshown
    cases hshown
  | false =>
    obtain ⟨m, e', hruns⟩ := h.exists_runs (OutcomeStore.answers store)
    cases m with
    | between => exact absurd rfl hruns.ne_between
    | shown number place page' =>
      have hcall := advance_eq_of_shown hruns hfinished
      rw [hcall] at hshown
      cases hshown
      exact ⟨number, place, e', hruns, hcall⟩
    | ended =>
      rw [advance_eq_of_ended hruns hfinished] at hshown
      cases hresult : (OutcomeStore.finalize store).1 with
      | ok => rw [hresult] at hshown; cases hshown
      | error => rw [hresult] at hshown; cases hshown

end Experiment

end Trials
