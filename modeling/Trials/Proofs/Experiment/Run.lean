import Trials.Proofs.Experiment.Activation

/-!
# Runs

`Runs` is a run of moves up to the first one that shows a page or finds no top-level block left, and
`Experiment.run` finds it (`Runs.run_eq`).  There is such a run from every sound experiment
(`Sound.exists_runs`), for moves lead from it to the end.

A performance ends in the way in which one ends to which it leads (`Completes.of_leads`).
-/

namespace Trials

namespace Experiment

variable {answers : Answers} {e e' e'' : Experiment} {m : Motion}

theorem onward_eq_of_between (h : Moved answers e .between e') :
    e.onward answers = pure (.inl e') := by
  rw [onward, h.move_eq, pure_bind]

theorem onward_eq_of_ne (h : Moved answers e m e') (hm : m ≠ .between) :
    e.onward answers = pure (.inr (m, e')) := by
  rw [onward, h.move_eq, pure_bind]
  cases m with
  | between => exact absurd rfl hm
  | shown | ended => rfl

/-- Moves lead from one experiment to another, the last of them being the first that shows a page or
finds no top-level block left. -/
inductive Runs (answers : Answers) : Experiment → Motion → Experiment → Prop where
  | shown {e e' : Experiment} {number place : Nat} {page : Page}
    (h : Moved answers e (.shown number place page) e') :
    Runs answers e (.shown number place page) e'
  | ended {e e' : Experiment} (h : Moved answers e .ended e') : Runs answers e .ended e'
  | between {e e' e'' : Experiment} {m : Motion} (h : Moved answers e .between e')
    (hrest : Runs answers e' m e'') : Runs answers e m e''

theorem Runs.ne_between (h : Runs answers e m e') : m ≠ .between := by
  induction h with
  | shown => nofun
  | ended => nofun
  | between _ _ ih => exact ih

/-- The loop of moves comes to its end. -/
theorem Runs.ends (h : Runs answers e m e') : Course.Ends (onward answers) e (m, e') := by
  induction h with
  | shown h => exact .stop (onward_eq_of_ne h nofun)
  | ended h => exact .stop (onward_eq_of_ne h nofun)
  | between h _ ih => exact .next (onward_eq_of_between h) ih

theorem run_eq_of_ends (h : Course.Ends (onward answers) e (m, e')) :
    e.run answers = pure (m, e') := by
  have : Nonempty (Motion × Experiment) := ⟨(.ended, e)⟩
  exact h.repeatM_eq

theorem Runs.run_eq (h : Runs answers e m e') : e.run answers = pure (m, e') :=
  run_eq_of_ends h.ends

end Experiment

open Experiment

variable {σ : Type} [OutcomeStore σ] {responses : Nat → Response}

namespace Performance

variable {p q : Performance σ}

/-- A performance that comes to its end has a run to the next page or to the end. -/
theorem exists_runs_of_leads (hleads : Leads responses p q)
    (hposition : q.experiment.position = none)
    (hroot : q.experiment.roots[q.experiment.cursor]? = none) :
    ∃ m e, Runs (OutcomeStore.answers p.store) p.experiment m e := by
  induction hleads using Relation.ReflTransGen.head_induction_on with
  | refl => exact ⟨_, _, .ended (.ended hposition hroot)⟩
  | head hnext _ ih =>
    cases hnext with
    | quiet hmoved =>
      obtain ⟨m, e, hruns⟩ := ih
      exact ⟨m, e, .between hmoved hruns⟩
    | display hmoved => exact ⟨_, _, .shown hmoved⟩

end Performance

/-- A store that gives the same answers whatever is recorded. -/
structure FixedStore where
  answers : Answers

instance : OutcomeStore FixedStore where
  record store _ _ := store
  answers store := store.answers
  finalize store := (.ok (), store)

/-- Whatever is answered, there is a run to the next page or to the end. -/
theorem Experiment.Sound.exists_runs {e : Experiment} (h : e.Sound) (answers : Answers) :
    ∃ m e', Runs answers e m e' := by
  obtain ⟨q, hroot, hq⟩ :=
    Performance.exists_last (fun _ => {}) (⟨e, ⟨answers⟩, []⟩ : Performance FixedStore) h
  exact Performance.exists_runs_of_leads hq.leads hq.position hroot

/-! ## Calls -/

namespace Experiment

variable {e e' : Experiment} {store : σ}

theorem advance_eq_of_finished (h : e.finished = true) :
    e.advance store = (.ok .finished, e, store) := by
  rw [advance, if_pos h]

theorem advance_eq_of_ends_shown {number place : Nat} {page : Page}
    (h : Course.Ends (onward (OutcomeStore.answers store)) e (.shown number place page, e'))
    (hfinished : e.finished = false) : e.advance store = (.ok (.shown page), e', store) := by
  rw [advance, hfinished, if_neg Bool.false_ne_true, run_eq_of_ends h]
  rfl

theorem advance_eq_of_ends_ended
    (h : Course.Ends (onward (OutcomeStore.answers store)) e (.ended, e'))
    (hfinished : e.finished = false) :
    e.advance store =
      ((OutcomeStore.finalize store).1.map fun _ => .finished, { e' with finished := true },
        (OutcomeStore.finalize store).2) := by
  rw [advance, hfinished, if_neg Bool.false_ne_true, run_eq_of_ends h]
  rfl

theorem advance_eq_of_shown {number place : Nat} {page : Page}
    (h : Runs (OutcomeStore.answers store) e (.shown number place page) e')
    (hfinished : e.finished = false) : e.advance store = (.ok (.shown page), e', store) :=
  advance_eq_of_ends_shown h.ends hfinished

theorem advance_eq_of_ended (h : Runs (OutcomeStore.answers store) e .ended e')
    (hfinished : e.finished = false) :
    e.advance store =
      ((OutcomeStore.finalize store).1.map fun _ => .finished, { e' with finished := true },
        (OutcomeStore.finalize store).2) :=
  advance_eq_of_ends_ended h.ends hfinished

/-- A call does not notice a move that shows nothing. -/
theorem advance_eq_of_between (h : Moved (OutcomeStore.answers store) e .between e')
    (hsound : e'.Sound) (hfinished : e.finished = false) (hfinished' : e'.finished = false) :
    e.advance store = e'.advance store := by
  obtain ⟨m, e'', hruns⟩ := hsound.exists_runs (OutcomeStore.answers store)
  cases m with
  | between => exact absurd rfl hruns.ne_between
  | shown number place page =>
    rw [advance_eq_of_shown (.between h hruns) hfinished, advance_eq_of_shown hruns hfinished']
  | ended =>
    rw [advance_eq_of_ended (.between h hruns) hfinished, advance_eq_of_ended hruns hfinished']

end Experiment

namespace Performance

variable {p q : Performance σ}

/-- A call does not notice a move that shows nothing. -/
theorem call_eq_of_between {e : Experiment}
    (h : Moved (OutcomeStore.answers p.store) p.experiment .between e) (hsound : e.Sound)
    (hfinished : p.experiment.finished = false) (hfinished' : e.finished = false) :
    p.call responses = ({ p with experiment := e } : Performance σ).call responses := by
  rw [call, call, advance_eq_of_between h hsound hfinished hfinished']

theorem call_eq_of_shown {e : Experiment} {number place : Nat} {page : Page}
    (h : Runs (OutcomeStore.answers p.store) p.experiment (.shown number place page) e)
    (hfinished : p.experiment.finished = false) :
    p.call responses =
      pure (.inl (({ p with experiment := e } : Performance σ).display responses page)) := by
  rw [call, advance_eq_of_shown h hfinished]

/-- At its end a performance finalizes its store. -/
theorem call_eq_of_last (hposition : p.experiment.position = none)
    (hroot : p.experiment.roots[p.experiment.cursor]? = none)
    (hfinished : p.experiment.finished = false) :
    p.call responses = pure (.inr p.scene.finalize) := by
  rw [call, advance_eq_of_ended (.ended (.ended hposition hroot)) hfinished]
  dsimp only
  cases h : (OutcomeStore.finalize p.store).1 with
  | error cause => simp [Except.map, Scene.finalize, scene, h]
  | ok => simp [Except.map, Scene.finalize, scene, h]

variable {ending : Ending σ}

theorem Completes.of_call_eq (h : Completes responses q ending)
    (hcall : p.call responses = q.call responses) : Completes responses p ending := by
  cases h with
  | stop h => exact .stop (hcall.trans h)
  | next h hrest => exact .next (hcall.trans h) hrest

/-- A performance ends as one does to which it leads. -/
theorem Completes.of_leads (h' : Completes responses q ending) (hleads : Leads responses p q)
    (h : p.experiment.Sound) (hfinished : p.experiment.finished = false) :
    Completes responses p ending := by
  induction hleads using Relation.ReflTransGen.head_induction_on with
  | refl => exact h'
  | head hnext _ ih =>
    have hfinished' := (hnext.kept h).finished.trans hfinished
    have hrest := ih (hnext.sound h) hfinished'
    cases hnext with
    | quiet hmoved =>
      exact hrest.of_call_eq (call_eq_of_between hmoved (h.moved hmoved) hfinished hfinished')
    | display hmoved => exact .next (call_eq_of_shown (.shown hmoved) hfinished) hrest

/-- A performance completes with what its moves lead to. -/
theorem Return.completes (hq : Return responses p q)
    (hroot : q.experiment.roots[q.experiment.cursor]? = none) (h : p.experiment.Sound)
    (hfinished : p.experiment.finished = false) :
    Completes responses p q.scene.finalize :=
  Completes.of_leads
    (.stop (call_eq_of_last hq.position hroot (hq.kept.finished.trans hfinished))) hq.leads h
    hfinished

end Performance

end Trials
