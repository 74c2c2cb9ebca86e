import Trials.Session.Basic
import Trials.Proofs.Experiment.Passes

/-!
# Runs of a session

`Session.Ends` says that turns lead from a session to its end; `Session.run` then finds this end
(`Ends.run_eq`).  A turn that is not the last one shows a page (`Turned`), and the number of pages
that a run shows is bounded, so every session comes to an end, and its experiment is a reachable one
(`exists_ends`).
-/

namespace Trials

open Experiment

namespace Session

variable {σ τ : Type} [OutcomeStore σ] [Participant τ] {cap : Option Nat} {s s' : Session σ τ}
  {r : Except StoreError SessionStop × Session σ τ}

/-- Turns lead from a session to its end. -/
inductive Ends (cap : Option Nat) :
    Session σ τ → Except StoreError SessionStop × Session σ τ → Prop where
  | stop {s : Session σ τ} {r : Except StoreError SessionStop × Session σ τ}
    (h : s.turn cap = .inr r) : Ends cap s r
  | next {s s' : Session σ τ} {r : Except StoreError SessionStop × Session σ τ}
    (h : s.turn cap = .inl s') (hrest : Ends cap s' r) : Ends cap s r

theorem run_of_inr (h : s.turn cap = .inr r) : s.run cap = r := by
  have : Nonempty (Except StoreError SessionStop × Session σ τ) := ⟨r⟩
  rw [run, repeatM_eq_of_monadTail, repeatM.body, h]
  rfl

theorem run_of_inl (h : s.turn cap = .inl s') : s.run cap = s'.run cap := by
  have : Nonempty (Except StoreError SessionStop × Session σ τ) := ⟨(.ok .stalled, s)⟩
  rw [run, repeatM_eq_of_monadTail, repeatM.body, h]
  rfl

theorem Ends.run_eq (h : Ends cap s r) : s.run cap = r := by
  induction h with
  | stop h => exact run_of_inr h
  | next h _ ih => exact (run_of_inl h).trans ih

/-! ## Turns -/

/-- A session that has shown as many pages as allowed is over. -/
theorem turn_of_le {pages : Nat} (h : pages ≤ s.newest.length) :
    s.turn (some pages) = .inr (.ok (.pageLimit pages), s) := by
  have hfilter : (some pages).filter (· ≤ s.newest.length) = some pages := by simpa using h
  rw [turn, hfilter]

/-- A session that may show another page does not notice its cap. -/
theorem turn_of_lt {pages : Nat} (h : s.newest.length < pages) :
    s.turn (some pages) = s.turn none := by
  have hfilter : (some pages).filter (· ≤ s.newest.length) = none := by simpa using h
  rw [turn, hfilter, turn, Option.filter_none]

theorem turn_cases (cap : Option Nat) (s : Session σ τ) :
    (∃ pages, s.turn cap = .inr (.ok (.pageLimit pages), s)) ∨ s.turn cap = s.turn none := by
  cases cap with
  | none => exact .inr rfl
  | some pages =>
    by_cases h : pages ≤ s.newest.length
    · exact .inl ⟨pages, turn_of_le h⟩
    · exact .inr (turn_of_lt (Nat.lt_of_not_le h))

theorem turn_eq_of_ends_shown {number place : Nat} {page : Page} {e : Experiment}
    (hfinished : s.experiment.finished = false)
    (h : Course.Ends (onward (OutcomeStore.answers s.store)) s.experiment
      (.shown number place page, e)) :
    s.turn none = .inl (({ s with experiment := e } : Session σ τ).answer page) := by
  simp only [turn, Option.filter_none, advance_eq_of_ends_shown h hfinished]

theorem turn_eq_of_ends_ended {e : Experiment} (hfinished : s.experiment.finished = false)
    (h : Course.Ends (onward (OutcomeStore.answers s.store)) s.experiment (.ended, e))
    (hfinalize : (OutcomeStore.finalize s.store).1 = .ok ()) :
    s.turn none = .inr (.ok .finished, { s with
      experiment := { e with finished := true }
      store := (OutcomeStore.finalize s.store).2 }) := by
  simp only [turn, Option.filter_none, advance_eq_of_ends_ended h hfinished, hfinalize, Except.map]

/-- What a turn is in a session that may show another page. -/
inductive Turned (s : Session σ τ) :
    Session σ τ ⊕ (Except StoreError SessionStop × Session σ τ) → Prop where
  /-- The next page is shown and answered. -/
  | shown {number place : Nat} {page : Page} {e : Experiment}
    (hfinished : s.experiment.finished = false)
    (hruns : Runs (OutcomeStore.answers s.store) s.experiment (.shown number place page) e) :
    Turned s (.inl (({ s with experiment := e } : Session σ τ).answer page))
  /-- No page is left, and the store is finalized. -/
  | closed {e : Experiment} (hfinished : s.experiment.finished = false)
    (hruns : Runs (OutcomeStore.answers s.store) s.experiment .ended e) :
    Turned s (.inr ((OutcomeStore.finalize s.store).1.map fun _ => .finished,
      { s with
        experiment := { e with finished := true }
        store := (OutcomeStore.finalize s.store).2 }))
  /-- The experiment has been finished before. -/
  | finished (hfinished : s.experiment.finished = true) : Turned s (.inr (.ok .finished, s))

theorem turned (h : s.experiment.Sound) : Turned s (s.turn none) := by
  cases hfinished : s.experiment.finished with
  | true =>
    have hturn : s.turn none = .inr (.ok .finished, s) := by
      simp only [turn, Option.filter_none, advance_eq_of_finished hfinished]
    rw [hturn]
    exact .finished hfinished
  | false =>
    obtain ⟨m, e, hruns⟩ := h.exists_runs (OutcomeStore.answers s.store)
    cases m with
    | between => exact absurd rfl hruns.ne_between
    | shown number place page =>
      have hturn : s.turn none = .inl (({ s with experiment := e } : Session σ τ).answer page) := by
        simp only [turn, Option.filter_none, advance_eq_of_shown hruns hfinished]
      rw [hturn]
      exact .shown hfinished hruns
    | ended =>
      have hturn : s.turn none = .inr ((OutcomeStore.finalize s.store).1.map fun _ => .finished,
          { s with
            experiment := { e with finished := true }
            store := (OutcomeStore.finalize s.store).2 }) := by
        simp only [turn, Option.filter_none, advance_eq_of_ended hruns hfinished]
        cases (OutcomeStore.finalize s.store).1 <;> rfl
      rw [hturn]
      exact .closed hfinished hruns

/-! ## Every session ends -/

variable {start : Experiment} {seen : List (Nat × Nat)}

/-- From a session whose experiment can be reached the next turn is the last one, or it shows
another page. -/
theorem turn_of_reaches (h : Reaches start seen s.experiment) (hstart : start.Sound)
    (cap : Option Nat) :
    (∃ r, s.turn cap = .inr r ∧ Reachable start r.2.experiment) ∨
      ∃ s' shown, s.turn cap = .inl s' ∧ Reaches start (seen ++ [shown]) s'.experiment := by
  rcases turn_cases cap s with ⟨pages, hstop⟩ | hturn
  · exact .inl ⟨_, hstop, seen, h⟩
  · have hturned := turned (h.sound hstart)
    rw [← hturn] at hturned
    generalize s.turn cap = next at hturned
    cases hturned with
    | shown _ hruns => exact .inr ⟨_, _, rfl, h.runs hruns⟩
    | closed _ hruns =>
      exact .inl ⟨_, rfl, _, (h.runs hruns).leave _ hruns.moved_ended.move_eq⟩
    | finished => exact .inl ⟨_, rfl, seen, h⟩

/-- A session whose experiment can be reached ends with an experiment that can be reached. -/
theorem exists_ends (hstart : start.Ready) (cap : Option Nat) (seen : List (Nat × Nat))
    (s : Session σ τ) (h : Reaches start seen s.experiment) :
    ∃ r, Ends cap s r ∧ Reachable start r.2.experiment := by
  rcases turn_of_reaches h hstart.sound cap with ⟨r, hstop, hr⟩ | ⟨s', shown, hnext, h'⟩
  · exact ⟨r, .stop hstop, hr⟩
  · -- a run shows a bounded number of pages, so fewer are left
    have hfewer : start.table.displayBound - (seen ++ [shown]).length <
        start.table.displayBound - seen.length := by
      have hlength := h'.length_le hstart
      rw [List.length_append, List.length_singleton] at hlength ⊢
      omega
    obtain ⟨r, hends, hr⟩ := exists_ends hstart cap _ s' h'
    exact ⟨r, .next hnext hends, hr⟩
termination_by start.table.displayBound - seen.length
decreasing_by
  exact hfewer

end Session

end Trials
