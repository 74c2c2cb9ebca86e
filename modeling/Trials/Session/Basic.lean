import Trials.Experiment.View

/-!
# Sessions

A session runs an experiment with a participant who answers every page that is shown
(`Session.run`).  Each answer is recorded before the experiment moves on.  A session ends when the
experiment is finished or when a given number of pages has been shown.
-/

namespace Trials

/-- Someone who answers pages. -/
class Participant (τ : Type) where
  /-- The response to a page, and the participant afterwards. -/
  respond : τ → Page → Response × τ

/-- Why a session has ended. -/
inductive SessionStop where
  | finished
  /-- As many pages as allowed have been shown. -/
  | pageLimit (pages : Nat)
  | stalled
deriving DecidableEq

/-- A session in progress. -/
structure Session (σ τ : Type) where
  experiment : Experiment
  store : σ
  participant : τ
  /-- The paths of the pages shown, newest first. -/
  newest : List Path := []

namespace Session

variable {σ τ : Type} [OutcomeStore σ] [Participant τ]

/-- The paths of the pages shown, oldest first. -/
def shown (s : Session σ τ) : List Path := s.newest.reverse

/-- The session after a page has been answered and the response recorded. -/
def answer (s : Session σ τ) (page : Page) : Session σ τ :=
  let answered := Participant.respond s.participant page
  { s with
    store := OutcomeStore.record s.store page.path answered.1
    participant := answered.2
    newest := page.path :: s.newest }

/-- The session up to its end or, if another page is shown, after that page has been answered. -/
def turn (cap : Option Nat) (s : Session σ τ) :
    Session σ τ ⊕ (Except StoreError SessionStop × Session σ τ) :=
  match cap.filter (· ≤ s.newest.length) with
  | some pages => .inr (.ok (.pageLimit pages), s)
  | none =>
    let next := s.experiment.advance s.store
    let s := { s with experiment := next.2.1, store := next.2.2 }
    match next.1 with
    | .error e => .inr (.error e, s)
    | .ok (.shown page) => .inl (s.answer page)
    | .ok .finished => .inr (.ok .finished, s)
    | .ok .stalled => .inr (.ok .stalled, s)

/-- The session up to its end. -/
def run (cap : Option Nat) (s : Session σ τ) : Except StoreError SessionStop × Session σ τ :=
  haveI : Nonempty (Except StoreError SessionStop × Session σ τ) := ⟨(.ok .stalled, s)⟩
  Id.run (repeatM (fun s => pure (s.turn cap)) s)

end Session

end Trials
