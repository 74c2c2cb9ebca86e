import Trials.Number.Binary64

/-!
# Looping

A block that has run out of children may run again.  Its `LoopPolicy` decides from the number of
passes and the graded outcomes so far: a criterion below one asks for a proportion of correct
outcomes, a criterion of one or more for an unbroken run of correct outcomes at the end.
-/

namespace Trials

/-- How often a block may run. -/
structure LoopPolicy where
  /-- Below one: the least proportion of correct outcomes.  One or more: the least number of correct
  outcomes at the end.  Without a positive criterion a block never runs again. -/
  criterion : Option Binary64 := none
  /-- The largest number of passes. -/
  cutoff : UInt32 := 1
deriving DecidableEq, Inhabited

/-- Whether a block runs again. -/
inductive LoopDecision where
  | again
  | stop
deriving DecidableEq

namespace Looping

/-- The proportion of correct outcomes, as a double; none of an empty history. -/
def proportionCorrect (history : List Bool) : Option Binary64 :=
  if history.isEmpty then none
  else some ((Binary64.ofNat (history.count true)).div (.ofNat history.length))

/-- The number of correct outcomes after the last incorrect one. -/
def trailingStreak (history : List Bool) : Nat := (history.reverse.takeWhile id).length

theorem trailingStreak_le (history : List Bool) : trailingStreak history ≤ history.length := by
  have := (history.reverse.takeWhile_sublist id).length_le
  simpa [trailingStreak] using this

theorem trailingStreak_append_false (history : List Bool) :
    trailingStreak (history ++ [false]) = 0 := by
  simp [trailingStreak]

theorem trailingStreak_append_true (history : List Bool) :
    trailingStreak (history ++ [true]) = trailingStreak history + 1 := by
  simp [trailingStreak]

/-- What a criterion is compared with: the proportion of correct outcomes for one below one, the
trailing streak for any other. -/
def metric (criterion : Binary64) (history : List Bool) : Option Binary64 :=
  if criterion.lt .one then proportionCorrect history
  else some (.ofNat (trailingStreak history))

end Looping

/-- Whether a block in the given pass runs again after the given graded outcomes, oldest first. -/
def LoopPolicy.decide (policy : LoopPolicy) (iteration : Nat) (history : List Bool) :
    LoopDecision :=
  match policy.criterion with
  | none => .stop
  | some criterion =>
    if Binary64.zero.lt criterion ∧ iteration < policy.cutoff.toNat then
      match Looping.metric criterion history with
      | some metric => if metric.lt criterion then .again else .stop
      | none => .stop
    else .stop

/-- A block that has reached its cutoff is over. -/
theorem LoopPolicy.decide_eq_stop_of_cutoff_le {policy : LoopPolicy} {iteration : Nat}
    (h : policy.cutoff.toNat ≤ iteration) (history : List Bool) :
    policy.decide iteration history = .stop := by
  unfold decide
  split
  · rfl
  · rw [if_neg fun hc => Nat.not_lt_of_le h hc.2]

/-- A block that runs again has not reached its cutoff. -/
theorem LoopPolicy.lt_cutoff_of_decide {policy : LoopPolicy} {iteration : Nat} {history : List Bool}
    (h : policy.decide iteration history = .again) : iteration < policy.cutoff.toNat := by
  refine Nat.lt_of_not_le fun hle => ?_
  rw [decide_eq_stop_of_cutoff_le hle] at h
  cases h

end Trials
