import Trials.Random.Sampling

/-!
# One page per group

A block of groups shows one page of each group: by a Latin square, in which group `i` gives its
`(i + version)`-th page counting round, or at random.
-/

namespace Trials

/-- Why no page can be taken from each group. -/
inductive SelectionError where
  /-- A Latin square was asked of groups without pages. -/
  | emptyGroups
  /-- A Latin square was asked of groups of different sizes. -/
  | unevenGroups
  /-- The group with this index has no pages. -/
  | emptyGroup (index : Nat)
deriving DecidableEq

/-- The text of the error. -/
def SelectionError.message : SelectionError → String
  | emptyGroups => "can't do Latin square on empty groups"
  | unevenGroups => "can't do Latin square on groups of uneven sizes"
  | emptyGroup index => "group " ++ toString index ++ " is empty"

section

variable {α : Type}

/-- The column that a Latin square of size `n` reads in a row. -/
def latinColumn (n row : Nat) (version : UInt32) : Nat := (row + version.toNat) % n

/-- One element of each group, by a Latin square. -/
def selectLatinSquare (groups : List (List α)) (version : UInt32) :
    Except SelectionError (List α) :=
  match groups with
  | [] => .ok []
  | first :: _ =>
    if first.isEmpty then .error .emptyGroups
    else if groups.any fun group => group.length ≠ first.length then .error .unevenGroups
    else
      .ok (groups.zipIdx.filterMap fun (group, row) =>
        group[latinColumn first.length row version]?)

/-- One random element of each group, the first group having the index `i`. -/
def selectRandomFrom (i : Nat) : List (List α) → Words → Except SelectionError (List α × Words)
  | [], w => .ok ([], w)
  | group :: rest, w =>
    match (w.choose group).1 with
    | none => .error (.emptyGroup i)
    | some a =>
      match selectRandomFrom (i + 1) rest (w.choose group).2 with
      | .ok (chosen, w) => .ok (a :: chosen, w)
      | .error e => .error e

/-- One random element of each group, and the random words after the draws. -/
def selectRandom (groups : List (List α)) (w : Words) :
    Except SelectionError (List α × Words) :=
  selectRandomFrom 0 groups w

end

end Trials
