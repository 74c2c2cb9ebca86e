import Trials.Random.Sampling

/-!
# Orders that keep equal conditions apart

`orderSeparated` orders tagged items so that no two neighbours carry the same condition.  The items
are shuffled and then placed one after the other, each time the first one left that differs from
the last one placed.  When all items left carry the condition of the last one placed, the next item
takes the place of an earlier item whose neighbourhood is free of that condition, and the earlier
item moves to the end (`swapInto`).
-/

namespace Trials

/-- Why items cannot be kept apart. -/
inductive OrderError where
  | untagged
  /-- No place is left where an item could be swapped in. -/
  | exhausted
deriving DecidableEq

/-- The text of the error. -/
def OrderError.message : OrderError → String
  | untagged => "can't pseudorandomize if not all pages have a condition"
  | exhausted =>
    "pseudorandomization may not work if there are not an equal number of all conditions"

/-- How far the neighbourhood of a place reaches unless something else is asked for. -/
def defaultWindow : Nat := 3

section

variable {α : Type} [DecidableEq α]

/-- Whether no two neighbours of a list are equal. -/
def noAdjacentRepeats : List α → Bool
  | [] => true
  | [_] => true
  | a :: b :: rest => a ≠ b && noAdjacentRepeats (b :: rest)

namespace Separated

/-- How many places before a place belong to its neighbourhood. -/
def reachBefore (window : Nat) : Nat := max ((window - 1) / 2) 1

/-- How many places after a place belong to its neighbourhood. -/
def reachAfter (window : Nat) : Nat := max (window / 2) 1

/-- The items in the neighbourhood of a place, the place itself included. -/
def neighbourhood (window : Nat) (placed : List Nat) (i : Nat) : List Nat :=
  (placed.take (i + reachAfter window + 1)).drop (i - reachBefore window)

variable (condition : Nat → α)

/-- The first place whose neighbourhood is free of the condition of the item `next`. -/
def swapTarget (window : Nat) (placed : List Nat) (next : Nat) : Option Nat :=
  (List.range placed.length).find? fun i =>
    (neighbourhood window placed i).all fun j => condition j ≠ condition next

/-- Swaps `next` in at the first free place and moves the item that stood there to the end.  The
placed items come back also if there is no such place, as they were. -/
def swapInto (window : Nat) (placed : List Nat) (next : Nat) : Except OrderError Unit × List Nat :=
  match swapTarget condition window placed next with
  | some i => (.ok (), placed.set i next ++ placed[i]?.toList)
  | none => (.error .exhausted, placed)

/-- Whether an item differs from the last one placed. -/
def differsFromLast (placed : List Nat) (i : Nat) : Bool :=
  (placed.getLast?).all fun last => condition i ≠ condition last

/-- The items with all remaining ones placed; fails if a swap is needed and impossible. -/
def placeAll (window : Nat) (placed remaining : List Nat) : Except OrderError (List Nat) :=
  match remaining with
  | [] => .ok placed
  | next :: rest =>
    match _found : (next :: rest).find? (differsFromLast condition placed) with
    | some i =>
      placeAll window (placed ++ [i]) ((next :: rest).eraseP (differsFromLast condition placed))
    | none =>
      match swapInto condition window placed next with
      | (.ok (), placed) => placeAll window placed rest
      | (.error e, _) => .error e
termination_by remaining.length
decreasing_by
  · have hmem := List.mem_of_find?_eq_some _found
    have hp := List.find?_some _found
    rw [List.length_eraseP_of_mem hmem hp]
    simp
  · simp

end Separated

/-- An order of items that keeps equal conditions apart, as places in the given list, and the random
words after the draws. -/
def orderSeparated (conditions : List (Option α)) (window : Nat) (w : Words) :
    Except OrderError (List Nat) × Words :=
  if conditions.any Option.isNone then (.error .untagged, w)
  else
    let shuffled := w.shuffle (List.range conditions.length)
    (Separated.placeAll (fun i => conditions[i]?) window [] shuffled.1, shuffled.2)

end

end Trials
