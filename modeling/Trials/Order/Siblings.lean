import Trials.Random.Sampling

/-!
# The order of siblings

Blocks that stand side by side run in declared order, except that exchangeable ones are shuffled
over the places that they occupy and counterbalanced ones are rotated over theirs: the `k`-th
counterbalanced block goes to the `(k + permutation)`-th of these places, counting round.
-/

namespace Trials

/-- Which siblings may change places, and how. -/
structure SiblingScheme where
  exchangeable : List String
  counterbalance : List String
  /-- By how many places they are rotated. -/
  permutation : UInt32

/-- A sibling that is named in both sets. -/
structure SiblingConflict where
  id : String
deriving DecidableEq

/-- The text of the conflict. -/
def SiblingConflict.message (e : SiblingConflict) : String :=
  "'" ++ e.id ++ "' cannot be both exchangeable and counterbalanced"

namespace Siblings

/-- The places of the siblings that a set names. -/
def slots (ids : List String) (set : List String) : List Nat :=
  (List.range ids.length).filter fun i => (ids[i]?).any set.contains

/-- An order in which each slot of a list has been given the value that stands beside it. -/
def assign (order : List Nat) (placements : List (Nat × Nat)) : List Nat :=
  placements.foldl (fun order p => order.set p.1 p.2) order

/-- Each slot's value beside the slot that lies `shift` further on, counting round. -/
def rotation (slots : List Nat) (shift : Nat) : List (Nat × Nat) :=
  slots.zipIdx.map fun (value, k) => (slots.getD ((k + shift) % slots.length) 0, value)

@[simp] theorem length_assign (order : List Nat) (placements : List (Nat × Nat)) :
    (assign order placements).length = order.length := by
  induction placements generalizing order with
  | nil => rfl
  | cons p rest ih => simpa [assign] using ih (order.set p.1 p.2)

end Siblings

open Siblings in
/-- The order of siblings, as places in the declared list, and the random words after the draws. -/
def orderSiblings (ids : List String) (scheme : SiblingScheme) (w : Words) :
    Except SiblingConflict (List Nat × Words) :=
  match ids.find? fun id =>
    scheme.exchangeable.contains id && scheme.counterbalance.contains id with
  | some id => .error ⟨id⟩
  | none =>
    let free := slots ids scheme.exchangeable
    let balanced := slots ids scheme.counterbalance
    let shuffled := w.shuffle free
    let order := assign (List.range ids.length) (free.zip shuffled.1)
    .ok (assign order (rotation balanced scheme.permutation.toNat), shuffled.2)

end Trials
