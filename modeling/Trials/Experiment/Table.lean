import Trials.Experiment.Block

/-!
# Tables of blocks

All blocks of an experiment stand in one table (`BlockTable`), each at the place that is its number.
Looking up a number, a child or a page may fail: what is computed from a table is a `Course`, which
has a result or breaks off with a `Fault`.

`BlockTable.restart` begins blocks anew: each block's pass is rewound, and then those of the blocks
that were taken in it, the last one first.
-/

namespace Trials

/-- Why a course breaks off. -/
inductive Fault where
  | noBlock
  /-- There is no child at the place. -/
  | noChild
  /-- A page is asked of a block that holds blocks. -/
  | noPages
deriving DecidableEq

/-- What may break off with a fault. -/
abbrev Course := Except Fault

/-- The element of a list at a place; a fault if there is none. -/
def Course.at {α : Type} (l : List α) (place : Nat) : Course α :=
  match l[place]? with
  | some a => return a
  | none => throw .noChild

theorem Course.at_eq_pure {α : Type} {l : List α} {place : Nat} {a : α} (h : l[place]? = some a) :
    Course.at l place = pure a := by
  simp [Course.at, h]

/-- All blocks, each at the place that is its number. -/
abbrev BlockTable := Array Block

namespace BlockTable

/-- The block with a number; a fault if there is none. -/
def block (t : BlockTable) (number : Nat) : Course Block :=
  match t[number]? with
  | some b => return b
  | none => throw .noBlock

/-- The table with another block in the place of the one with a number. -/
def put (t : BlockTable) (number : Nat) (b : Block) : BlockTable := t.setIfInBounds number b

theorem block_eq_pure {t : BlockTable} {number : Nat} {b : Block} (h : t[number]? = some b) :
    t.block number = pure b := by
  simp [block, h]

theorem getElem?_put_self {t : BlockTable} {number : Nat} {b b' : Block}
    (h : t[number]? = some b) : (t.put number b')[number]? = some b' := by
  have : number < t.size := (Array.getElem?_eq_some_iff.1 h).1
  simp [put, this]

theorem getElem?_put_of_ne {t : BlockTable} {number other : Nat} {b : Block}
    (h : number ≠ other) : (t.put number b)[other]? = t[other]? := by
  simp [put, h]

@[simp] theorem size_put (t : BlockTable) (number : Nat) (b : Block) :
    (t.put number b).size = t.size := by
  simp [put]

/-- The numbers of the blocks inside a block that have been taken in its pass, in the order in which
they were taken. -/
def taken (b : Block) : Course (List Nat) :=
  match b.content with
  | .blocks numbers => b.pass.consumed.mapM (Course.at numbers)
  | .pages _ _ => return []

/-- The block on the top of a stack is begun anew, and the blocks that were taken in the pass which
it ends are put on the stack; without a block on the stack nothing is left to do. -/
def restartTop (window : Nat) : List Nat × BlockTable × Chance →
    Course ((List Nat × BlockTable × Chance) ⊕ (BlockTable × Chance))
  | ([], t, c) => return .inr (t, c)
  | (number :: pending, t, c) => do
    let b ← t.block number
    let inside ← taken b
    let anew := b.restart window c
    return .inl (inside.reverse ++ pending, t.put number anew.1, anew.2)

/-- The table with the blocks begun anew whose numbers are on a stack, the top one first, each
followed by the blocks that were taken in the pass which it ends. -/
def restart (window : Nat) (stack : List Nat) (t : BlockTable) (c : Chance) :
    Course (BlockTable × Chance) :=
  haveI : Nonempty (BlockTable × Chance) := ⟨(t, c)⟩
  repeatM (restartTop window) (stack, t, c)

/-- What stays the same about all blocks of a table from its building on. -/
def shapes (t : BlockTable) : Array (BlockInfo × Option Nat × Content) := t.map Block.shape

end BlockTable

end Trials
