import Trials.Experiment.Pass
import Trials.Experiment.Page
import Trials.RunIf
import Trials.Looping

/-!
# Blocks in progress

A `Block` passes over other blocks or over pages.  It knows the blocks inside it and the block
around it by their numbers (`Block.children`, `Block.parent`), and its own children, blocks or
pages, by their places in declared order: `Block.pass` says which of these places have been taken
in the present pass.  `Block.restart` begins the next pass of the block alone; a block of pages
then draws a new order.
-/

namespace Trials

/-- What a block is, apart from its content and its progress. -/
structure BlockInfo where
  id : String
  path : Path
  runIf : RunIf
  policy : LoopPolicy
deriving Inhabited

/-- What a block passes over, in declared order. -/
inductive Content where
  /-- Other blocks, known by their numbers. -/
  | blocks (numbers : List Nat)
  /-- Pages, and whether those of the same condition are kept apart. -/
  | pages (pages : List Page) (pseudorandom : Bool)
deriving Inhabited

/-- A block in progress. -/
structure Block where
  info : BlockInfo
  /-- The number of the block around it; none on the top level. -/
  parent : Option Nat
  content : Content
  /-- The pass over its children, each known by its place in declared order. -/
  pass : Pass Nat
deriving Inhabited

/-- The source of random orders: random words, and how often an order could not be drawn. -/
structure Chance where
  /-- The random words. -/
  words : Words
  /-- How many restarted blocks have kept their order because no other could be drawn. -/
  failures : Nat := 0

namespace Content

/-- The numbers of the blocks inside, in declared order; a block of pages holds none. -/
def children : Content → List Nat
  | .blocks numbers => numbers
  | .pages _ _ => []

/-- The pages inside, in declared order; a block of blocks holds none. -/
def shown : Content → List Page
  | .blocks _ => []
  | .pages list _ => list

/-- The number of children, blocks or pages. -/
def count : Content → Nat
  | .blocks numbers => numbers.length
  | .pages list _ => list.length

end Content

namespace Block

/-- The block at the beginning of its next pass.  A block of pages draws a new order of them; if
none can be drawn it keeps the one it has. -/
def restart (window : Nat) (b : Block) (c : Chance) : Block × Chance :=
  match b.content with
  | .blocks _ => ({ b with pass := b.pass.rewind }, c)
  | .pages pages pseudorandom =>
    let drawn := Page.order pages pseudorandom window c.words
    match drawn.1 with
    | .ok order => ({ b with pass := b.pass.rewind.setOrder order }, { c with words := drawn.2 })
    | .error _ => ({ b with pass := b.pass.rewind }, ⟨drawn.2, c.failures + 1⟩)

/-- What stays the same about a block from its building on. -/
def shape (b : Block) : BlockInfo × Option Nat × Content := (b.info, b.parent, b.content)

@[simp] theorem shape_restart (window : Nat) (b : Block) (c : Chance) :
    (b.restart window c).1.shape = b.shape := by
  unfold restart
  split
  · rfl
  · dsimp only
    split <;> rfl

end Block

end Trials
