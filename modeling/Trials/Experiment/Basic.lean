import Trials.Experiment.Table
import Trials.Store.Memory
import Trials.Assignment

/-!
# Experiments

An `Experiment` is a table of blocks, the top-level blocks in run order, and the position of the
run: the block in which it is, or between two top-level blocks.  From a block the run goes down to
a child by its number and back up by the number of the block around it.

One move (`Experiment.move`) enters the next top-level block or does one thing at the block in
which the run is (`Experiment.act`): it takes the next child, begins the block anew, or leaves it.
`Experiment.run` moves on until a page is to be shown or no top-level block is left; in the latter
case `Experiment.advance` finalizes the store.
-/

namespace Trials

/-- An experiment in progress. -/
structure Experiment where
  assignment : Assignment
  /-- How far apart pages of the same condition are looked for when two would meet. -/
  window : Nat
  table : BlockTable
  /-- The numbers of the top-level blocks, in run order. -/
  roots : List Nat
  /-- How many of the top-level blocks have been entered. -/
  cursor : Nat := 0
  /-- The number of the block in which the run is; none between top-level blocks. -/
  position : Option Nat := none
  chance : Chance
  finished : Bool := false

/-- What is done at a block. -/
inductive Action where
  /-- The run goes down to the block with a number. -/
  | descend (number : Nat)
  /-- The page at a place is shown. -/
  | display (place : Nat)
  /-- The run goes up to the block around this one. -/
  | ascend
  /-- The block has begun anew, and something else is to be done at it. -/
  | stay

/-- What a move comes to. -/
inductive Motion where
  /-- Nothing is shown; the next move follows. -/
  | between
  /-- The page at a place of the block with a number is shown. -/
  | shown (number place : Nat) (page : Page)
  | ended

/-- What a call comes to. -/
inductive Step where
  /-- A page is shown. -/
  | shown (page : Page)
  | finished
  | stalled

namespace Experiment

/-- The experiment with another block in the place of the one with a number. -/
def put (e : Experiment) (number : Nat) (b : Block) : Experiment :=
  { e with table := e.table.put number b }

/-- The experiment at another position. -/
def moveTo (e : Experiment) (position : Option Nat) : Experiment := { e with position }

/-- The experiment with the block with a number begun anew, and what was taken in it. -/
def restart (e : Experiment) (number : Nat) : Course Experiment := do
  let anew ← BlockTable.restart e.window [number] e.table e.chance
  return { e with table := anew.1, chance := anew.2 }

/-- What is done at the block with a number, and the experiment afterwards. -/
def act (answers : Answers) (e : Experiment) (number : Nat) : Course (Action × Experiment) := do
  let b ← e.table.block number
  match b.pass.take? with
  | some (place, pass) =>
    if b.info.runIf.holds answers e.assignment.permutation then
      let taken := e.put number { b with pass }
      match b.content with
      | .blocks numbers => return (.descend (← Course.at numbers place), taken)
      | .pages _ _ => return (.display place, taken)
    else return (.ascend, e)
  | none =>
    match b.info.policy.decide b.pass.iteration (answers.history b.info.path) with
    | .again => return (.stay, ← e.restart number)
    | .stop => return (.ascend, e)

/-- The page at a place of the block with a number. -/
def page (e : Experiment) (number place : Nat) : Course Page := do
  let b ← e.table.block number
  match b.content with
  | .blocks _ => throw .noPages
  | .pages pages _ => Course.at pages place

/-- The move from between two top-level blocks. -/
def enter (e : Experiment) : Motion × Experiment :=
  match e.roots[e.cursor]? with
  | some number => (.between, { e with cursor := e.cursor + 1, position := some number })
  | none => (.ended, e)

/-- One move. -/
def move (answers : Answers) (e : Experiment) : Course (Motion × Experiment) :=
  match e.position with
  | none => return e.enter
  | some number => do
    let done ← e.act answers number
    match done.1 with
    | .descend child => return (.between, done.2.moveTo (some child))
    | .display place => return (.shown number place (← done.2.page number place), done.2)
    | .ascend => return (.between, done.2.moveTo (← done.2.table.block number).parent)
    | .stay => return (.between, done.2)

/-- One move, after which the run goes on if nothing is shown. -/
def onward (answers : Answers) (e : Experiment) :
    Course (Experiment ⊕ (Motion × Experiment)) := do
  let moved ← e.move answers
  match moved.1 with
  | .between => return .inl moved.2
  | _ => return .inr moved

/-- Moves until a page is shown or the experiment is left. -/
def run (answers : Answers) (e : Experiment) : Course (Motion × Experiment) :=
  haveI : Nonempty (Motion × Experiment) := ⟨(.ended, e)⟩
  repeatM (onward answers) e

/-- The run up to the next page or to the end of the experiment, with the result of finalizing the
store there; the experiment and the store afterwards. -/
def advance {σ : Type} [OutcomeStore σ] (e : Experiment) (store : σ) :
    Except StoreError Step × Experiment × σ :=
  if e.finished then (.ok .finished, e, store)
  else
    match e.run (OutcomeStore.answers store) with
    | .ok (.shown _ _ page, e) => (.ok (.shown page), e, store)
    | .ok (.ended, e) =>
      let ended := OutcomeStore.finalize store
      (ended.1.map fun _ => .finished, { e with finished := true }, ended.2)
    | _ => (.ok .stalled, e, store)

end Experiment

end Trials
