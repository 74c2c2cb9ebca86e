import Trials.Experiment.Build
import Trials.Number.Shortest

/-!
# Looking at experiments

Views of an experiment that leave it as it is: the state of every block (`Experiment.blocks`), the
top-level blocks in run order (`Experiment.top`), and all blocks and pages in run order, each with
its depth (`Experiment.plan`), also as an indented text (`Experiment.describe`).
-/

namespace Trials

/-- The state of a block. -/
structure BlockState where
  number : Nat
  id : String
  path : Path
  /-- The number of the enclosing block; none on the top level. -/
  parent : Option Nat
  isLeaf : Bool
  children : Nat
  /-- The pass over the children, known by their declared places. -/
  pass : Pass Nat
deriving DecidableEq

/-- Whether a block shows pages. -/
def Content.isLeaf : Content → Bool
  | .blocks _ => false
  | .pages _ _ => true

/-- The state of the block with a number. -/
def Block.state (number : Nat) (b : Block) : BlockState :=
  { number, id := b.info.id, path := b.info.path, parent := b.parent, isLeaf := b.content.isLeaf
    children := b.content.count, pass := b.pass }

/-! ## Plans -/

/-- An entry of a plan. -/
inductive PlanEntry where
  | block (b : Block)
  | page (p : Page)

namespace BlockTable

/-- The block with a number, which stands at a depth, and everything inside it in run order, each
with its depth.  Blocks inside a block have larger numbers than it. -/
def planFrom (t : BlockTable) (depth number : Nat) : List (Nat × PlanEntry) :=
  match _found : t[number]? with
  | none => []
  | some b =>
    (depth, .block b) ::
      match b.content with
      | .blocks numbers =>
        b.pass.order.flatMap fun place =>
          match numbers[place]? with
          | some child => if number < child then planFrom t (depth + 1) child else []
          | none => []
      | .pages pages _ =>
        b.pass.order.filterMap fun place => (pages[place]?).map fun page => (depth + 1, .page page)
termination_by t.size - number
decreasing_by
  have := (Array.getElem?_eq_some_iff.1 _found).1
  omega

end BlockTable

/-! ## Texts -/

namespace PlanEntry

/-- The blanks before a line of the given depth. -/
def indentation (depth : Nat) : String := String.ofList (List.replicate (2 * depth) ' ')

/-- The line of a block without its blanks. -/
def blockText (info : BlockInfo) : String :=
  info.id
    ++ (match info.policy.criterion with
      | some criterion =>
        " [criterion=" ++ criterion.toPositional ++ " cutoff="
          ++ toString info.policy.cutoff.toNat ++ "]"
      | none => "")
    ++ (if info.runIf.isAlways then "" else " (conditional)")

/-- The line of a page without its blanks. -/
def pageText (page : Page) : String :=
  "- " ++ page.id
    ++ (match page.condition with
      | some condition => " <" ++ condition.text ++ ">"
      | none => "")

/-- The line of an entry at a depth. -/
def line (depth : Nat) (entry : PlanEntry) : String :=
  indentation depth
    ++ (match entry with
      | .block b => blockText b.info
      | .page p => pageText p) ++ "\n"

end PlanEntry

namespace Experiment

/-- The top-level blocks in run order. -/
def top (e : Experiment) : List Block := e.roots.filterMap fun number => e.table[number]?

/-- The states of all blocks, in the order of their numbers. -/
def blocks (e : Experiment) : List BlockState :=
  e.table.toList.zipIdx.map fun (b, number) => b.state number

/-- The state of the first block at a path. -/
def find? (e : Experiment) (path : Path) : Option BlockState :=
  e.blocks.find? fun b => b.path == path

/-- All blocks and pages in run order, each with its depth. -/
def plan (e : Experiment) : List (Nat × PlanEntry) := e.roots.flatMap (e.table.planFrom 0)

/-- All blocks and pages in run order, one line for each. -/
def describe (e : Experiment) : String :=
  String.join (e.plan.map fun (depth, entry) => entry.line depth)

end Experiment

end Trials
