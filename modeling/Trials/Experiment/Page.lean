import Trials.Script.Basic
import Trials.Order.Separated

/-!
# Pages

A `Page` is what a participant is shown: a declared page with its path in the experiment.
`Page.order` draws the order in which the pages of a block are shown.
-/

namespace Trials

/-- A page of an experiment. -/
structure Page where
  id : String
  path : Path
  /-- The page's condition, if it has one. -/
  condition : Option Condition
  content : List (String × Json)
deriving Inhabited

/-- The page that a block at a path declares. -/
def Page.ofDecl (block : Path) (p : PageDecl) : Page :=
  ⟨p.id, block.child p.id, p.condition, p.content⟩

/-- An order of pages, as places in the given list, and the random words after the draws: any order,
or one that keeps pages of the same condition apart. -/
def Page.order (pages : List Page) (pseudorandom : Bool) (window : Nat) (w : Words) :
    Except OrderError (List Nat) × Words :=
  if pseudorandom then orderSeparated (pages.map (·.condition)) window w
  else
    let shuffled := w.shuffle (List.range pages.length)
    (.ok shuffled.1, shuffled.2)

end Trials
