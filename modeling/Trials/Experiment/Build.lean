import Trials.Experiment.Basic
import Trials.Script.Load
import Trials.Random.ChaCha

/-!
# Building experiments

`Experiment.build` makes an experiment from a script: it checks the script's rules, resolves run-if
rules, chooses one page from each group, and draws the order of pages and blocks.  Blocks are put
into the table in declared order, each before the blocks inside it; siblings are ordered once all of
them are built, those of the top level last.
-/

namespace Trials

/-- What an experiment is built for. -/
structure BuildOptions where
  assignment : Assignment := {}
  /-- How far apart pages of the same condition are looked for when two would meet. -/
  window : Nat := defaultWindow
deriving DecidableEq, Inhabited

namespace Experiment

/-- What a declared block at a path is. -/
def blockInfo (s : Script) (path : Path) (h : BlockHead) : Except ScriptError BlockInfo := do
  let runIf ← (RunIf.ofRule s.resolvePage .badPattern h.runIf).mapError .rule
  return { id := h.id, path, runIf, policy := ⟨h.criterion, h.cutoff⟩ }

/-- The number of a new block with the given pages in a drawn order, the table with it, and the
random words after the draws. -/
def buildLeaf (o : BuildOptions) (info : BlockInfo) (parent : Option Nat) (pseudorandom : Bool)
    (decls : List PageDecl) (t : BlockTable) (w : Words) :
    Except ScriptError (Nat × BlockTable × Words) :=
  let pages := decls.map (Page.ofDecl info.path)
  let drawn := Page.order pages pseudorandom o.window w
  match drawn.1 with
  | .ok order =>
    .ok (t.size,
      t.push { info, parent, content := .pages pages pseudorandom, pass := .start order }, drawn.2)
  | .error cause => .error (.order info.path cause)

/-- One page of each group, and the random words after the draws. -/
def choosePages (o : BuildOptions) (path : Path) (latinSquare : Bool)
    (groups : List (List PageDecl)) (w : Words) : Except ScriptError (List PageDecl × Words) :=
  if latinSquare then
    ((selectLatinSquare groups o.assignment.version).map fun chosen => (chosen, w)).mapError
      (.selection path)
  else (selectRandom groups w).mapError (.selection path)

/-- The identifiers of the blocks with some numbers. -/
def idsOf (t : BlockTable) (numbers : List Nat) : List String :=
  numbers.map fun number => ((t[number]?).map (·.info.id)).getD ""

/-- A drawn order of the blocks with some numbers, as places in the given list, and the random words
after the draws. -/
def orderBlocks (o : BuildOptions) (exchangeable counterbalance : List String) (t : BlockTable)
    (numbers : List Nat) (w : Words) : Except ScriptError (List Nat × Words) :=
  let scheme := { exchangeable, counterbalance, permutation := o.assignment.permutation }
  (orderSiblings (idsOf t numbers) scheme w).mapError .siblings

mutual
/-- The number of the block that a declaration stands for, the table with it and the blocks inside
it, and the random words after the draws. -/
def buildBlock (s : Script) (o : BuildOptions) (parent : Option Nat) (parentPath : Path) :
    BlockDecl → BlockTable → Words → Except ScriptError (Nat × BlockTable × Words)
  | { toBlockHead := head, blocks := none }, t, w => do
    let info ← blockInfo s (parentPath.child head.id) head
    match head.pages, head.groups with
    | some pages, none => buildLeaf o info parent head.pseudorandom pages t w
    | none, some groups => do
      let (pages, w) ← choosePages o info.path head.latinSquare groups w
      buildLeaf o info parent head.pseudorandom pages t w
    | _, _ => throw (.content info.path)
  | { toBlockHead := head, blocks := some blocks }, t, w => do
    let info ← blockInfo s (parentPath.child head.id) head
    if head.pages.isSome || head.groups.isSome then throw (.content info.path)
    let empty : Block := { info, parent, content := .blocks [], pass := .start [] }
    let (numbers, filled, w) ← buildBlocks s o (some t.size) info.path blocks (t.push empty) w
    let (order, w) ← orderBlocks o head.exchangeable head.counterbalance filled numbers w
    let full : Block := { info, parent, content := .blocks numbers, pass := .start order }
    return (t.size, filled.put t.size full, w)

/-- The numbers of the blocks that some declarations stand for, in declared order, the table with
them and the blocks inside them, and the random words after the draws. -/
def buildBlocks (s : Script) (o : BuildOptions) (parent : Option Nat) (parentPath : Path) :
    List BlockDecl → BlockTable → Words → Except ScriptError (List Nat × BlockTable × Words)
  | [], t, w => .ok ([], t, w)
  | b :: rest, t, w => do
    let (number, t, w) ← buildBlock s o parent parentPath b t w
    let (numbers, t, w) ← buildBlocks s o parent parentPath rest t w
    return (number :: numbers, t, w)
end

/-- The experiment that a script declares, built with random words. -/
def build (s : Script) (o : BuildOptions) (w : Words) : Except ScriptError Experiment := do
  if o.window = 0 then throw .noWindow
  match s.violations with
  | [] =>
    let (numbers, table, w) ← buildBlocks s o none .root s.blocks #[] w
    let (order, w) ← orderBlocks o s.exchangeable s.counterbalance table numbers w
    return {
      assignment := o.assignment
      window := o.window
      table
      roots := order.filterMap fun place => numbers[place]?
      chance := { words := w } }
  | violations => throw (.rules violations)

/-- The experiment that a script declares, built with the random words of a seed. -/
def ofSeed (s : Script) (o : BuildOptions) (seed : UInt64) : Except ScriptError Experiment :=
  build s o (Words.ofSeed seed)

end Experiment

end Trials
