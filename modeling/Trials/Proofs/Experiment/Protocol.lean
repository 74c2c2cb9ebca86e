import Trials.Proofs.Loop
import Trials.Experiment.Basic

/-!
# The run protocol

What an experiment is meant to do, written as a direct recursion over its blocks (`Scene.Runs`): a
block that may run takes its next child, showing it if it is a page and running it if it is a block,
until none is left; then it begins anew or is over.  `Experiment.Interprets` runs the top-level
blocks in this way, one after the other, and finalizes the store once.

What the experiment does is the loop of `Performance.call`: calls of `Experiment.advance`, with a
response recorded after each page, up to the first call that shows no page.  Both tell what was seen
at each page (`Display`) and what was there at the end (`Ending`), so that they can be compared.
-/

namespace Trials

/-- What is seen when a page is shown: the page, and all blocks and the source of random orders as
they are at that time. -/
structure Display where
  page : Page
  table : BlockTable
  chance : Chance

/-- A run without a position. -/
structure Scene (σ : Type) where
  table : BlockTable
  chance : Chance
  store : σ
  /-- What has been shown, oldest first. -/
  displays : List Display := []

/-- How a whole run ends. -/
structure Ending (σ : Type) where
  scene : Scene σ
  result : Except StoreError Step

/-- An experiment in progress, with its store. -/
structure Performance (σ : Type) where
  experiment : Experiment
  store : σ
  /-- What has been shown, oldest first. -/
  displays : List Display := []

variable {σ : Type} [OutcomeStore σ] {permutation : UInt32} {window : Nat}
  {responses : Nat → Response}

/-! ## The protocol -/

namespace Scene

/-- The run after a block has taken a child. -/
def take (s : Scene σ) (number : Nat) (b : Block) (pass : Pass Nat) : Scene σ :=
  { s with table := s.table.put number { b with pass } }

/-- The run after a page has been shown and its response recorded; the `n`-th page gets the `n`-th
response. -/
def display (responses : Nat → Response) (s : Scene σ) (page : Page) : Scene σ :=
  { s with
    store := OutcomeStore.record s.store page.path (responses s.displays.length)
    displays := s.displays ++ [⟨page, s.table, s.chance⟩] }

/-- The end of a run, with the result of finalizing the store. -/
def finalize (s : Scene σ) : Ending σ :=
  let ended := OutcomeStore.finalize s.store
  ⟨{ s with store := ended.2 }, ended.1.map fun _ => .finished⟩

/-- Running the block with a number leads from one scene to another. -/
inductive Runs (permutation : UInt32) (window : Nat) (responses : Nat → Response) :
    Nat → Scene σ → Scene σ → Prop where
  /-- A block with children left that may not run is over. -/
  | skip {number place : Nat} {s : Scene σ} {b : Block} {pass : Pass Nat}
    (hb : s.table[number]? = some b) (htake : b.pass.take? = some (place, pass))
    (hholds : b.info.runIf.holds (OutcomeStore.answers s.store) permutation = false) :
    Runs permutation window responses number s s
  /-- A block that may run takes the next block inside it and runs it, and goes on. -/
  | child {number place child : Nat} {s s' s'' : Scene σ} {b : Block} {pass : Pass Nat}
    {numbers : List Nat} (hb : s.table[number]? = some b)
    (htake : b.pass.take? = some (place, pass))
    (hholds : b.info.runIf.holds (OutcomeStore.answers s.store) permutation = true)
    (hcontent : b.content = .blocks numbers) (hchild : numbers[place]? = some child)
    (hrun : Runs permutation window responses child (s.take number b pass) s')
    (hrest : Runs permutation window responses number s' s'') :
    Runs permutation window responses number s s''
  /-- A block that may run takes the next page and shows it, and goes on. -/
  | page {number place : Nat} {s s' : Scene σ} {b : Block} {pass : Pass Nat} {pages : List Page}
    {pseudorandom : Bool} {page : Page} (hb : s.table[number]? = some b)
    (htake : b.pass.take? = some (place, pass))
    (hholds : b.info.runIf.holds (OutcomeStore.answers s.store) permutation = true)
    (hcontent : b.content = .pages pages pseudorandom) (hpage : pages[place]? = some page)
    (hrest : Runs permutation window responses number
      ((s.take number b pass).display responses page) s') :
    Runs permutation window responses number s s'
  /-- A block without children left begins anew, and goes on. -/
  | again {number : Nat} {s s' : Scene σ} {b : Block} {t : BlockTable} {c : Chance}
    (hb : s.table[number]? = some b) (htake : b.pass.take? = none)
    (hdecide : b.info.policy.decide b.pass.iteration
      ((OutcomeStore.answers s.store).history b.info.path) = .again)
    (hrestart : Course.Ends (BlockTable.restartTop window) ([number], s.table, s.chance) (t, c))
    (hrest : Runs permutation window responses number { s with table := t, chance := c } s') :
    Runs permutation window responses number s s'
  /-- A block without children left that does not begin anew is over. -/
  | stop {number : Nat} {s : Scene σ} {b : Block} (hb : s.table[number]? = some b)
    (htake : b.pass.take? = none)
    (hdecide : b.info.policy.decide b.pass.iteration
      ((OutcomeStore.answers s.store).history b.info.path) = .stop) :
    Runs permutation window responses number s s

/-- Running some blocks, one after the other, leads from one scene to another. -/
inductive RunsAll (permutation : UInt32) (window : Nat) (responses : Nat → Response) :
    List Nat → Scene σ → Scene σ → Prop where
  | nil {s : Scene σ} : RunsAll permutation window responses [] s s
  | cons {number : Nat} {numbers : List Nat} {s s' s'' : Scene σ}
    (hrun : Runs permutation window responses number s s')
    (hrest : RunsAll permutation window responses numbers s' s'') :
    RunsAll permutation window responses (number :: numbers) s s''

variable {number : Nat} {s s' s'' : Scene σ}

/-- A block is run in one way only. -/
theorem Runs.unique (h : Runs permutation window responses number s s')
    (h' : Runs permutation window responses number s s'') : s' = s'' := by
  induction h generalizing s'' with
  | skip hb htake hholds =>
    cases h' with
    | skip => rfl
    | child hb' _ hholds' | page hb' _ hholds' =>
      cases hb.symm.trans hb'
      cases hholds.symm.trans hholds'
    | again hb' htake' | stop hb' htake' =>
      cases hb.symm.trans hb'
      cases htake.symm.trans htake'
  | child hb htake hholds hcontent hchild _ _ ihrun ihrest =>
    cases h' with
    | skip hb' _ hholds' =>
      cases hb.symm.trans hb'
      cases hholds.symm.trans hholds'
    | child hb' htake' _ hcontent' hchild' hrun' hrest' =>
      cases hb.symm.trans hb'
      cases htake.symm.trans htake'
      cases hcontent.symm.trans hcontent'
      cases hchild.symm.trans hchild'
      cases ihrun hrun'
      exact ihrest hrest'
    | page hb' _ _ hcontent' =>
      cases hb.symm.trans hb'
      cases hcontent.symm.trans hcontent'
    | again hb' htake' | stop hb' htake' =>
      cases hb.symm.trans hb'
      cases htake.symm.trans htake'
  | page hb htake hholds hcontent hpage _ ih =>
    cases h' with
    | skip hb' _ hholds' =>
      cases hb.symm.trans hb'
      cases hholds.symm.trans hholds'
    | child hb' _ _ hcontent' =>
      cases hb.symm.trans hb'
      cases hcontent.symm.trans hcontent'
    | page hb' htake' _ hcontent' hpage' hrest' =>
      cases hb.symm.trans hb'
      cases htake.symm.trans htake'
      cases hcontent.symm.trans hcontent'
      cases hpage.symm.trans hpage'
      exact ih hrest'
    | again hb' htake' | stop hb' htake' =>
      cases hb.symm.trans hb'
      cases htake.symm.trans htake'
  | again hb htake hdecide hrestart _ ih =>
    cases h' with
    | skip hb' htake' | child hb' htake' | page hb' htake' =>
      cases hb.symm.trans hb'
      cases htake.symm.trans htake'
    | again hb' _ _ hrestart' hrest' =>
      cases hrestart.unique hrestart'
      exact ih hrest'
    | stop hb' _ hdecide' =>
      cases hb.symm.trans hb'
      cases hdecide.symm.trans hdecide'
  | stop hb htake hdecide =>
    cases h' with
    | skip hb' htake' | child hb' htake' | page hb' htake' =>
      cases hb.symm.trans hb'
      cases htake.symm.trans htake'
    | again hb' _ hdecide' =>
      cases hb.symm.trans hb'
      cases hdecide.symm.trans hdecide'
    | stop => rfl

theorem RunsAll.unique {numbers : List Nat}
    (h : RunsAll permutation window responses numbers s s')
    (h' : RunsAll permutation window responses numbers s s'') : s' = s'' := by
  induction h with
  | nil =>
    cases h'
    rfl
  | cons hrun _ ih =>
    cases h' with
    | cons hrun' hrest' =>
      cases hrun.unique hrun'
      exact ih hrest'

end Scene

/-- A whole run of an experiment that has not begun, by direct recursion, has an ending. -/
def Experiment.Interprets (e : Experiment) (responses : Nat → Response) (store : σ)
    (ending : Ending σ) : Prop :=
  ∃ s, Scene.RunsAll e.assignment.permutation e.window responses e.roots
    ⟨e.table, e.chance, store, []⟩ s ∧ ending = s.finalize

theorem Experiment.Interprets.unique {e : Experiment} {store : σ} {ending ending' : Ending σ}
    (h : e.Interprets responses store ending) (h' : e.Interprets responses store ending') :
    ending = ending' := by
  obtain ⟨s, hs, rfl⟩ := h
  obtain ⟨s', hs', rfl⟩ := h'
  rw [hs.unique hs']

/-! ## Calls -/

namespace Performance

/-- The run without its position. -/
def scene (p : Performance σ) : Scene σ :=
  ⟨p.experiment.table, p.experiment.chance, p.store, p.displays⟩

/-- The performance after a page has been shown and its response recorded; the `n`-th page gets the
`n`-th response. -/
def display (responses : Nat → Response) (p : Performance σ) (page : Page) : Performance σ :=
  { p with
    store := OutcomeStore.record p.store page.path (responses p.displays.length)
    displays := p.displays ++ [⟨page, p.experiment.table, p.experiment.chance⟩] }

/-- One call, after which another one follows if a page has been shown. -/
def call (responses : Nat → Response) (p : Performance σ) :
    Course (Performance σ ⊕ Ending σ) :=
  let next := p.experiment.advance p.store
  let after : Performance σ := { p with experiment := next.2.1, store := next.2.2 }
  match next.1 with
  | .ok (.shown page) => return .inl (after.display responses page)
  | result => return .inr ⟨after.scene, result⟩

/-- Calls, one after the other up to the first that shows no page, have an ending. -/
def Completes (responses : Nat → Response) : Performance σ → Ending σ → Prop :=
  Course.Ends (call responses)

end Performance

end Trials
