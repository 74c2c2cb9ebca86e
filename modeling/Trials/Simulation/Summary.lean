import Trials.Session.Simulated
import Trials.Simulation.Config
import Trials.Simulation.Table
import Trials.Number.Fixed

/-!
# Balance of a simulation

`simulate` runs a pool of simulated participants through a script and tallies the orders that they
saw (`SimulationSummary`): how often each top-level block ran in each slot, and how often each page
was the first of its block.
-/

namespace Trials

/-- The tallies of a simulation. -/
structure SimulationSummary where
  participants : Nat := 0
  completed : Nat := 0
  /-- The number of pages shown to all of them. -/
  pagesShown : Nat := 0
  /-- For each top-level slot, how often each block ran in it. -/
  slots : Table Nat (Table String Nat) := []
  /-- For each block, by the text of its path, how often each page was the first one shown. -/
  firstPages : Table String (Table String Nat) := []
deriving DecidableEq, Inhabited

namespace SimulationSummary

/-- The block and the page that the path of a page names. -/
def blockAndPage (path : Path) : Option (String × String) := do
  return ((← path.parent?).text, ← path.id?)

/-- The first page shown of each block. -/
def firstSeen (shown : List Path) : Table String String :=
  (shown.filterMap blockAndPage).foldl (fun t e => t.alter e.1 e.2 id) []

/-- The summary with one more participant, who saw the top-level blocks `top` and the pages `shown`
in these orders. -/
def record (s : SimulationSummary) (top : List String) (shown : List Path) (finished : Bool) :
    SimulationSummary :=
  { participants := s.participants + 1
    completed := s.completed + if finished then 1 else 0
    pagesShown := s.pagesShown + shown.length
    slots := top.zipIdx.foldl (fun t e => t.alter e.2 [] (Table.count e.1)) s.slots
    firstPages :=
      (firstSeen shown).foldl (fun t e => t.alter e.1 [] (Table.count e.2)) s.firstPages }

/-- The mean number of pages shown to a participant. -/
def meanPages (s : SimulationSummary) : Option Binary64 :=
  if s.participants = 0 then none
  else some ((Binary64.ofNat s.pagesShown).div (.ofNat s.participants))

/-! ## Reports -/

/-- Some counts in one line. -/
def countsText (counts : Table String Nat) : String :=
  joinWith " " (counts.map fun e => e.1 ++ "=" ++ toString e.2)

/-- The lines of a report. -/
def lines (s : SimulationSummary) : List String :=
  ["report: participants=" ++ toString s.participants ++ " completed=" ++ toString s.completed]
    ++ (s.meanPages.toList.map fun mean => "report: mean_pages=" ++ mean.toFixed2)
    ++ (s.slots.map fun e => "report: slot " ++ toString e.1 ++ " " ++ countsText e.2)
    ++ (s.firstPages.map fun e => "report: first " ++ e.1 ++ " " ++ countsText e.2)

end SimulationSummary

/-! ## Running -/

/-- Why a simulation fails. -/
inductive SimulationError where
  | pool (fault : PoolFault)
  /-- The experiment of the participant with an index cannot be built. -/
  | build (index : UInt32) (cause : ScriptError)
  /-- The session of the participant with an index fails. -/
  | run (index : UInt32) (cause : StoreError)

/-- The texts of the error and of what caused it, outermost first. -/
def SimulationError.chain : SimulationError → List String
  | pool fault => [fault.message]
  | build index cause =>
    ["build experiment for participant " ++ toString index.toNat, cause.message]
  | run index cause => ("run participant " ++ toString index.toNat) :: cause.chain

/-- What a simulation comes to. -/
structure Simulation where
  summary : SimulationSummary := {}
  /-- How many restarted blocks kept their order because no other could be drawn. -/
  failures : Nat := 0

namespace Simulation

/-- The simulation with one more participant. -/
def addParticipant (script : Script) (c : SimulationConfig) (index : UInt32) (s : Simulation) :
    Except SimulationError Simulation :=
  let options := { assignment := c.assignmentFor index, window := c.window }
  match Experiment.ofSeed script options (c.orderSeed index) with
  | .error cause => .error (.build index cause)
  | .ok experiment =>
    let session : Session MemoryStore SimulatedParticipant :=
      { experiment, store := {}
        participant := .ofRate c.correctRate (Words.ofSeed (c.answerSeed index)) }
    match session.run c.maxPages with
    | (.error cause, _) => .error (.run index cause)
    | (.ok stop, after) =>
      .ok {
        summary := s.summary.record (after.experiment.top.map fun n => n.info.id) after.shown
          (stop == .finished)
        failures := s.failures + after.experiment.chance.failures }

/-- The simulation with some more participants, the first of whom has the given index. -/
def addFrom (script : Script) (c : SimulationConfig) :
    Nat → Nat → Simulation → Except SimulationError Simulation
  | 0, _, s => .ok s
  | count + 1, index, s =>
    match addParticipant script c (UInt32.ofNat index) s with
    | .ok s => addFrom script c count (index + 1) s
    | .error e => .error e

end Simulation

/-- The simulation of a whole pool. -/
def simulate (script : Script) (c : SimulationConfig) : Except SimulationError Simulation :=
  match c.fault? with
  | some fault => .error (.pool fault)
  | none => Simulation.addFrom script c c.participants.toNat 0 {}

end Trials
