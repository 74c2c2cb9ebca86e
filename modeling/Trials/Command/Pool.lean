import Trials.Command.Arguments
import Trials.Command.Output
import Trials.Simulation.Result

/-!
# Commands for a pool of participants

The commands that simulate a pool of participants and that print a saved simulation again.
`Pool.parse?` reads the arguments and `Pool.run` runs them on a disk.
-/

namespace Trials.Pool

/-- A command. -/
inductive Command where
  /-- Simulate a pool, and save the result in a directory if one is given. -/
  | run (script : String) (config : SimulationConfig) (directory : Option String)
  | report (file : String)

/-! ## Arguments -/

/-- The options of a simulation. -/
def runSpecs : List OptionSpec :=
  [{ name := "participants" }, { name := "versions" }, { name := "permutations" },
    { name := "seed" }, { name := "correct-rate" }, { name := "window" }, { name := "max-pages" },
    { name := "out" }]

/-- The rate of correct answers unless another one is given: four in five. -/
def defaultRate : Binary64 := .ofDecimal false 8 (-1)

/-- The largest number of pages shown to a participant unless another one is given. -/
def defaultPages : Nat := 10000

/-- The pool that some options describe; the number of participants must be given. -/
def config? (a : Arguments) : Option SimulationConfig := do
  return {
    participants := ← Arguments.uint32? (← a.value? "participants")
    versions := ← a.valueOr "versions" 1 Arguments.uint32?
    permutations := ← a.valueOr "permutations" 1 Arguments.uint32?
    seed := ← a.valueOr "seed" 0 Arguments.uint64?
    correctRate := ← a.valueOr "correct-rate" defaultRate Arguments.double?
    window := ← a.valueOr "window" defaultWindow Arguments.size?
    maxPages := some (← a.valueOr "max-pages" defaultPages Arguments.size?) }

/-- The command that some arguments ask for. -/
def parse? (args : List String) : Option Command := do
  let (_, name, rest) ← Arguments.split [] args
  match name with
  | "run" => do
    let a ← Arguments.scan runSpecs rest
    return .run (← a.onlyFile?) (← config? a) (← a.optional? "out" Arguments.fileName?)
  | "report" => do return .report (← (← Arguments.scan [] rest).onlyFile?)
  | _ => none

/-! ## Running -/

/-- What a failed command leaves behind. -/
def failed (chain : List String) (disk : Disk) : Output :=
  { code := Output.errorCode, err := Output.onLines chain, disk }

/-- The command that simulates a pool from one moment to another. -/
def runSimulation (disk : Disk) (started finished : Instant) (script : String)
    (config : SimulationConfig) (directory : Option String) : Output :=
  match Script.load disk script with
  | .error cause => failed cause.chain disk
  | .ok loaded =>
    match simulate loaded config with
    | .error cause => failed ("simulate" :: cause.chain) disk
    | .ok simulation =>
      let report := Output.unlines simulation.summary.lines
      match directory with
      | none => { out := report, disk }
      | some directory =>
        let result := SimulationResult.ofRun script config started finished simulation.summary
        match result.save disk directory started with
        | (.ok name, disk) => { out := report ++ "run: results=" ++ name ++ "\n", disk }
        | (.error cause, disk) => { failed cause.chain disk with out := report }

/-- The command that prints a saved result. -/
def runReport (disk : Disk) (file : String) : Output :=
  match SimulationResult.read disk file with
  | .ok result => { out := Output.unlines result.lines, disk }
  | .error cause => failed cause.chain disk

/-- What some arguments leave behind, when the command starts and finishes at the given moments. -/
def run (args : List String) (started finished : Instant) (disk : Disk) : Output :=
  match parse? args with
  | none => .usage "sim run FILE --participants N ... | report FILE" disk
  | some (.run script config directory) =>
    runSimulation disk started finished script config directory
  | some (.report file) => runReport disk file

end Trials.Pool
