import Trials.Command.Arguments
import Trials.Command.Output
import Trials.Session.Simulated
import Trials.Settings
import Trials.Store.SessionRecord

/-!
# Commands for one participant

The commands that write default settings, check a script, print the order in which one participant
would see everything, and run one simulated participant.  `Single.parse?` reads the arguments and
`Single.run` runs them on a disk.
-/

namespace Trials.Single

/-- What replaces settings for one command. -/
structure Overrides where
  version : Option UInt32 := none
  permutation : Option UInt32 := none
  seed : Option UInt64 := none
deriving DecidableEq

/-- The settings with some replaced. -/
def Overrides.apply (o : Overrides) (s : Settings) : Settings :=
  { s with
    assignment := ⟨o.version.getD s.assignment.version, o.permutation.getD s.assignment.permutation⟩
    seed := o.seed.or s.seed }

/-- A command. -/
inductive Command where
  /-- Write default settings, over existing ones only by force. -/
  | init (force : Bool)
  /-- Check a script and build it once. -/
  | validate (script : String)
  /-- Print all blocks and pages in run order. -/
  | plan (script : String) (overrides : Overrides)
  | simulate (script : String) (overrides : Overrides) (correctRate : Binary64)
    (record : Option String) (maxPages : Option Nat)

/-! ## Arguments -/

/-- The option that names the file of the settings. -/
def configSpec : OptionSpec := { name := "config" }

/-- The options that replace settings. -/
def overrideSpecs : List OptionSpec :=
  [{ name := "version" }, { name := "permutation" }, { name := "seed" }]

/-- The options of a command. -/
def specs? (command : String) : Option (List OptionSpec) :=
  match command with
  | "init" => some [configSpec, { name := "force", short := some 'f', hasValue := false }]
  | "validate" => some [configSpec]
  | "plan" => some (configSpec :: overrideSpecs)
  | "simulate" =>
    some (configSpec :: { name := "correct-rate" } :: { name := "record" }
      :: { name := "max-pages" } :: overrideSpecs)
  | _ => none

/-- The replaced settings. -/
def overrides? (a : Arguments) : Option Overrides := do
  return {
    version := ← a.optional? "version" Arguments.uint32?
    permutation := ← a.optional? "permutation" Arguments.uint32?
    seed := ← a.optional? "seed" Arguments.uint64? }

/-- The rate of correct answers unless another one is given: four in five. -/
def defaultRate : Binary64 := .ofDecimal false 8 (-1)

/-- The command of the given name with its arguments. -/
def command? (name : String) (a : Arguments) : Option Command :=
  match name with
  | "init" => if a.operands.isEmpty then some (.init (a.has "force")) else none
  | "validate" => a.onlyFile?.map .validate
  | "plan" => do return .plan (← a.onlyFile?) (← overrides? a)
  | "simulate" => do
    return .simulate (← a.onlyFile?) (← overrides? a)
      (← a.valueOr "correct-rate" defaultRate Arguments.double?)
      (← a.optional? "record" Arguments.fileName?)
      (← a.optional? "max-pages" Arguments.size?)
  | _ => none

/-- The file of the settings and the command that some arguments ask for.  The file may be named
before the command or after it; the latter counts. -/
def parse? (args : List String) : Option (String × Command) := do
  let (before, name, rest) ← Arguments.split [configSpec] args
  let a ← Arguments.scan (← specs? name) rest
  let config ← before.valueOr "config" "engine.toml" Arguments.fileName?
  return (← a.valueOr "config" config Arguments.fileName?, ← command? name a)

/-! ## Running -/

/-- Why a command fails. -/
inductive Failure where
  | settingsExist (name : String)
  | writing (name : String) (cause : SettingsError)
  | settings (cause : SettingsError)
  | script (cause : ScriptFileError)
  /-- No experiment can be built from the script. -/
  | build (name : String) (cause : ScriptError)
  /-- The rate of correct answers is no probability. -/
  | badRate (rate : Binary64)
  | record (cause : StoreError)

namespace Failure

/-- The texts of the error and of what caused it, outermost first. -/
def chain : Failure → List String
  | settingsExist name => [name ++ " already exists (use --force to overwrite)"]
  | writing name cause => ("write " ++ name) :: cause.chain
  | settings cause => cause.chain
  | script cause => cause.chain
  | build name cause => ["build " ++ name, cause.message]
  | badRate rate => ["--correct-rate must be between 0 and 1, got " ++ rate.toPositional]
  | record cause => cause.chain

/-- Whether the failure is a fault of the script. -/
def isFault : Failure → Bool
  | script cause => cause.isFault
  | build _ _ => true
  | _ => false

/-- What the command leaves behind. -/
def output (f : Failure) (disk : Disk) : Output :=
  { code := if f.isFault then Output.faultCode else Output.errorCode
    err := Output.onOneLine f.chain
    disk }

end Failure

/-- The seeds that are used if none is given: one for the experiment and one for the participant. -/
structure Entropy where
  experiment : UInt64
  participant : UInt64

/-- The experiment that a script file declares under some settings. -/
def build (entropy : Entropy) (s : Settings) (name : String) (script : Script) :
    Except Failure Experiment :=
  (Experiment.ofSeed script s.buildOptions (s.seed.getD entropy.experiment)).mapError (.build name)

/-- The settings in a file, some of them replaced. -/
def settings (disk : Disk) (config : String) (o : Overrides) : Except Failure Settings :=
  ((Settings.load disk config).map o.apply).mapError .settings

/-- The command that writes default settings. -/
def runInit (disk : Disk) (config : String) (force : Bool) : Output :=
  if !force && disk.contains config then (Failure.settingsExist config).output disk
  else
    match Settings.save {} disk config with
    | (.error cause, disk) => (Failure.writing config cause).output disk
    | (.ok (), disk) => { out := "wrote " ++ config ++ "\n", disk }

/-- The experiment for a command that only looks at it. -/
def experiment (entropy : Entropy) (disk : Disk) (config script : String) (o : Overrides) :
    Except Failure Experiment := do
  let s ← settings disk config o
  let loaded ← (Script.load disk script).mapError .script
  build entropy s script loaded

/-- What a session leaves behind once the pages shown are known. -/
def sessionOutput (shown : List Path) (stop : SessionStop) (disk : Disk) : Output :=
  { out := Output.unlines (shown.map Path.text)
    err := match stop with
      | .pageLimit pages =>
        "stopped after " ++ toString pages ++ " pages before the experiment finished\n"
      | _ => ""
    disk }

/-- The command that runs a simulated participant. -/
def runSimulate (entropy : Entropy) (disk : Disk) (config script : String) (o : Overrides)
    (rate : Binary64) (record : Option String) (maxPages : Option Nat) :
    Except Failure Output := do
  let s ← settings disk config o
  if !rate.isProbability then throw (.badRate rate)
  let loaded ← (Script.load disk script).mapError .script
  let e ← build entropy s script loaded
  let seed := match s.seed with
    | some seed => seed + 1
    | none => entropy.participant
  let participant := SimulatedParticipant.ofRate rate (Words.ofSeed seed)
  match record with
  | some name =>
    let store : RecordStore := { name, assignment := s.assignment, disk }
    let session : Session RecordStore SimulatedParticipant :=
      { experiment := e, store, participant }
    match session.run maxPages with
    | (.ok stop, after) => return sessionOutput after.shown stop after.store.disk
    | (.error cause, after) => return (Failure.record cause).output after.store.disk
  | none =>
    let session : Session MemoryStore SimulatedParticipant :=
      { experiment := e, store := {}, participant }
    match session.run maxPages with
    | (.ok stop, after) => return sessionOutput after.shown stop disk
    | (.error cause, _) => throw (.record cause)

/-- What a command leaves behind. -/
def runCommand (entropy : Entropy) (disk : Disk) (config : String) : Command → Output
  | .init force => runInit disk config force
  | .validate script =>
    match experiment entropy disk config script {} with
    | .ok _ => { out := "ok\n", disk }
    | .error f => f.output disk
  | .plan script o =>
    match experiment entropy disk config script o with
    | .ok e => { out := e.describe, disk }
    | .error f => f.output disk
  | .simulate script o rate record maxPages =>
    match runSimulate entropy disk config script o rate record maxPages with
    | .ok output => output
    | .error f => f.output disk

/-- What some arguments leave behind. -/
def run (args : List String) (entropy : Entropy) (disk : Disk) : Output :=
  match parse? args with
  | none => .usage "engine [--config FILE] init | validate | plan | simulate ..." disk
  | some (config, command) => runCommand entropy disk config command

end Trials.Single
