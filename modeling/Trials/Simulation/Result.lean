import Trials.Simulation.Summary
import Trials.Store.SessionRecord
import Trials.Instant

/-!
# Saved simulations

A `SimulationResult` is a simulation with its script, its pool and its times, as it is saved in a
file of its own (`SimulationResult.save`) and read again (`SimulationResult.read`).
-/

namespace Trials

/-! ## Pools and summaries as values -/

/-- An optional number as a value. -/
def natOrNull : Option Nat → Json
  | some n => .nat n
  | none => .null

/-- A double as a value; `null` if it is not finite. -/
def finiteOrNull (x : Binary64) : Json := if x.isFinite then .double x else .null

namespace SimulationConfig

/-- The names of the parts, in order. -/
def fieldNames : List String :=
  ["participants", "versions", "permutations", "seed", "correct_rate", "repair_window",
    "max_pages"]

/-- The shape of a pool. -/
def shape : Json.Shape := .record (fieldNames.map fun name => (name, .any)) false

/-- The pool as a value. -/
def toJson (c : SimulationConfig) : Json :=
  .obj [("participants", .nat c.participants.toNat), ("versions", .nat c.versions.toNat),
    ("permutations", .nat c.permutations.toNat), ("seed", .nat c.seed.toNat),
    ("correct_rate", finiteOrNull c.correctRate), ("repair_window", .nat c.window),
    ("max_pages", natOrNull c.maxPages)]

/-- The pool that a value is. -/
def ofJson? (v : Json) : Option SimulationConfig := do
  let fields ← v.allFields fieldNames
  return {
    participants := ← Json.required? fields "participants" Json.uint32?
    versions := ← Json.required? fields "versions" Json.uint32?
    permutations := ← Json.required? fields "permutations" Json.uint32?
    seed := ← Json.required? fields "seed" Json.uint64?
    correctRate := ← Json.required? fields "correct_rate" Json.number?
    window := ← Json.required? fields "repair_window" (Json.natBelow? UInt64.size)
    maxPages := ← Json.optionalField? fields "max_pages" (Json.natBelow? UInt64.size) }

end SimulationConfig

/-- The counts as a value. -/
def countsJson (counts : Table String Nat) : Json := .obj (counts.map fun e => (e.1, .nat e.2))

/-- The counts that a value is. -/
def counts? : Json → Option (Table String Nat)
  | .obj fields => do
    return Table.ofList (← fields.mapM fun f => do return (f.1, ← f.2.natBelow? UInt64.size))
  | _ => none

/-- The number that the name of a field writes. -/
def slot? (name : String) : Option Nat :=
  (Json.Document.numberName? name.toList).map fun _ => Json.natOfDigits 0 name.toList

namespace SimulationSummary

/-- The names of the parts, in order. -/
def fieldNames : List String :=
  ["participants", "completed", "pages_shown", "slots", "first_pages"]

/-- The shape of a summary. -/
def shape : Json.Shape :=
  .record [("participants", .any), ("completed", .any), ("pages_shown", .any),
    ("slots", .numbered (.table .any)), ("first_pages", .table (.table .any))] false

/-- The summary as a value. -/
def toJson (s : SimulationSummary) : Json :=
  .obj [("participants", .nat s.participants), ("completed", .nat s.completed),
    ("pages_shown", .nat s.pagesShown),
    ("slots", .obj (s.slots.map fun e => (toString e.1, countsJson e.2))),
    ("first_pages", .obj (s.firstPages.map fun e => (e.1, countsJson e.2)))]

/-- The tallies by slot that a value is. -/
def slots? : Json → Option (Table Nat (Table String Nat))
  | .obj fields => do
    return Table.ofList (← fields.mapM fun f => do return (← slot? f.1, ← counts? f.2))
  | _ => none

/-- The tallies by block that a value is. -/
def firstPages? : Json → Option (Table String (Table String Nat))
  | .obj fields => do return Table.ofList (← fields.mapM fun f => do return (f.1, ← counts? f.2))
  | _ => none

/-- The summary that a value is. -/
def ofJson? (v : Json) : Option SimulationSummary := do
  let fields ← v.allFields fieldNames
  return {
    participants := ← Json.required? fields "participants" (Json.natBelow? UInt64.size)
    completed := ← Json.required? fields "completed" (Json.natBelow? UInt64.size)
    pagesShown := ← Json.required? fields "pages_shown" (Json.natBelow? UInt64.size)
    slots := ← Json.required? fields "slots" slots?
    firstPages := ← Json.required? fields "first_pages" firstPages? }

end SimulationSummary

/-! ## Results -/

/-- A simulation as it is saved. -/
structure SimulationResult where
  script : String
  config : SimulationConfig
  startTime : String
  endTime : String
  duration : Binary64
  summary : SimulationSummary
deriving DecidableEq

/-- Why a result cannot be saved or read. -/
inductive ResultError where
  /-- An operation on the file of the given name fails. -/
  | file (operation name : String) (cause : FileError)
  | text (name : String)
deriving DecidableEq

/-- The texts of the error and of what caused it, outermost first. -/
def ResultError.chain : ResultError → List String
  | file operation name cause => [operation ++ " " ++ name, cause.message]
  | text name => ["parse result " ++ name, "the text is no simulation result"]

namespace SimulationResult

/-- The result of a simulation that ran from one moment to another. -/
def ofRun (script : String) (config : SimulationConfig) (started finished : Instant)
    (summary : SimulationSummary) : SimulationResult :=
  { script, config, startTime := started.stamp, endTime := finished.stamp, summary
    duration := (Binary64.ofInt (finished.milliseconds - started.milliseconds)).div (.ofNat 1000) }

/-- The names of the parts, in order. -/
def fieldNames : List String :=
  ["script", "config", "start_time", "end_time", "duration_secs", "summary"]

/-- The shape of a result. -/
def shape : Json.Shape :=
  .record [("script", .any), ("config", SimulationConfig.shape), ("start_time", .any),
    ("end_time", .any), ("duration_secs", .any), ("summary", SimulationSummary.shape)] false

/-- The result as a value. -/
def toJson (r : SimulationResult) : Json :=
  .obj [("script", .str r.script), ("config", r.config.toJson), ("start_time", .str r.startTime),
    ("end_time", .str r.endTime), ("duration_secs", finiteOrNull r.duration),
    ("summary", r.summary.toJson)]

/-- The result that a value is. -/
def ofJson? (v : Json) : Option SimulationResult := do
  let fields ← v.allFields fieldNames
  return {
    script := ← Json.required? fields "script" Json.str?
    config := ← Json.required? fields "config" SimulationConfig.ofJson?
    startTime := ← Json.required? fields "start_time" Json.str?
    endTime := ← Json.required? fields "end_time" Json.str?
    duration := ← Json.required? fields "duration_secs" Json.number?
    summary := ← Json.required? fields "summary" SimulationSummary.ofJson? }

/-- The text of the file. -/
def text (r : SimulationResult) : String := r.toJson.pretty ++ "\n"

/-- The result that a text writes. -/
def parse? (text : String) : Option SimulationResult := (Json.parseAs? shape text).bind ofJson?

/-- The name of the file for a simulation that began at a moment. -/
def fileName (started : Instant) : String := "sim-" ++ started.tag ++ ".json"

/-- The name of the saved file in a directory, which is made if need be, and the disk afterwards;
the disk is also given if saving fails. -/
def save (r : SimulationResult) (disk : Disk) (directory : String) (started : Instant) :
    Except ResultError String × Disk :=
  match disk.makeDirectories directory with
  | (.error cause, disk) => (.error (.file "create results dir" directory cause), disk)
  | (.ok (), disk) =>
    let name := FileName.join directory (fileName started)
    match disk.write name r.text with
    | .error cause => (.error (.file "write result" name cause), disk)
    | .ok disk => (.ok name, disk)

/-- The result in a file. -/
def read (disk : Disk) (name : String) : Except ResultError SimulationResult :=
  match disk.read name with
  | .error cause => .error (.file "read" name cause)
  | .ok text =>
    match parse? text with
    | some result => .ok result
    | none => .error (.text name)

/-- The lines of the report on a saved result. -/
def lines (r : SimulationResult) : List String :=
  ("run: script=" ++ r.script ++ " start=" ++ r.startTime ++ " duration_secs="
    ++ r.duration.toFixed2) :: r.summary.lines

/-- Whether two results are equal, numbers being compared by value. -/
def same (r s : SimulationResult) : Bool :=
  r.config.correctRate.same s.config.correctRate && r.duration.same s.duration
    && { r with duration := .zero, config := { r.config with correctRate := .zero } }
      == { s with duration := .zero, config := { s.config with correctRate := .zero } }

end SimulationResult

end Trials
