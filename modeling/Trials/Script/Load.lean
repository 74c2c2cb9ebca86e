import Trials.Script.Decode
import Trials.Script.Schema
import Trials.Script.Violation
import Trials.Order.Siblings
import Trials.Order.Separated
import Trials.Selection
import Trials.Json.Document
import Trials.Files.Disk

/-!
# Reading scripts

`Script.parse` reads a script from a text: the text must be JSON, the value must have the form of a
script, and the script must break no rule.  A `ScriptError` is any fault of a script that has been
found before a page is shown, also one that shows only when an experiment is built from it.
-/

namespace Trials

/-- A fault of a script. -/
inductive ScriptError where
  /-- The value has not the form of a script. -/
  | form (faults : List SchemaFault)
  /-- The value cannot be read as a script. -/
  | reading (cause : DecodeError)
  | rules (violations : List Violation)
  /-- Pages are to be kept apart without looking at any neighbour. -/
  | noWindow
  | rule (cause : RuleError)
  /-- A block has no content or several kinds of it. -/
  | content (path : Path)
  /-- No pages can be chosen from the groups of a block. -/
  | selection (path : Path) (cause : SelectionError)
  /-- The pages of a block cannot be kept apart. -/
  | order (path : Path) (cause : OrderError)
  | siblings (cause : SiblingConflict)

namespace ScriptError

/-- What is wrong. -/
def cause : ScriptError → String
  | form faults => "schema validation failed: " ++ joinWith "; " (faults.map SchemaFault.message)
  | reading cause => "deserialize script: " ++ cause.message
  | rules violations => joinWith "; " (violations.map Violation.message)
  | noWindow => "pseudorandom repair window must be > 0"
  | rule cause => cause.message
  | content path => (Violation.block path .noSingleContent).message
  | selection path cause => path.text ++ ": " ++ cause.message
  | order path cause => path.text ++ ": " ++ cause.message
  | siblings cause => cause.message

/-- The text of the error. -/
def message (e : ScriptError) : String := "script configuration error: " ++ e.cause

end ScriptError

/-- Why a text is no script. -/
inductive ScriptTextError where
  | noJson
  | script (e : ScriptError)

/-- The texts of the error and of what caused it, outermost first. -/
def ScriptTextError.chain : ScriptTextError → List String
  | noJson => ["parse script json", "the text is no JSON"]
  | script e => [e.message]

/-- Why no script can be had from a file. -/
inductive ScriptFileError where
  | file (name : String) (cause : FileError)
  | text (name : String) (cause : ScriptTextError)

/-- The texts of the error and of what caused it, outermost first. -/
def ScriptFileError.chain : ScriptFileError → List String
  | file name cause => ["read script " ++ name, cause.message]
  | text name cause => ("load script " ++ name) :: cause.chain

/-- Whether the file could be read, but holds a script with a fault. -/
def ScriptFileError.isFault : ScriptFileError → Bool
  | text _ (.script _) => true
  | _ => false

namespace Script

/-- The script that a value is, if it breaks no rule. -/
def check (v : Json) : Except ScriptError Script :=
  match Schema.script v with
  | [] =>
    match ofJson v with
    | .error cause => .error (.reading cause)
    | .ok script =>
      match script.violations with
      | [] => .ok script
      | violations => .error (.rules violations)
  | faults => .error (.form faults)

/-- The script that a text writes, if it breaks no rule. -/
def parse (text : String) : Except ScriptTextError Script :=
  match Json.parse? text with
  | none => .error .noJson
  | some v => (check v).mapError .script

/-- The script in a file. -/
def load (disk : Disk) (name : String) : Except ScriptFileError Script :=
  match disk.read name with
  | .error cause => .error (.file name cause)
  | .ok text => (parse text).mapError (.text name)

end Script

end Trials
