import Trials.Store.Memory
import Trials.Assignment
import Trials.Json.Decode
import Trials.Json.Shape
import Trials.Json.Printer

/-!
# Session records

A `SessionRecord` is what is left of a session: the participant's assignment and all responses.
`SessionRecord.text` writes one as a JSON text and `SessionRecord.parse?` reads such a text.  A
`RecordStore` is a store that writes its session record to a file when it is finalized.
-/

namespace Trials

/-- The assignment as a value. -/
def Assignment.toJson (a : Assignment) : Json :=
  .obj [("version", .nat a.version.toNat), ("permutation", .nat a.permutation.toNat)]

/-- The names of an assignment's parts, in order. -/
def Assignment.fieldNames : List String := ["version", "permutation"]

/-- The shape of an assignment, whose parts may be missing. -/
def Assignment.shape : Json.Shape :=
  .record (Assignment.fieldNames.map fun name => (name, .any)) true

/-- The assignment that a value is; a missing part is zero. -/
def Assignment.ofJson? (v : Json) : Option Assignment := do
  let fields ← v.recordFields Assignment.fieldNames
  return {
    version := ← Json.withDefault? fields "version" 0 Json.uint32?
    permutation := ← Json.withDefault? fields "permutation" 0 Json.uint32? }

/-- The path as a value: the list of its identifiers. -/
def Path.toJson (p : Path) : Json := .arr (p.segments.map .str)

/-- The path that a value is. -/
def Path.ofJson? (v : Json) : Option Path := (v.listOf? Json.str?).map Path.mk

/-- An optional text as a value. -/
def textOrNull : Option String → Json
  | some s => .str s
  | none => .null

/-- An optional truth value as a value. -/
def boolOrNull : Option Bool → Json
  | some b => .bool b
  | none => .null

/-- The fields of a response. -/
def Response.fields (r : Response) : List (String × Json) :=
  [("selection", textOrNull r.selection), ("text", textOrNull r.text),
    ("correct", boolOrNull r.correct)]

/-- The response that some fields make up. -/
def Response.ofFields? (fields : List (String × Json)) : Option Response := do
  return {
    selection := ← Json.optionalField? fields "selection" Json.str?
    text := ← Json.optionalField? fields "text" Json.str?
    correct := ← Json.optionalField? fields "correct" Json.bool? }

/-- The record as a value. -/
def Record.toJson (r : Record) : Json := .obj (("path", r.path.toJson) :: r.response.fields)

/-- The shape of a record. -/
def Record.shape : Json.Shape :=
  .openRecord (["path", "selection", "text", "correct"].map fun name => (name, .any))

/-- The record that a value is. -/
def Record.ofJson? : Json → Option Record
  | .obj fields => do
    return {
      path := ← Json.required? fields "path" Path.ofJson?
      response := ← Response.ofFields? fields }
  | _ => none

/-- What is left of a session. -/
structure SessionRecord where
  assignment : Assignment
  /-- The responses, oldest first. -/
  records : List Record
deriving DecidableEq

namespace SessionRecord

/-- The names of the parts, in order. -/
def fieldNames : List String := ["assignment", "records"]

/-- The shape of a session record. -/
def shape : Json.Shape :=
  .record [("assignment", Assignment.shape), ("records", .list Record.shape)] false

/-- The session record as a value. -/
def toJson (r : SessionRecord) : Json :=
  .obj [("assignment", r.assignment.toJson), ("records", .arr (r.records.map Record.toJson))]

/-- The session record that a value is. -/
def ofJson? (v : Json) : Option SessionRecord := do
  let fields ← v.allFields fieldNames
  return {
    assignment := ← Json.required? fields "assignment" Assignment.ofJson?
    records := ← Json.required? fields "records" (Json.listOf? Record.ofJson?) }

/-- The text of the file. -/
def text (r : SessionRecord) : String := r.toJson.pretty ++ "\n"

/-- The session record that a text writes. -/
def parse? (text : String) : Option SessionRecord := (Json.parseAs? shape text).bind ofJson?

end SessionRecord

/-- Why a session record cannot be read. -/
inductive RecordError where
  | file (name : String) (cause : FileError)
  | text (name : String)
deriving DecidableEq

/-- The texts of the error and of what caused it, outermost first. -/
def RecordError.chain : RecordError → List String
  | file name cause => ["read record " ++ name, cause.message]
  | text name => ["parse record " ++ name, "the text is no session record"]

/-- The session record in a file. -/
def SessionRecord.read (disk : Disk) (name : String) : Except RecordError SessionRecord :=
  match disk.read name with
  | .error cause => .error (.file name cause)
  | .ok text =>
    match parse? text with
    | none => .error (.text name)
    | some record => .ok record

/-- The result of an operation on a file, its error naming operation and file. -/
def onFile {α : Type} (operation name : String) (result : Except FileError α) :
    Except StoreError α :=
  result.mapError (.file operation name)

/-- The disk after a file has been replaced: the text is written to a temporary file beside it,
which then takes its name.  The result says which step failed; what the earlier steps did stays. -/
def replaceFile (disk : Disk) (name text : String) : Except StoreError Unit × Disk :=
  let temporary := FileName.withExtension name "json.tmp"
  let parent := (FileName.parent? name).getD ""
  let made := if parent.isEmpty then (.ok (), disk) else disk.makeDirectories parent
  match made with
  | (.error cause, disk) => (.error (.file "create directory" parent cause), disk)
  | (.ok (), disk) =>
    match onFile "write" temporary (disk.write temporary text) with
    | .error e => (.error e, disk)
    | .ok disk =>
      match onFile "replace" name (disk.rename temporary name) with
      | .error e => (.error e, disk)
      | .ok disk => (.ok (), disk)

/-- A store that writes its session record to a file when it is finalized. -/
structure RecordStore where
  name : String
  assignment : Assignment
  memory : MemoryStore := {}
  /-- The disk on which the file is. -/
  disk : Disk

namespace RecordStore

/-- What the store writes. -/
def sessionRecord (s : RecordStore) : SessionRecord := ⟨s.assignment, s.memory.records⟩

/-- The result of finalizing the store, and the store afterwards. -/
def finalize (s : RecordStore) : Except StoreError Unit × RecordStore :=
  match s.memory.finalize with
  | (.error e, memory) => (.error e, { s with memory })
  | (.ok (), memory) =>
    let (result, disk) := replaceFile s.disk s.name s.sessionRecord.text
    (result, { s with memory, disk })

instance : OutcomeStore RecordStore where
  record s path response := { s with memory := s.memory.record path response }
  answers s := Record.answers s.memory.newest
  finalize := finalize

end RecordStore

end Trials
