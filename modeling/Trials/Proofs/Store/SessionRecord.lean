import Trials.Proofs.Json.Fitting
import Trials.Proofs.Files.Replacement

/-!
# Session records are faithful

A session record is read back from its text (`SessionRecord.parse?_text`), whatever characters its
identifiers, selections and texts consist of.  So the file of a record store that has been
finalized says what has been recorded until then (`RecordStore.finalize_faithful`); before and after
that the store leaves the disk alone.
-/

namespace Trials

open Json Json.Document

variable {depth : Nat}

/-! ## Parts of a record -/

@[simp] theorem valueWithin_toNat (n : UInt32) :
    valueWithin depth (Json.nat n.toNat).document = some (.nat n.toNat) :=
  valueWithin_nat (le_maxUnsigned (toNat_lt_size n))

@[simp] theorem valueWithin_textOrNull (s : Option String) :
    valueWithin depth (textOrNull s).document = some (textOrNull s) := by
  cases s <;> simp [textOrNull, document, valueWithin]

@[simp] theorem valueWithin_boolOrNull (b : Option Bool) :
    valueWithin depth (boolOrNull b).document = some (boolOrNull b) := by
  cases b <;> rfl

theorem itemsWithin_map_str (ids : List String) :
    itemsWithin depth (documents (ids.map .str)) = some (ids.map .str) := by
  induction ids with
  | nil => rfl
  | cons id rest ih => simp [documents, document, itemsWithin, valueWithin, ih]

theorem valueWithin_path (p : Path) :
    valueWithin (depth + 1) p.toJson.document = some p.toJson := by
  simp [Path.toJson, document, valueWithin, itemsWithin_map_str]

theorem mapM_str?_map_str (ids : List String) : (ids.map Json.str).mapM Json.str? = some ids := by
  induction ids with
  | nil => rfl
  | cons id rest ih => simp [ih, str?]

@[simp] theorem Path.ofJson?_toJson (p : Path) : Path.ofJson? p.toJson = some p := by
  rw [Path.ofJson?, Path.toJson, listOf?, mapM_str?_map_str]
  rfl

/-! ## Records -/

theorem Assignment.fit_document (depth : Nat) (a : Assignment) :
    fit (depth + 1) Assignment.shape a.toJson.document =
      some (ofFields
        [("version", .nat a.version.toNat), ("permutation", .nat a.permutation.toNat)]) := by
  simp [Assignment.shape, Assignment.fieldNames, Assignment.toJson, document_obj, fieldDocuments,
    fit, fitFields, shapeOf?, distinct_eq, namesDiffer]

theorem Assignment.ofJson?_ofFields (a : Assignment) :
    Assignment.ofJson? (ofFields
      [("version", .nat a.version.toNat), ("permutation", .nat a.permutation.toNat)]) =
      some a := by
  rw [ofFields_eq, Assignment.ofJson?]
  simp only [recordFields, Option.bind_eq_bind, Option.bind_some, withDefault?]
  rw [lookup_insertAll _ (by simp), lookup_insertAll _ (by simp)]
  simp [lookup]

theorem Record.fit_document (r : Record) :
    fit (depth + 2) Record.shape r.toJson.document =
      some (ofFields (("path", r.path.toJson) :: r.response.fields)) := by
  simp [Record.shape, Record.toJson, Response.fields, document_obj, fieldDocuments, fit, fitOpen,
    shapeOf?, distinct_eq, namesDiffer, valueWithin_path]

theorem Record.ofJson?_ofFields (r : Record) :
    Record.ofJson? (ofFields (("path", r.path.toJson) :: r.response.fields)) = some r := by
  have hnodup : ((("path", r.path.toJson) :: r.response.fields).map (·.1)).Nodup := by
    simp [Response.fields]
  have hlookup (name : String) := lookup_insertAll name hnodup
  obtain ⟨path, selection, text, correct⟩ := r
  rw [ofFields_eq, Record.ofJson?]
  simp only [Response.ofFields?, required?, optionalField?, withDefault?, hlookup]
  cases selection <;> cases text <;> cases correct <;>
    simp [lookup, Response.fields, textOrNull, boolOrNull, optional?, str?, bool?]

theorem fitItems_records (depth : Nat) (records : List Record) : ∃ vs,
    fitItems (depth + 2) Record.shape (documents (records.map Record.toJson)) = some vs ∧
      vs.mapM Record.ofJson? = some records := by
  induction records with
  | nil => exact ⟨[], rfl, rfl⟩
  | cons r rest ih =>
    obtain ⟨vs, hfit, hread⟩ := ih
    refine ⟨ofFields (("path", r.path.toJson) :: r.response.fields) :: vs, ?_, ?_⟩
    · simp [documents, fitItems, Record.fit_document, hfit]
    · simp [Record.ofJson?_ofFields, hread]

/-! ## Session records -/

theorem writable_textOrNull (s : Option String) : Writable (textOrNull s) := by
  cases s
  · exact .null
  · exact .str _

theorem writable_boolOrNull (b : Option Bool) : Writable (boolOrNull b) := by
  cases b
  · exact .null
  · exact .bool _

theorem Record.writable_toJson (r : Record) : Writable r.toJson := by
  have hpath : Writable r.path.toJson := by
    refine .arr fun v hv => ?_
    obtain ⟨id, -, rfl⟩ := List.mem_map.1 hv
    exact .str id
  refine .obj ?_
  simp [Response.fields, hpath, writable_textOrNull, writable_boolOrNull]

namespace SessionRecord

theorem writable_toJson (r : SessionRecord) : Writable r.toJson := by
  have hassignment : Writable r.assignment.toJson := by
    refine .obj ?_
    simp [Writable.nat]
  have hrecords : Writable (.arr (r.records.map Record.toJson)) := by
    refine .arr fun v hv => ?_
    obtain ⟨record, -, rfl⟩ := List.mem_map.1 hv
    exact record.writable_toJson
  refine .obj ?_
  simp [hassignment, hrecords]

/-- A session record is read back from its text. -/
theorem parse?_text (r : SessionRecord) : parse? r.text = some r := by
  obtain ⟨vs, hfit, hread⟩ := fitItems_records 123 r.records
  let fields := [("assignment", ofFields [("version", .nat r.assignment.version.toNat),
    ("permutation", .nat r.assignment.permutation.toNat)]), ("records", .arr vs)]
  have hshape : fit maxDepth shape r.toJson.document = some (ofFields fields) := by
    have hassignment := Assignment.fit_document 125 r.assignment
    have hrecords : fit 126 (.list Record.shape) (Json.arr (r.records.map Record.toJson)).document =
        some (.arr vs) := by
      rw [document_arr, fit, hfit]
      rfl
    have hfields : fitFields 126 [("assignment", Assignment.shape), ("records", .list Record.shape)]
        (fieldDocuments [("assignment", r.assignment.toJson),
          ("records", .arr (r.records.map Record.toJson))]) = some fields := by
      refine fitFields_cons "assignment" rfl hassignment (fitFields_cons "records" rfl hrecords ?_)
      rw [fieldDocuments, fitFields]
    rw [toJson, document_obj, shape, fit]
    exact Option.bind_eq_some_iff.2 ⟨fields, hfields, distinct_eq rfl⟩
  have hlookup (name : String) :=
    lookup_insertAll name (show (fields.map (·.1)).Nodup by simp [fields])
  have hvalue : ofJson? (ofFields fields) = some r := by
    rw [ofFields_eq, ofJson?]
    simp only [allFields, Option.bind_eq_bind, Option.bind_some, required?, hlookup]
    simp [fields, lookup, Assignment.ofJson?_ofFields, listOf?, hread]
  rw [parse?, text, parseAs?, read?_pretty r.writable_toJson _ rfl, Option.bind_some,
    hshape, Option.bind_some, hvalue]

theorem read_eq_ok {disk : Disk} {name : String} {r : SessionRecord}
    (h : disk.read name = .ok r.text) : read disk name = .ok r := by
  rw [read, h]
  simp only [parse?_text]

end SessionRecord

/-! ## Record stores -/

/-- What a session hands to its store. -/
inductive Entry where
  | response (path : Path) (response : Response)
  | outcome (path : Path) (correct : Bool)

/-- The record of an entry. -/
def Entry.toRecord : Entry → Record
  | .response path answer => ⟨path, answer⟩
  | .outcome path correct => ⟨path, .graded correct⟩

namespace RecordStore

/-- What may be asked of a store. -/
inductive Call where
  | enter (entry : Entry)
  | finalize

/-- The store with an entry recorded. -/
def enter (s : RecordStore) : Entry → RecordStore
  | .response path answer => OutcomeStore.record s path answer
  | .outcome path correct => OutcomeStore.recordOutcome s path correct

/-- The store after a call. -/
def call (s : RecordStore) : Call → RecordStore
  | .enter entry => s.enter entry
  | .finalize => s.finalize.2

variable {s s' closed : RecordStore}

/-- An entry adds its record to the store and changes nothing else. -/
theorem enter_eq (s : RecordStore) (entry : Entry) :
    s.enter entry =
      { s with memory := s.memory.record entry.toRecord.path entry.toRecord.response } := by
  cases entry <;> rfl

theorem foldl_enter (s : RecordStore) (entries : List Entry) :
    entries.foldl enter s =
      { s with memory :=
        { s.memory with newest := (entries.map Entry.toRecord).reverse ++ s.memory.newest } } := by
  induction entries generalizing s with
  | nil => rfl
  | cons entry rest ih =>
    rw [List.foldl_cons, ih, enter_eq]
    simp [MemoryStore.record]

theorem finalize_of_finalized (h : s.memory.finalized = true) :
    s.finalize = (.error .alreadyFinalized, s) := by
  simp [finalize, MemoryStore.finalize, h]

/-- After a call, a store that has been finalized still is, and its disk is the same. -/
theorem call_of_finalized (h : s.memory.finalized = true) (call : Call) :
    (s.call call).memory.finalized = true ∧ (s.call call).disk = s.disk := by
  cases call with
  | enter entry =>
    rw [RecordStore.call, enter_eq]
    exact ⟨h, rfl⟩
  | finalize =>
    rw [RecordStore.call, finalize_of_finalized h]
    exact ⟨h, rfl⟩

theorem foldl_call_of_finalized (h : s.memory.finalized = true) (calls : List Call) :
    (calls.foldl call s).memory.finalized = true ∧ (calls.foldl call s).disk = s.disk := by
  induction calls generalizing s with
  | nil => exact ⟨h, rfl⟩
  | cons c rest ih =>
    obtain ⟨hfinalized, hdisk⟩ := call_of_finalized h c
    obtain ⟨hrest, hsame⟩ := ih hfinalized
    exact ⟨hrest, hsame.trans hdisk⟩

/-- When a store has been finalized, its file says what has been recorded. -/
theorem read_of_finalize (h : s.finalize = (.ok (), closed)) :
    closed.memory.finalized = true ∧
      SessionRecord.read closed.disk s.name = .ok s.sessionRecord := by
  unfold finalize MemoryStore.finalize at h
  split_ifs at h with hfinalized
  · cases h
  · cases hreplace : replaceFile s.disk s.name s.sessionRecord.text with
    | mk result disk =>
      simp only [hreplace] at h
      cases h
      exact ⟨rfl, SessionRecord.read_eq_ok (read_replaceFile hreplace)⟩

/-- A store leaves the disk alone until it is finalized; then its file says what has been entered
until then, in order, and neither later entries nor later finalizations, which all fail, change the
disk again. -/
theorem finalize_faithful (name : String) (assignment : Assignment) (disk : Disk)
    (entries : List Entry) :
    let s := entries.foldl enter { name, assignment, disk }
    s.disk = disk ∧ ∀ closed, OutcomeStore.finalize s = (.ok (), closed) →
      SessionRecord.read closed.disk name = .ok ⟨assignment, entries.map Entry.toRecord⟩ ∧
      ∀ calls : List Call, (calls.foldl call closed).disk = closed.disk ∧
        OutcomeStore.finalize (calls.foldl call closed) =
          (.error .alreadyFinalized, calls.foldl call closed) := by
  intro s
  have hs := foldl_enter { name, assignment, disk } entries
  refine ⟨congrArg RecordStore.disk hs, fun closed h => ?_⟩
  obtain ⟨hclosed, hread⟩ := read_of_finalize h
  have hrecord : s.sessionRecord = ⟨assignment, entries.map Entry.toRecord⟩ := by
    show sessionRecord (entries.foldl enter _) = _
    rw [hs]
    simp [sessionRecord, MemoryStore.records]
  have hname : s.name = name := congrArg RecordStore.name hs
  rw [hname, hrecord] at hread
  refine ⟨hread, fun calls => ?_⟩
  obtain ⟨hlater, hdisk⟩ := foldl_call_of_finalized hclosed calls
  exact ⟨hdisk, finalize_of_finalized hlater⟩

/-! ## One session -/

/-- A session with texts that have to be escaped. -/
def interview : List Entry :=
  [.response ⟨["intro", "q/1"]⟩ { selection := some "\"yes\" \\", text := some "\u0001 𝄞\n" },
    .outcome ⟨["train", "t1"]⟩ false]

/-- The store of that session, in an empty directory. -/
def interviewStore : RecordStore :=
  interview.foldl enter { name := "session.json", assignment := ⟨1, 2⟩, disk := ⟨.dir [], []⟩ }

theorem interview_read_back :
    OutcomeStore.finalize interviewStore = (.ok (), interviewStore.finalize.2) ∧
      SessionRecord.read interviewStore.finalize.2.disk "session.json" =
        .ok ⟨⟨1, 2⟩, interview.map Entry.toRecord⟩ := by
  have hok : OutcomeStore.finalize interviewStore = (.ok (), interviewStore.finalize.2) := by
    rfl
  have hread := (finalize_faithful "session.json" ⟨1, 2⟩ ⟨.dir [], []⟩ interview).2 _ hok
  exact ⟨hok, hread.1⟩

end RecordStore

end Trials
