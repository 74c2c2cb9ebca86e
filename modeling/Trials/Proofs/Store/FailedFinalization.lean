import Trials.Proofs.Store.SessionRecord

/-!
# Failed finalization

When the file of a record store cannot be written, the store fails to be finalized and keeps all its
records (`RecordStore.finalize_eq`).  It is marked as finalized nevertheless, before the file is
touched (`RecordStore.finalized_of_finalize`), so that it refuses to be finalized from then on,
whatever becomes of the disk (`RecordStore.refused_of_finalized`).  Only that mark stands in the
way: without it the store would write its file as soon as that can be written
(`RecordStore.finalize_reopened`).
-/

namespace Trials

/-- The steps of replacing a file. -/
def replacementSteps : List String := ["create directory", "write", "replace"]

/-- A replacement that fails names the step and the file at which it does. -/
theorem replaceFile_error {disk disk' : Disk} {name text : String} {error : StoreError}
    (h : replaceFile disk name text = (.error error, disk')) :
    ∃ step ∈ replacementSteps, ∃ file cause, error = .file step file cause := by
  unfold replaceFile at h
  dsimp only at h
  split at h
  next cause _ _ =>
    cases h
    exact ⟨"create directory", by decide, _, cause, rfl⟩
  next made _ =>
    cases hwrite : made.write (FileName.withExtension name "json.tmp") text with
    | error cause =>
      rw [hwrite] at h
      cases h
      exact ⟨"write", by decide, _, cause, rfl⟩
    | ok written =>
      rw [hwrite] at h
      dsimp only [onFile, Except.mapError] at h
      cases hrename : written.rename (FileName.withExtension name "json.tmp") name with
      | error cause =>
        rw [hrename] at h
        cases h
        exact ⟨"replace", by decide, _, cause, rfl⟩
      | ok moved =>
        rw [hrename] at h
        cases h

namespace RecordStore

variable {s failed : RecordStore} {error : StoreError} {repaired written : Disk}

/-- The store with the given disk, the mark of finalization taken from it. -/
def reopened (s : RecordStore) (disk : Disk) : RecordStore :=
  { s with memory := { s.memory with finalized := false }, disk }

theorem finalize_eq (h : s.memory.finalized = false) :
    s.finalize = ((replaceFile s.disk s.name s.sessionRecord.text).1,
      { s with
        memory := { s.memory with finalized := true }
        disk := (replaceFile s.disk s.name s.sessionRecord.text).2 }) := by
  simp [finalize, MemoryStore.finalize, h]

/-- A store that has been asked for finalization is marked, whatever has come of it. -/
theorem finalized_of_finalize {result : Except StoreError Unit}
    (h : s.finalize = (result, failed)) : failed.memory.finalized = true := by
  cases hmark : s.memory.finalized with
  | false =>
    rw [finalize_eq hmark] at h
    rw [← (Prod.mk.inj h).2]
  | true =>
    rw [finalize_of_finalized hmark] at h
    rwa [← (Prod.mk.inj h).2]

/-- A marked store refuses finalization, on whatever disk and after whatever calls, and writes
nothing. -/
theorem refused_of_finalized (h : s.memory.finalized = true) (repaired : Disk)
    (calls : List Call) :
    (calls.foldl call { s with disk := repaired }).disk = repaired ∧
      (calls.foldl call { s with disk := repaired }).finalize =
        (.error .alreadyFinalized, calls.foldl call { s with disk := repaired }) := by
  obtain ⟨hfinalized, hdisk⟩ := foldl_call_of_finalized (s := { s with disk := repaired }) h calls
  exact ⟨hdisk, finalize_of_finalized hfinalized⟩

/-- Without its mark the store writes its file as soon as that can be written. -/
theorem finalize_reopened
    (hreplace : replaceFile repaired s.name s.sessionRecord.text = (.ok (), written)) :
    ∃ closed, (s.reopened repaired).finalize = (.ok (), closed) ∧
      SessionRecord.read closed.disk s.name = .ok s.sessionRecord := by
  have hfinalize := finalize_eq (s := s.reopened repaired) rfl
  have hsame : replaceFile (s.reopened repaired).disk (s.reopened repaired).name
      (s.reopened repaired).sessionRecord.text = (.ok (), written) := hreplace
  rw [hsame] at hfinalize
  exact ⟨_, hfinalize, (read_of_finalize hfinalize).2⟩

/-- A store whose file cannot be written keeps what has been entered and goes on answering from it,
but it is left marked: it refuses every later finalization, although without the mark it would
write all its records as soon as the file can be written. -/
theorem finalize_failed (name : String) (assignment : Assignment) (disk : Disk)
    (entries : List Entry) (error : StoreError) (failed : RecordStore)
    (h : OutcomeStore.finalize (entries.foldl enter { name, assignment, disk }) =
      (.error error, failed)) :
    (∃ step ∈ replacementSteps, ∃ file cause, error = .file step file cause) ∧
      failed.name = name ∧ failed.sessionRecord = ⟨assignment, entries.map Entry.toRecord⟩ ∧
      OutcomeStore.answers failed =
        OutcomeStore.answers (entries.foldl enter { name, assignment, disk }) ∧
      (∀ (repaired : Disk) (calls : List Call),
        (calls.foldl call { failed with disk := repaired }).disk = repaired ∧
        OutcomeStore.finalize (calls.foldl call { failed with disk := repaired }) =
          (.error .alreadyFinalized, calls.foldl call { failed with disk := repaired })) ∧
      ∀ repaired written,
        replaceFile repaired name failed.sessionRecord.text = (.ok (), written) →
        ∃ closed, OutcomeStore.finalize (failed.reopened repaired) = (.ok (), closed) ∧
          SessionRecord.read closed.disk name = .ok ⟨assignment, entries.map Entry.toRecord⟩ := by
  have hs := foldl_enter { name, assignment, disk } entries
  have hopen : (entries.foldl enter { name, assignment, disk }).memory.finalized = false :=
    congrArg (·.memory.finalized) hs
  have hlater := refused_of_finalized (finalized_of_finalize h)
  have hfailed := h.symm.trans (finalize_eq hopen)
  obtain ⟨hresult, hstore⟩ := Prod.mk.inj hfailed
  have hname : failed.name = name := by
    rw [hstore, hs]
  have hrecord : failed.sessionRecord = ⟨assignment, entries.map Entry.toRecord⟩ := by
    rw [hstore, hs]
    simp [sessionRecord, MemoryStore.records]
  refine ⟨replaceFile_error (Prod.ext hresult.symm rfl), hname, hrecord, ?_, hlater, ?_⟩
  · rw [hstore]
    rfl
  · intro repaired written hreplace
    have hreopened := finalize_reopened (s := failed) (by rw [hname]; exact hreplace)
    rw [hname, hrecord] at hreopened
    exact hreopened

/-! ## A directory in the way -/

/-- A directory that has the name of the temporary file. -/
def obstructed : Disk := ⟨.dir [("session.json.tmp", .dir [])], []⟩

/-- The interview, to be written where the directory is in the way. -/
def obstructedStore : RecordStore :=
  interview.foldl enter { name := "session.json", assignment := ⟨1, 2⟩, disk := obstructed }

theorem obstructed_keeps_records :
    OutcomeStore.finalize obstructedStore =
        (.error (.file "write" "session.json.tmp" .isDirectory), obstructedStore.finalize.2) ∧
      obstructedStore.finalize.2.sessionRecord = ⟨⟨1, 2⟩, interview.map Entry.toRecord⟩ ∧
      (OutcomeStore.finalize { obstructedStore.finalize.2 with disk := ⟨.dir [], []⟩ }).1 =
        .error .alreadyFinalized ∧
      ∃ closed,
        OutcomeStore.finalize (obstructedStore.finalize.2.reopened ⟨.dir [], []⟩) =
          (.ok (), closed) ∧
        SessionRecord.read closed.disk "session.json" =
          .ok ⟨⟨1, 2⟩, interview.map Entry.toRecord⟩ := by
  have herror : OutcomeStore.finalize obstructedStore =
      (.error (.file "write" "session.json.tmp" .isDirectory), obstructedStore.finalize.2) := by
    rfl
  obtain ⟨-, -, hrecord, -, hrefused, hopened⟩ :=
    finalize_failed "session.json" ⟨1, 2⟩ obstructed interview _ _ herror
  refine ⟨herror, hrecord, congrArg Prod.fst (hrefused ⟨.dir [], []⟩ []).2, ?_⟩
  exact hopened ⟨.dir [], []⟩ _ rfl

/-- The way being clear again does not help a store whose file could not be written. -/
theorem not_finalize_once_writable :
    ¬ ∀ (name : String) (assignment : Assignment) (disk : Disk) (entries : List Entry)
        (error : StoreError) (failed : RecordStore) (repaired written : Disk),
      OutcomeStore.finalize (entries.foldl enter { name, assignment, disk }) =
        (.error error, failed) →
      replaceFile repaired name failed.sessionRecord.text = (.ok (), written) →
      ∃ closed, OutcomeStore.finalize { failed with disk := repaired } = (.ok (), closed) := by
  intro h
  obtain ⟨closed, hok⟩ := h "session.json" ⟨1, 2⟩ obstructed interview _ _ ⟨.dir [], []⟩ _ rfl rfl
  cases hok

end RecordStore

end Trials
