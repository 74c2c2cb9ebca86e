import Trials.RunIf
import Trials.Files.Disk

/-!
# Outcome stores

An `OutcomeStore` keeps the responses that have been recorded and answers what rules and criteria
ask of them (`Answers`).  At the end of an experiment it is finalized, which may fail
(`StoreError`).  A `MemoryStore` keeps its records in the order in which they arrive and can be
finalized once.
-/

namespace Trials

/-- Why a store cannot be finalized. -/
inductive StoreError where
  /-- It has been finalized before. -/
  | alreadyFinalized
  /-- An operation on the file of the given name fails. -/
  | file (operation name : String) (cause : FileError)
deriving DecidableEq

/-- The texts of the error and of what caused it, outermost first. -/
def StoreError.chain : StoreError → List String
  | alreadyFinalized => ["outcome store already finalized"]
  | file operation name cause => [operation ++ " " ++ name, cause.message]

/-- A store of responses. -/
class OutcomeStore (σ : Type) where
  /-- The store with a response recorded for the page at a path. -/
  record : σ → Path → Response → σ
  answers : σ → Answers
  /-- The result of finalizing the store, and the store afterwards. -/
  finalize : σ → Except StoreError Unit × σ

/-- The store with a bare outcome recorded at a path. -/
def OutcomeStore.recordOutcome {σ : Type} [OutcomeStore σ] (store : σ) (path : Path)
    (correct : Bool) : σ :=
  record store path (.graded correct)

/-! ## Questions about records -/

/-- The graded outcomes at a path or beneath it, oldest first, the records being given newest
first. -/
def Record.history (newest : List Record) (path : Path) : List Bool :=
  (newest.filterMap fun r => if r.path.isWithin path then r.response.correct else none).reverse

/-- The last response to the page at a path, the records being given newest first. -/
def Record.latest (newest : List Record) (path : Path) : Option Response :=
  (newest.find? fun r => r.path == path).map (·.response)

/-- What a list of records, newest first, answers. -/
def Record.answers (newest : List Record) : Answers where
  history := Record.history newest
  selection path := (Record.latest newest path).bind (·.selection)
  text path := (Record.latest newest path).bind (·.text)

theorem Record.history_cons (r : Record) (newest : List Record) (path : Path) :
    Record.history (r :: newest) path =
      Record.history newest path
        ++ if r.path.isWithin path then r.response.correct.toList else [] := by
  by_cases h : r.path.isWithin path <;> cases hc : r.response.correct <;> simp [history, h, hc]

theorem Record.latest_cons (r : Record) (newest : List Record) (path : Path) :
    Record.latest (r :: newest) path =
      if r.path = path then some r.response else Record.latest newest path := by
  by_cases h : r.path = path <;> simp [Record.latest, h]

/-! ## The store in memory -/

/-- A store that keeps its records in memory. -/
structure MemoryStore where
  /-- The records, newest first. -/
  newest : List Record := []
  /-- Whether the store has been finalized. -/
  finalized : Bool := false
deriving DecidableEq, Inhabited

namespace MemoryStore

/-- The records, oldest first. -/
def records (s : MemoryStore) : List Record := s.newest.reverse

/-- The store with one more record. -/
def record (s : MemoryStore) (path : Path) (response : Response) : MemoryStore :=
  { s with newest := ⟨path, response⟩ :: s.newest }

/-- The result of finalizing the store, and the store afterwards. -/
def finalize (s : MemoryStore) : Except StoreError Unit × MemoryStore :=
  if s.finalized then (.error .alreadyFinalized, s) else (.ok (), { s with finalized := true })

instance : OutcomeStore MemoryStore where
  record := record
  answers s := Record.answers s.newest
  finalize := finalize

@[simp] theorem records_record (s : MemoryStore) (path : Path) (response : Response) :
    (s.record path response).records = s.records ++ [⟨path, response⟩] := by
  simp [records, record]

@[simp] theorem records_finalize (s : MemoryStore) : s.finalize.2.records = s.records := by
  unfold finalize
  split <;> rfl

end MemoryStore

end Trials
