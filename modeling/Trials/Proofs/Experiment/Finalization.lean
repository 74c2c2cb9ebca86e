import Trials.Proofs.Experiment.Reachable

/-!
# Finalization

`Calls` are calls of `Experiment.advance`, one after the other, between which anything may be done
to the store; the store is watched (`Watched`), so that the results of the finalizations that the
calls ask for are known.  There are only two kinds of such histories (`Ledger`): all calls have
shown pages, or one call after them has finalized the store and told the result, and every later
call says that the experiment is finished.

So the store is finalized at most once.  That an experiment is said to be finished means that the
store has been finalized as long as no call follows one that has failed
(`finalized_iff_of_calls`); a call after a failed one says the same of a store that has not been
finalized (`finished_without_finalization`).
-/

namespace Trials

/-- A store with the results of the finalizations that it has been asked for, oldest first. -/
structure Watched (σ : Type) where
  store : σ
  results : List (Except StoreError Unit) := []

variable {σ : Type} [OutcomeStore σ]

instance : OutcomeStore (Watched σ) where
  record w path response := { w with store := OutcomeStore.record w.store path response }
  answers w := OutcomeStore.answers w.store
  finalize w :=
    let ended := OutcomeStore.finalize w.store
    (ended.1, ⟨ended.2, w.results ++ [ended.1]⟩)

namespace Experiment

/-- What a call comes to that finalizes the store. -/
def closing (result : Except StoreError Unit) : Except StoreError Step :=
  result.map fun _ => .finished

/-- Calls one after the other, with what they have come to, oldest first.  Before each call the
store may be changed in any way. -/
inductive Calls (start : Experiment) (store : σ) :
    List (Except StoreError Step) → Experiment → Watched σ → Prop where
  | start : Calls start store [] start ⟨store, []⟩
  | call {steps : List (Except StoreError Step)} {e e' : Experiment} {w w' : Watched σ}
    {step : Except StoreError Step} (change : σ → σ) (h : Calls start store steps e w)
    (hcall : e.advance ({ w with store := change w.store } : Watched σ) = (step, e', w')) :
    Calls start store (steps ++ [step]) e' w'

/-- What calls have come to, the results of the finalizations among them, and whether the experiment
is finished. -/
inductive Ledger :
    List (Except StoreError Step) → List (Except StoreError Unit) → Bool → Prop where
  | running (pages : List Page) : Ledger (pages.map fun page => .ok (.shown page)) [] false
  | closed (pages : List Page) (result : Except StoreError Unit) (n : Nat) :
    Ledger ((pages.map fun page => .ok (.shown page)) ++
      closing result :: List.replicate n (.ok .finished)) [result] true

variable {start e e' : Experiment} {store : σ} {w w' : Watched σ} {step : Except StoreError Step}
  {steps : List (Except StoreError Step)} {results : List (Except StoreError Unit)}

theorem Runs.finished_eq {answers : Answers} {m : Motion} (h : Runs answers e m e') :
    e'.finished = e.finished := by
  induction h with
  | shown h => cases h; rfl
  | ended h => cases h; rfl
  | between h _ ih => cases h <;> exact ih

/-- A call adds one line to the ledger. -/
theorem Ledger.call (hledger : Ledger steps w.results e.finished) (he : e.Sound)
    (hcall : e.advance w = (step, e', w')) :
    Ledger (steps ++ [step]) w'.results e'.finished := by
  generalize hfinished : e.finished = finished at hledger
  generalize hresults : w.results = results at hledger
  cases hledger with
  | closed pages result n =>
    rw [advance_eq_of_finished hfinished] at hcall
    cases hcall
    rw [hresults, hfinished, List.append_assoc, List.cons_append, ← List.replicate_succ']
    exact .closed pages result (n + 1)
  | running pages =>
    obtain ⟨m, e'', hruns⟩ := he.exists_runs (OutcomeStore.answers w)
    cases m with
    | between => exact absurd rfl hruns.ne_between
    | shown number place page =>
      rw [advance_eq_of_shown hruns hfinished] at hcall
      cases hcall
      rw [hresults, hruns.finished_eq, hfinished]
      simpa using Ledger.running (pages ++ [page])
    | ended =>
      rw [advance_eq_of_ended hruns hfinished] at hcall
      cases hcall
      have hwatched : (OutcomeStore.finalize w).2.results = [(OutcomeStore.finalize w).1] := by
        show w.results ++ [_] = _
        rw [hresults]
        rfl
      rw [hwatched]
      exact .closed pages _ 0

theorem Calls.sound_and_ledger (h : Calls start store steps e w) (hsound : start.Sound)
    (hfinished : start.finished = false) : e.Sound ∧ Ledger steps w.results e.finished := by
  induction h with
  | start =>
    rw [hfinished]
    exact ⟨hsound, .running []⟩
  | @call _ e _ w _ _ change _ hcall ih =>
    obtain ⟨he, hledger⟩ := ih
    have hreach : Reachable e (e.advance ({ w with store := change w.store } : Watched σ)).2.1 :=
      Reachable.advance ⟨[], .start⟩ he _
    rw [hcall] at hreach
    exact ⟨hreach.sound he,
      Ledger.call (w := { w with store := change w.store }) hledger he hcall⟩

/-! ## What a ledger says -/

theorem closing_eq_finished {result : Except StoreError Unit} :
    closing result = .ok .finished ↔ result = .ok () := by
  cases result <;> simp [closing, Except.map]

theorem Ledger.length_results_le {finished : Bool} (h : Ledger steps results finished) :
    results.length ≤ 1 := by
  cases h <;> simp

theorem Ledger.results_ne_nil {finished : Bool} (h : Ledger steps results finished)
    (hmem : .ok .finished ∈ steps) : results ≠ [] := by
  cases h with
  | running pages => simp at hmem
  | closed pages result n => simp

theorem error_notMem_shown (pages : List Page) (cause : StoreError) :
    (.error cause : Except StoreError Step) ∉ pages.map fun page => .ok (.shown page) := by
  simp

/-- An experiment is rightly said to be finished unless a call has followed a failed one. -/
theorem Ledger.finalized_iff {finished : Bool} (h : Ledger steps results finished) :
    (.ok .finished ∈ steps → .ok () ∈ results) ↔ ∀ cause, .error cause ∉ steps.dropLast := by
  cases h with
  | running pages =>
    constructor
    · exact fun _ cause hmem => error_notMem_shown pages cause (List.mem_of_mem_dropLast hmem)
    · intro _ hmem
      simp at hmem
  | closed pages result n =>
    cases n with
    | zero =>
      rw [List.replicate_zero, List.dropLast_concat]
      constructor
      · exact fun _ => error_notMem_shown pages
      · intro _ hmem
        have hclosing : closing result = .ok .finished := by simpa [eq_comm] using hmem
        exact List.mem_singleton.2 (closing_eq_finished.1 hclosing).symm
    | succ n =>
      rw [List.replicate_succ', ← List.cons_append, ← List.append_assoc, List.dropLast_concat]
      cases result with
      | ok =>
        refine ⟨fun _ cause hmem => ?_, fun _ _ => List.mem_singleton_self _⟩
        simp [closing, Except.map] at hmem
      | error cause =>
        constructor
        · intro h
          have hfinished := h (by simp)
          cases List.mem_singleton.1 hfinished
        · exact fun h => absurd (by simp [closing, Except.map]) (h cause)

/-! ## The main result -/

/-- Whatever is done to the store between calls, they finalize it at most once, and the experiment
is said to be finished only after that; that the store has then been finalized holds if no call has
followed a failed one, and only then. -/
theorem finalized_iff_of_calls {s : Script} {o : BuildOptions} {words : Words}
    (hbuild : build s o words = .ok start) (hcalls : Calls start store steps e w) :
    w.results.length ≤ 1 ∧ (.ok .finished ∈ steps → w.results ≠ []) ∧
      ((.ok .finished ∈ steps → .ok () ∈ w.results) ↔ ∀ cause, .error cause ∉ steps.dropLast) := by
  have hready := ready_of_build hbuild
  have hledger := (hcalls.sound_and_ledger hready.sound hready.finished).2
  exact ⟨hledger.length_results_le, hledger.results_ne_nil, hledger.finalized_iff⟩

/-! ## One page -/

/-- A block with one page. -/
def lone : Script where
  blocks := [{ id := "a", pages := some [{ id := "p" }] }]

/-- The page of that block. -/
def lonePage : Page := ⟨"p", ⟨["a", "p"]⟩, none, []⟩

/-- The block in some pass. -/
def loneBlock (pass : Pass Nat) : Block where
  info := { id := "a", path := ⟨["a"]⟩, runIf := .always, policy := {} }
  parent := none
  content := .pages [lonePage] false
  pass := pass

/-- The experiment with one page, its block being in some pass and the run at some position. -/
def loneAt (pass : Pass Nat) (cursor : Nat) (position : Option Nat) : Experiment where
  assignment := {}
  window := defaultWindow
  table := #[loneBlock pass]
  roots := [0]
  cursor := cursor
  position := position
  chance := { words := Words.ofSeed 0 }

theorem build_lone : build lone {} (Words.ofSeed 0) = .ok (loneAt (.start [0]) 0 none) := rfl

/-- One page is shown, the store is finalized, and the experiment is finished. -/
theorem exists_calls_lone (store : σ) : ∃ e,
    Calls (loneAt (.start [0]) 0 none) store
      [.ok (.shown lonePage), closing (OutcomeStore.finalize store).1, .ok .finished] e
      ⟨(OutcomeStore.finalize store).2, [(OutcomeStore.finalize store).1]⟩ := by
  have hdisplay : Moved (OutcomeStore.answers store) (loneAt (.start [0]) 1 (some 0))
      (.shown 0 0 lonePage) (loneAt ⟨1, [0], []⟩ 1 (some 0)) :=
    @Moved.display _ _ 0 0 (loneBlock (.start [0])) _ _ _ _ rfl rfl rfl rfl rfl rfl
  have hshown : (loneAt (.start [0]) 0 none).advance (⟨store, []⟩ : Watched σ) =
      (.ok (.shown lonePage), loneAt ⟨1, [0], []⟩ 1 (some 0), ⟨store, []⟩) :=
    advance_eq_of_shown (.between (.enter rfl rfl) (.shown hdisplay)) rfl
  have hended : (loneAt ⟨1, [0], []⟩ 1 (some 0)).advance (⟨store, []⟩ : Watched σ) =
      (closing (OutcomeStore.finalize store).1,
        { loneAt ⟨1, [0], []⟩ 1 none with finished := true },
        ⟨(OutcomeStore.finalize store).2, [(OutcomeStore.finalize store).1]⟩) :=
    advance_eq_of_ended (.between (.leave rfl rfl rfl rfl) (.ended (.ended rfl rfl))) rfl
  exact ⟨_, .call id (.call id (.call id .start hshown) hended) (advance_eq_of_finished rfl)⟩

/-- With a store that can be finalized, the experiment with one page is finished once the store has
been finalized. -/
theorem lone_finalized :
    build lone {} (Words.ofSeed 0) = .ok (loneAt (.start [0]) 0 none) ∧
      ∃ e w, Calls (loneAt (.start [0]) 0 none) ({} : MemoryStore)
          [.ok (.shown lonePage), .ok .finished, .ok .finished] e w ∧
        w.results.length ≤ 1 ∧ .ok () ∈ w.results := by
  obtain ⟨e, hcalls⟩ := exists_calls_lone ({} : MemoryStore)
  obtain ⟨hlength, -, hiff⟩ := finalized_iff_of_calls build_lone hcalls
  have hcauses : ∀ cause : StoreError, (.error cause : Except StoreError Step) ∉
      [.ok (.shown lonePage), .ok .finished] := by simp
  exact ⟨build_lone, e, _, hcalls, hlength, hiff.2 hcauses (by simp)⟩

/-- With a store that has been finalized before, the experiment with one page is said to be finished
although its only finalization has failed. -/
theorem finished_without_finalization :
    build lone {} (Words.ofSeed 0) = .ok (loneAt (.start [0]) 0 none) ∧
      ∃ e w, Calls (loneAt (.start [0]) 0 none) ({ finalized := true } : MemoryStore)
          [.ok (.shown lonePage), .error .alreadyFinalized, .ok .finished] e w ∧
        w.results = [.error .alreadyFinalized] := by
  obtain ⟨e, hcalls⟩ := exists_calls_lone ({ finalized := true } : MemoryStore)
  exact ⟨build_lone, e, _, hcalls, rfl⟩

end Experiment

end Trials
