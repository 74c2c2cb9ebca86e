import Trials.Proofs.Session.Run
import Trials.Proofs.Experiment.Finalization
import Trials.Proofs.Experiment.Watching

/-!
# A cap on the number of pages only truncates a session

A session with a cap takes the same turns as one without until it has shown as many pages as the cap
allows.  It is then on the way of the session without a cap (`Ends.truncate`), and what it leaves
behind, experiment, store and participant, is all that the rest of this way depends on
(`Ends.from_newest`).  So another session shows just the pages that are missing
(`page_cap_truncates`).
-/

namespace Trials

/-- A store that can tell whether it has been finalized. -/
class FinalizedStore (σ : Type) [OutcomeStore σ] where
  finalized : σ → Bool
  finalized_record : ∀ store path response,
    finalized (OutcomeStore.record store path response) = finalized store
  finalized_finalize : ∀ store, (OutcomeStore.finalize store).1 = .ok () →
    finalized (OutcomeStore.finalize store).2 = true

theorem MemoryStore.finalized_finalize (store : MemoryStore) :
    store.finalize.2.finalized = true := by
  unfold finalize
  split
  next h => exact h
  · rfl

theorem RecordStore.memory_finalize (store : RecordStore) :
    store.finalize.2.memory = store.memory.finalize.2 := by
  unfold finalize
  split
  next h => rw [h]
  next h => rw [h]

instance : FinalizedStore MemoryStore where
  finalized := MemoryStore.finalized
  finalized_record _ _ _ := rfl
  finalized_finalize store _ := store.finalized_finalize

instance : FinalizedStore RecordStore where
  finalized store := store.memory.finalized
  finalized_record _ _ _ := rfl
  finalized_finalize store _ := by
    show store.finalize.2.memory.finalized = true
    rw [store.memory_finalize]
    exact store.memory.finalized_finalize

open Experiment

namespace Session

variable {σ τ : Type} [OutcomeStore σ] [Participant τ] {s s' last : Session σ τ}
  {result : Except StoreError SessionStop}

/-! ## The pages shown before do not count -/

theorem turn_from_newest_of_inl (h : s.turn none = .inl s') :
    ∃ path, s'.newest = path :: s.newest ∧
      ∀ newest, ({ s with newest } : Session σ τ).turn none =
        .inl { s' with newest := path :: newest } := by
  simp only [turn, Option.filter_none] at h ⊢
  generalize s.experiment.advance s.store = called at h ⊢
  obtain ⟨step, e, store⟩ := called
  cases step with
  | error => cases h
  | ok step =>
    cases step with
    | shown page =>
      cases h
      exact ⟨page.path, rfl, fun _ => rfl⟩
    | finished | stalled => cases h

theorem turn_from_newest_of_inr (h : s.turn none = .inr (result, last)) :
    last.newest = s.newest ∧
      ∀ newest, ({ s with newest } : Session σ τ).turn none =
        .inr (result, { last with newest }) := by
  simp only [turn, Option.filter_none] at h ⊢
  generalize s.experiment.advance s.store = called at h ⊢
  obtain ⟨step, e, store⟩ := called
  cases step with
  | error =>
    cases h
    exact ⟨rfl, fun _ => rfl⟩
  | ok step =>
    cases step with
    | shown page => cases h
    | finished | stalled =>
      cases h
      exact ⟨rfl, fun _ => rfl⟩

/-- A session without a cap shows the same pages whatever has been shown before. -/
theorem Ends.from_newest (h : Ends none s (result, last)) :
    ∃ shown, last.newest = shown ++ s.newest ∧
      ∀ newest, Ends none { s with newest } (result, { last with newest := shown ++ newest }) := by
  generalize hr : (result, last) = r at h
  induction h with
  | stop h =>
    subst hr
    obtain ⟨hnewest, hturn⟩ := turn_from_newest_of_inr h
    exact ⟨[], hnewest, fun newest => .stop (hturn newest)⟩
  | next h _ ih =>
    obtain ⟨path, hnewest, hturn⟩ := turn_from_newest_of_inl h
    obtain ⟨shown, hlast, hends⟩ := ih hr
    refine ⟨shown ++ [path], ?_, fun newest => ?_⟩
    · rw [hlast, hnewest, List.append_assoc, List.singleton_append]
    · rw [List.append_assoc, List.singleton_append]
      exact .next (hturn newest) (hends (path :: newest))

/-! ## The way of the session without a cap -/

variable [FinalizedStore σ]

/-- Neither is the experiment finished nor the store finalized. -/
structure Open (s : Session σ τ) : Prop where
  sound : s.experiment.Sound
  finished : s.experiment.finished = false
  finalized : FinalizedStore.finalized s.store = false

theorem Open.of_inl (h : s.Open) (hturn : s.turn none = .inl s') : s'.Open := by
  have hturned := turned h.sound
  rw [hturn] at hturned
  cases hturned with
  | shown hfinished hruns =>
    refine ⟨?_, hruns.finished_eq.trans hfinished, ?_⟩
    · exact Reachable.sound ⟨_, Reaches.start.runs hruns⟩ h.sound
    · exact (FinalizedStore.finalized_record _ _ _).trans h.finalized

/-- How a session ends without a cap: its experiment is finished, and its store has been finalized
or could not be. -/
structure Closed (result : Except StoreError SessionStop) (last : Session σ τ) : Prop where
  finished : last.experiment.finished = true
  result_cases : result = .ok .finished ∧ FinalizedStore.finalized last.store = true ∨
    ∃ before cause, FinalizedStore.finalized before = false ∧
      OutcomeStore.finalize before = (.error cause, last.store) ∧ result = .error cause

omit [Participant τ] in
theorem Closed.finalized (h : Closed result last) (hresult : result = .ok .finished) :
    FinalizedStore.finalized last.store = true := by
  rcases h.result_cases with ⟨-, hfinalized⟩ | ⟨before, cause, -, -, herror⟩
  · exact hfinalized
  · cases hresult.symm.trans herror

theorem Open.of_inr (h : s.Open) (hturn : s.turn none = .inr (result, last)) :
    Closed result last := by
  have hturned := turned h.sound
  rw [hturn] at hturned
  cases hturned with
  | closed hfinished hruns =>
    refine ⟨rfl, ?_⟩
    cases hresult : (OutcomeStore.finalize s.store).1 with
    | ok => exact .inl ⟨rfl, FinalizedStore.finalized_finalize s.store hresult⟩
    | error cause => exact .inr ⟨s.store, cause, h.finalized, Prod.ext hresult rfl, rfl⟩
  | finished hfinished => cases h.finished.symm.trans hfinished

theorem Ends.closed (h : Ends none s (result, last)) (hopen : s.Open) : Closed result last := by
  generalize hr : (result, last) = r at h
  induction h with
  | stop h =>
    subst hr
    exact hopen.of_inr h
  | next h _ ih => exact ih (hopen.of_inl h) hr

/-- With a cap a session ends as without, or on the way to this end when it has shown as many pages
as allowed. -/
theorem Ends.truncate (h : Ends none s (result, last)) (hopen : s.Open) {pages : Nat}
    (hle : s.newest.length ≤ pages) :
    last.newest.length < pages ∧ Ends (some pages) s (result, last) ∨
      ∃ capped, Ends (some pages) s (.ok (.pageLimit pages), capped) ∧
        capped.newest.length = pages ∧ capped.Open ∧ Ends none capped (result, last) := by
  -- by induction on the turns of the session without a cap: each of them is a turn of the one with
  -- a cap as well, unless as many pages as allowed have been shown before it
  generalize hr : (result, last) = r at h
  induction h with
  | @stop s r h =>
    subst hr
    rcases Nat.eq_or_lt_of_le hle with heq | hlt
    · exact .inr ⟨s, .stop (turn_of_le (Nat.le_of_eq heq.symm)), heq, hopen, .stop h⟩
    · refine .inl ⟨?_, .stop ((turn_of_lt hlt).trans h)⟩
      rwa [(turn_from_newest_of_inr h).1]
  | @next s s' r h hrest ih =>
    rcases Nat.eq_or_lt_of_le hle with heq | hlt
    · subst hr
      exact .inr ⟨s, .stop (turn_of_le (Nat.le_of_eq heq.symm)), heq, hopen, .next h hrest⟩
    · have hturn := (turn_of_lt hlt).trans h
      have hle' : s'.newest.length ≤ pages := by
        obtain ⟨path, hnewest, -⟩ := turn_from_newest_of_inl h
        rw [hnewest]
        exact hlt
      rcases ih (hopen.of_inl h) hle' hr with ⟨hlast, hends⟩ | ⟨capped, hends, hcapped⟩
      · exact .inl ⟨hlast, .next hturn hends⟩
      · exact .inr ⟨capped, .next hturn hends, hcapped⟩

/-! ## The main result -/

/-- Another session with the same experiment, store and participant. -/
def another (s : Session σ τ) : Session σ τ := { s with newest := [] }

/-- What has become of a session with a cap, as against one without that has ended as `last` with
`result`. -/
structure Truncated (pages : Nat) (result : Except StoreError SessionStop) (last : Session σ τ)
    (stop : Except StoreError SessionStop) (capped : Session σ τ) : Prop where
  /-- The first pages have been shown. -/
  shown_eq : capped.shown = last.shown.take pages
  /-- The session has come to its end if this end comes before the cap. -/
  stop_eq : stop = if last.shown.length < pages then result else .ok (.pageLimit pages)
  /-- The store has been finalized just if the session has come to its end. -/
  finalized_iff : result = .ok .finished →
    (FinalizedStore.finalized capped.store = true ↔ stop = .ok .finished)
  /-- Another session shows the missing pages and ends as the one without a cap. -/
  resumed : ∃ resumed,
    capped.another.run none =
      (if last.shown.length < pages then .ok .finished else result, resumed) ∧
    resumed.shown = last.shown.drop pages ∧ resumed.experiment = last.experiment ∧
      resumed.store = last.store ∧ resumed.participant = last.participant

theorem truncated_of_lt {pages : Nat} (hlt : last.newest.length < pages)
    (hclosed : Closed result last) : Truncated pages result last result last where
  shown_eq := by
    rw [shown, List.take_of_length_le]
    rw [List.length_reverse]
    exact Nat.le_of_lt hlt
  stop_eq := by
    rw [shown, List.length_reverse, if_pos hlt]
  finalized_iff := fun hresult => ⟨fun _ => hresult, hclosed.finalized⟩
  resumed := by
    have hturn : last.another.turn none = .inr (.ok .finished, last.another) := by
      have hstep : last.experiment.advance last.store =
          (.ok .finished, last.experiment, last.store) :=
        advance_eq_of_finished hclosed.finished
      simp only [turn, Option.filter_none, another, hstep]
    refine ⟨last.another, ?_, ?_, rfl, rfl, rfl⟩
    · rw [shown, List.length_reverse, if_pos hlt]
      exact run_of_inr hturn
    · rw [shown, another, List.reverse_nil, shown, List.drop_eq_nil_of_le]
      rw [List.length_reverse]
      exact Nat.le_of_lt hlt

theorem truncated_of_open {pages : Nat} {capped : Session σ τ}
    (hlength : capped.newest.length = pages) (hopen : capped.Open)
    (h : Ends none capped (result, last)) :
    Truncated pages result last (.ok (.pageLimit pages)) capped := by
  obtain ⟨added, hlast, hends⟩ := h.from_newest
  have hshown : last.shown = capped.shown ++ added.reverse := by
    rw [shown, hlast, List.reverse_append]
    rfl
  have hcapped : capped.shown.length = pages := by
    rw [shown, List.length_reverse, hlength]
  have hge : ¬ last.shown.length < pages := by
    rw [hshown, List.length_append]
    omega
  constructor
  case shown_eq =>
    rw [hshown, ← hcapped, List.take_left]
  case stop_eq => rw [if_neg hge]
  case finalized_iff =>
    intro _
    rw [hopen.finalized]
    exact ⟨nofun, nofun⟩
  case resumed =>
    refine ⟨{ last with newest := added ++ [] }, ?_, ?_, rfl, rfl, rfl⟩
    · rw [if_neg hge]
      exact (hends []).run_eq
    · rw [hshown, ← hcapped, List.drop_left, shown, List.append_nil]

/-- A session with an experiment that has been built and a store that has not been finalized comes
to its end (`Closed`).  Whatever the participant answers, a cap on the number of pages only
truncates it. -/
theorem page_cap_truncates {script : Script} {o : BuildOptions} {w : Words} {start : Experiment}
    (hbuild : build script o w = .ok start) (store : σ)
    (hfresh : FinalizedStore.finalized store = false) (participant : τ) :
    ∃ result last, (⟨start, store, participant, []⟩ : Session σ τ).run none = (result, last) ∧
      Closed result last ∧
      ∀ pages, ∃ stop capped,
        (⟨start, store, participant, []⟩ : Session σ τ).run (some pages) = (stop, capped) ∧
          Truncated pages result last stop capped := by
  have hready := ready_of_build hbuild
  let first : Session σ τ := ⟨start, store, participant, []⟩
  have hopen : first.Open := ⟨hready.sound, hready.finished, hfresh⟩
  obtain ⟨⟨result, last⟩, hends, -⟩ := exists_ends hready none [] first .start
  have hclosed := hends.closed hopen
  refine ⟨result, last, hends.run_eq, hclosed, fun pages => ?_⟩
  rcases hends.truncate hopen (Nat.zero_le pages) with
    ⟨hlt, hcapped⟩ | ⟨capped, hcapped, hlength, h⟩
  · exact ⟨result, last, hcapped.run_eq, truncated_of_lt hlt hclosed⟩
  · exact ⟨_, capped, hcapped.run_eq, truncated_of_open hlength h.1 h.2⟩

omit [Participant τ] in
/-- A store in memory that has not been finalized can be. -/
theorem Closed.eq_finished {last : Session MemoryStore τ} (h : Closed result last) :
    result = .ok .finished := by
  rcases h.result_cases with ⟨hresult, -⟩ | ⟨before, cause, hbefore, hfinalize, -⟩
  · exact hresult
  · have hbefore : before.finalized = false := hbefore
    have hok : before.finalize = (.ok (), { before with finalized := true }) := by
      rw [MemoryStore.finalize, hbefore, if_neg Bool.false_ne_true]
    cases hok.symm.trans hfinalize

/-- A survey may be interrupted and resumed. -/
theorem survey_interrupted :
    ∃ start, build survey {} (Words.ofSeed 0) = .ok start ∧
      ∃ last, (⟨start, {}, ⟨"yes"⟩, []⟩ : Session MemoryStore Chooser).run none =
          (.ok .finished, last) ∧
        ∀ pages, ∃ stop capped,
          (⟨start, {}, ⟨"yes"⟩, []⟩ : Session MemoryStore Chooser).run (some pages) =
              (stop, capped) ∧
            Truncated pages (.ok .finished) last stop capped := by
  obtain ⟨start, hbuild⟩ : ∃ start, build survey {} (Words.ofSeed 0) = .ok start := ⟨_, rfl⟩
  obtain ⟨result, last, hrun, hclosed, hcaps⟩ :=
    page_cap_truncates hbuild ({} : MemoryStore) rfl (⟨"yes"⟩ : Chooser)
  obtain rfl := hclosed.eq_finished
  exact ⟨start, hbuild, last, hrun, hcaps⟩

end Session

end Trials
