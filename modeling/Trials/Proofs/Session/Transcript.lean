import Trials.Proofs.Session.PageCap

/-!
# What a session leaves in its store

A session shows pages one after another, has each of them answered, and records the answer before it
moves on.  The answer comes from the participant and the path under which it is recorded from the
page, so a record is right only if the two belong together throughout.  `Transcript` says so of a
session and its beginning; each turn keeps it (`Transcript.turn`), the last one too
(`Transcript.close`), so it holds of the whole session (`run_keeps_transcript`).
-/

namespace Trials

open Experiment

/-! ## Records that outlast a session -/

/-- A record keeper whose records outlast its finalization. -/
class LastingKeeper (σ : Type) [OutcomeStore σ] extends RecordKeeper σ where
  newest_finalize : ∀ store, newest (OutcomeStore.finalize store).2 = newest store

theorem MemoryStore.newest_finalize (store : MemoryStore) :
    store.finalize.2.newest = store.newest := by
  unfold finalize
  split <;> rfl

instance : LastingKeeper MemoryStore where
  newest_finalize := MemoryStore.newest_finalize

instance : LastingKeeper RecordStore where
  newest_finalize store := by
    show store.finalize.2.memory.newest = store.memory.newest
    rw [store.memory_finalize, store.memory.newest_finalize]

/-- The records of a store, oldest first. -/
def RecordKeeper.records {σ : Type} [OutcomeStore σ] [RecordKeeper σ] (store : σ) : List Record :=
  (newest store).reverse

/-- What a participant answers to some pages, shown one after the other, and the participant
afterwards. -/
def Participant.interview {τ : Type} [Participant τ] :
    List Page → τ → List (Page × Response) × τ
  | [], participant => ([], participant)
  | page :: rest, participant =>
    let answered := respond participant page
    let others := interview rest answered.2
    ((page, answered.1) :: others.1, others.2)

theorem Participant.interview_append {τ : Type} [Participant τ] (pages others : List Page)
    (participant : τ) :
    interview (pages ++ others) participant =
      ((interview pages participant).1 ++ (interview others (interview pages participant).2).1,
        (interview others (interview pages participant).2).2) := by
  induction pages generalizing participant with
  | nil => rfl
  | cons page rest ih =>
    rw [List.cons_append, interview, ih]
    rfl

namespace Session

variable {σ τ : Type} [OutcomeStore σ] [LastingKeeper σ] [Participant τ] {cap : Option Nat}
  {first s s' last : Session σ τ} {visits : List (Page × Response)} {page : Page}
  {result : Except StoreError SessionStop}

/-- A session has shown some pages since its beginning and has recorded the answers to them. -/
structure Transcript (first last : Session σ τ) (visits : List (Page × Response)) : Prop where
  shown_eq : last.shown = first.shown ++ visits.map (·.1.path)
  /-- These are the participant's answers to these pages, one after the other, and the participant
  has answered nothing else. -/
  interview_eq :
    Participant.interview (visits.map (·.1)) first.participant = (visits, last.participant)
  records_eq : RecordKeeper.records last.store =
    RecordKeeper.records first.store ++ visits.map recordOf

omit [Participant τ] in
/-- A call leaves the records as they are. -/
theorem newest_advance (e : Experiment) (store : σ) :
    RecordKeeper.newest (e.advance store).2.2 = RecordKeeper.newest store := by
  unfold Experiment.advance
  split
  · rfl
  · split
    · rfl
    · exact LastingKeeper.newest_finalize store
    · rfl

/-- The session when the experiment has moved on. -/
def afterCall (s : Session σ τ) : Session σ τ :=
  { s with
    experiment := (s.experiment.advance s.store).2.1
    store := (s.experiment.advance s.store).2.2 }

omit [LastingKeeper σ] in
/-- A turn that is not the last one has a page answered that the experiment shows. -/
theorem exists_shown_of_turn (h : s.turn cap = .inl s') :
    ∃ page, (s.experiment.advance s.store).1 = .ok (.shown page) ∧ s' = s.afterCall.answer page := by
  unfold turn at h
  split at h
  · cases h
  · dsimp only at h
    split at h
    · cases h
    next page hshown =>
      cases h
      exact ⟨page, hshown, rfl⟩
    · cases h
    · cases h

omit [LastingKeeper σ] in
/-- In the last turn the session shows no page. -/
theorem eq_or_afterCall_of_turn (h : s.turn cap = .inr (result, last)) :
    last = s ∨ last = s.afterCall := by
  unfold turn at h
  split at h
  · cases h
    exact .inl rfl
  · right
    dsimp only at h
    split at h <;> cases h <;> rfl

/-! ## Turn by turn -/

theorem Transcript.start (first : Session σ τ) : Transcript first first [] where
  shown_eq := (List.append_nil _).symm
  interview_eq := rfl
  records_eq := (List.append_nil _).symm

theorem Transcript.afterCall (h : Transcript first s visits) :
    Transcript first s.afterCall visits where
  shown_eq := h.shown_eq
  interview_eq := h.interview_eq
  records_eq := by
    rw [← h.records_eq]
    exact congrArg List.reverse (newest_advance s.experiment s.store)

theorem Transcript.answer (h : Transcript first s visits) (page : Page) :
    Transcript first (s.answer page)
      (visits ++ [(page, (Participant.respond s.participant page).1)]) where
  shown_eq := by
    have hshown : (s.answer page).shown = s.shown ++ [page.path] := by
      simp [shown, Session.answer]
    rw [hshown, h.shown_eq, List.append_assoc, List.map_append]
    rfl
  interview_eq := by
    rw [List.map_append, Participant.interview_append, h.interview_eq]
    rfl
  records_eq := by
    have hrecords : RecordKeeper.records (s.answer page).store =
        RecordKeeper.records s.store ++
          [recordOf (page, (Participant.respond s.participant page).1)] := by
      show (RecordKeeper.newest (OutcomeStore.record s.store page.path _)).reverse = _
      rw [RecordKeeper.newest_record, List.reverse_cons]
      rfl
    rw [hrecords, h.records_eq, List.append_assoc, List.map_append]
    rfl

theorem Transcript.turn (h : Transcript first s visits)
    (hshown : (s.experiment.advance s.store).1 = .ok (.shown page)) (hturn : s.turn cap = .inl s') :
    Transcript first s' (visits ++ [(page, (Participant.respond s.participant page).1)]) := by
  obtain ⟨page', hshown', rfl⟩ := exists_shown_of_turn hturn
  cases hshown.symm.trans hshown'
  exact h.afterCall.answer page

theorem Transcript.close (h : Transcript first s visits)
    (hturn : s.turn cap = .inr (result, last)) : Transcript first last visits := by
  rcases eq_or_afterCall_of_turn hturn with rfl | rfl
  · exact h
  · exact h.afterCall

theorem Leads.transcript (h : Leads cap first visits s) : Transcript first s visits := by
  induction h with
  | start => exact .start first
  | turn _ hshown hturn ih => exact ih.turn hshown hturn

omit [LastingKeeper σ] in
/-- The turns of a session before its last one. -/
theorem Ends.exists_leads (h : Ends cap s (result, last)) (hleads : Leads cap first visits s) :
    ∃ visits current, Leads cap first visits current ∧
      current.turn cap = .inr (result, last) := by
  generalize hr : (result, last) = r at h
  induction h generalizing visits with
  | @stop s r h =>
    subst hr
    exact ⟨visits, s, hleads, h⟩
  | @next s s' r h _ ih =>
    obtain ⟨page, hshown, -⟩ := exists_shown_of_turn h
    exact ih (hleads.turn hshown h) hr

/-! ## The whole session -/

variable {script : Script} {o : BuildOptions} {w : Words} {start : Experiment}

omit [LastingKeeper σ] in
/-- The pages shown in a session stand in blocks of its experiment. -/
theorem Leads.exists_block (h : Leads cap first visits s) (hstart : start.Sound)
    (hfirst : first.experiment = start) : Reachable start s.experiment ∧
      ∀ v ∈ visits, ∃ (i : Nat) (b : Block), start.table[i]? = some b ∧ v.1 ∈ b.content.shown := by
  induction h with
  | start => exact ⟨hfirst ▸ ⟨[], .start⟩, nofun⟩
  | @turn visits s s' page _ hshown hturn ih =>
    obtain ⟨hreach, hvisits⟩ := ih
    obtain ⟨-, -, rfl⟩ := exists_shown_of_turn hturn
    refine ⟨hreach.advance hstart s.store, ?_⟩
    refine List.forall_mem_append.2 ⟨hvisits, List.forall_mem_singleton.2 ?_⟩
    exact exists_block_of_shown hstart hreach hshown

/-- However a session ends, it has shown pages of its experiment and has added one record for each
page to those that had been made before: the path of the page, and what the participant has answered
to this very page.  It has had no other answers. -/
theorem run_keeps_transcript (hbuild : build script o w = .ok start) (store : σ) (participant : τ)
    (cap : Option Nat) :
    ∃ result last visits current,
      (⟨start, store, participant, []⟩ : Session σ τ).run cap = (result, last) ∧
      Leads cap ⟨start, store, participant, []⟩ visits current ∧
      current.turn cap = .inr (result, last) ∧
      Transcript ⟨start, store, participant, []⟩ last visits ∧
      ∀ v ∈ visits, ∃ (i : Nat) (b : Block), start.table[i]? = some b ∧ v.1 ∈ b.content.shown := by
  have hready := ready_of_build hbuild
  let first : Session σ τ := ⟨start, store, participant, []⟩
  obtain ⟨⟨result, last⟩, hends, -⟩ := exists_ends hready cap [] first .start
  obtain ⟨visits, current, hleads, hturn⟩ := hends.exists_leads .start
  refine ⟨result, last, visits, current, hends.run_eq, hleads, hturn, ?_, ?_⟩
  · exact hleads.transcript.close hturn
  · exact (hleads.exists_block hready.sound rfl).2

theorem interview_chooser (pages : List Page) (c : Chooser) :
    Participant.interview pages c =
      (pages.map fun page => (page, { selection := some c.option }), c) := by
  induction pages with
  | nil => rfl
  | cons page rest ih =>
    rw [Participant.interview]
    show ((page, _) :: (Participant.interview rest c).1, (Participant.interview rest c).2) = _
    rw [ih]
    rfl

/-- A store in which something has been recorded before the survey. -/
def usedStore : MemoryStore := { newest := [⟨⟨["before"]⟩, {}⟩] }

/-- The survey shows its question, and what may run when it has been answered with `yes`, and adds the
answers to what has been recorded before. -/
theorem survey_transcribed :
    ∃ start, build survey {} (Words.ofSeed 0) = .ok start ∧
      ∃ last,
        (⟨start, usedStore, ⟨"yes"⟩, []⟩ : Session MemoryStore Chooser).run none =
            (.ok .finished, last) ∧
          last.shown = [⟨["ask", "q"]⟩, ⟨["more", "r"]⟩] ∧
          RecordKeeper.records last.store =
            [⟨⟨["before"]⟩, {}⟩, ⟨⟨["ask", "q"]⟩, { selection := some "yes" }⟩,
              ⟨⟨["more", "r"]⟩, { selection := some "yes" }⟩] := by
  let answered (store : MemoryStore) (page : Page) : MemoryStore :=
    OutcomeStore.record store page.path { selection := some "yes" }
  obtain ⟨start, e, e', e'', q, r, hbuild, hq, hr, hended, hfinished, hfinished', hqpath, hrpath⟩ :
      ∃ start e e' e'' q r, build survey {} (Words.ofSeed 0) = .ok start ∧
        Course.Ends (onward (OutcomeStore.answers usedStore)) start (.shown 0 0 q, e) ∧
        Course.Ends (onward (OutcomeStore.answers (answered usedStore q))) e (.shown 1 0 r, e') ∧
        Course.Ends (onward (OutcomeStore.answers (answered (answered usedStore q) r))) e'
          (.ended, e'') ∧
        e.finished = false ∧ e'.finished = false ∧
        q.path = ⟨["ask", "q"]⟩ ∧ r.path = ⟨["more", "r"]⟩ :=
    ⟨_, _, _, _, _, _, rfl, .next rfl (.stop rfl), .next rfl (.next rfl (.stop rfl)),
      .next rfl (.stop rfl), rfl, rfl, rfl, rfl⟩
  have hends : Ends none (⟨start, usedStore, ⟨"yes"⟩, []⟩ : Session MemoryStore Chooser) _ :=
    .next (turn_eq_of_ends_shown (ready_of_build hbuild).finished hq)
      (.next (turn_eq_of_ends_shown hfinished hr)
        (.stop (turn_eq_of_ends_ended hfinished' hended rfl)))
  obtain ⟨result, last, visits, current, hrun, -, -, hkept, -⟩ :=
    run_keeps_transcript hbuild usedStore (⟨"yes"⟩ : Chooser) none
  cases hrun.symm.trans hends.run_eq
  have hshown : [q.path, r.path] = visits.map (·.1.path) := hkept.shown_eq
  have hvisits := hkept.interview_eq
  rw [interview_chooser, Prod.mk.injEq] at hvisits
  have hrecords : visits.map recordOf =
      (visits.map (·.1.path)).map fun path => ⟨path, { selection := some "yes" }⟩ := by
    rw [← hvisits.1]
    simp [recordOf, Function.comp_def]
  refine ⟨start, hbuild, _, hrun, ?_, ?_⟩
  · rw [hkept.shown_eq, ← hshown, hqpath, hrpath]
    rfl
  · rw [hkept.records_eq, hrecords, ← hshown, hqpath, hrpath]
    rfl

end Session

end Trials
