import Trials.Proofs.Experiment.Watching
import Trials.Proofs.Store.SessionRecord

/-!
# Bare outcomes

A bare outcome is kept as a record with a grade and neither an option nor a text.  It is one more
entry in the graded history of its page and of the blocks around it.  But options and texts are
looked up in the last record of a page, so it also takes the place of the last answer to its page:
the option and the text of that answer are no longer found (`answers_recordOutcome`), and a rule
that asks for them does not hold any more.
-/

namespace Trials

/-- The store with an entry recorded. -/
def OutcomeStore.enter {σ : Type} [OutcomeStore σ] (store : σ) : Entry → σ
  | .response path answer => record store path answer
  | .outcome path correct => recordOutcome store path correct

/-- The last entry about the page at a path is a response. -/
def AnsweredLast (entries : List Entry) (path : Path) (r : Response) : Prop :=
  ∃ before after, entries = before ++ .response path r :: after ∧
    ∀ e ∈ after, e.toRecord.path ≠ path

variable {σ : Type} [OutcomeStore σ] [RecordKeeper σ] {first : σ}

theorem newest_foldl_enter (store : σ) (entries : List Entry) :
    RecordKeeper.newest (entries.foldl OutcomeStore.enter store) =
      (entries.map Entry.toRecord).reverse ++ RecordKeeper.newest store := by
  induction entries generalizing store with
  | nil => rfl
  | cons e rest ih =>
    have henter : RecordKeeper.newest (OutcomeStore.enter store e) =
        e.toRecord :: RecordKeeper.newest store := by
      cases e <;> exact RecordKeeper.newest_record _ _ _
    rw [List.foldl_cons, ih, henter]
    simp

/-- A part of a response that bare outcomes lack is found just if the last entry about the page is
a response that has it. -/
theorem isSome_latest_iff {part : Response → Option String} (hpart : ∀ b, part (.graded b) = none)
    (entries : List Entry) (path : Path) :
    ((Record.latest (entries.map Entry.toRecord).reverse path).bind part).isSome ↔
      ∃ r, AnsweredLast entries path r ∧ (part r).isSome := by
  constructor
  · intro h
    obtain ⟨text, htext⟩ := Option.isSome_iff_exists.1 h
    obtain ⟨r, hlatest, hr⟩ := Option.bind_eq_some_iff.1 htext
    obtain ⟨before, after, hsplit, hafter⟩ := Record.latest_reverse_eq_some.1 hlatest
    obtain ⟨before, rest, rfl, rfl, hrest⟩ := List.map_eq_append_iff.1 hsplit
    obtain ⟨e, after, rfl, he, rfl⟩ := List.map_eq_cons_iff.1 hrest
    cases e with
    | response path' answer =>
      cases he
      refine ⟨r, ⟨before, after, rfl, fun e he => ?_⟩, by simp [hr]⟩
      exact hafter _ (List.mem_map_of_mem he)
    | outcome path' correct =>
      cases he
      rw [hpart] at hr
      cases hr
  · rintro ⟨r, ⟨before, after, rfl, hafter⟩, hr⟩
    have hlatest : Record.latest ((before ++ .response path r :: after).map Entry.toRecord).reverse
        path = some r := by
      refine Record.latest_reverse_eq_some.2
        ⟨before.map Entry.toRecord, after.map Entry.toRecord, by simp [Entry.toRecord], ?_⟩
      exact List.forall_mem_map.2 hafter
    rw [hlatest]
    exact hr

/-- A bare outcome is found at the end of the graded histories of its page and of all that is around
it, and it changes no other history.  The option found for a page changes just if the outcome is
about this page and its last entry was a response with an option, and likewise the text; neither is
found afterwards. -/
theorem answers_recordOutcome (hfirst : RecordKeeper.newest first = []) (entries : List Entry)
    (p q : Path) (b : Bool) :
    let store := entries.foldl OutcomeStore.enter first
    let before := OutcomeStore.answers store
    let after := OutcomeStore.answers (OutcomeStore.recordOutcome store p b)
    after.history q = before.history q ++ (if p.isWithin q then [b] else []) ∧
      (after.selection q ≠ before.selection q ↔
        q = p ∧ ∃ r, AnsweredLast entries p r ∧ r.selection.isSome) ∧
      (after.text q ≠ before.text q ↔ q = p ∧ ∃ r, AnsweredLast entries p r ∧ r.text.isSome) ∧
      after.selection p = none ∧ after.text p = none := by
  intro store before after
  have hbefore : before = Record.answers (entries.map Entry.toRecord).reverse := by
    show OutcomeStore.answers store = _
    rw [RecordKeeper.answers_eq, newest_foldl_enter, hfirst, List.append_nil]
  have hafter : after =
      Record.answers (⟨p, .graded b⟩ :: (entries.map Entry.toRecord).reverse) := by
    show OutcomeStore.answers (OutcomeStore.record store p (.graded b)) = _
    rw [RecordKeeper.answers_eq, RecordKeeper.newest_record, newest_foldl_enter, hfirst,
      List.append_nil]
  -- options and texts are looked up alike
  have hpart (part : Response → Option String) (hgraded : ∀ b, part (.graded b) = none) :
      (Record.latest (⟨p, .graded b⟩ :: (entries.map Entry.toRecord).reverse) q).bind part ≠
          (Record.latest (entries.map Entry.toRecord).reverse q).bind part ↔
        q = p ∧ ∃ r, AnsweredLast entries p r ∧ (part r).isSome := by
    rw [Record.latest_cons]
    by_cases hq : q = p
    · subst hq
      rw [if_pos rfl, Option.bind_some, hgraded, ← isSome_latest_iff hgraded, ne_comm,
        ← Option.isSome_iff_ne_none]
      simp
    · rw [if_neg (Ne.symm hq)]
      simp [hq]
  rw [hbefore, hafter]
  refine ⟨?_, hpart Response.selection fun _ => rfl, hpart Response.text fun _ => rfl, ?_, ?_⟩
  · exact Record.history_cons _ _ _
  · simp [Record.answers, Record.latest_cons, Response.graded]
  · simp [Record.answers, Record.latest_cons, Response.graded]

/-! ## One page -/

/-- A question has been answered. -/
def answered : List Entry :=
  [.response ⟨["ask", "q"]⟩ { selection := some "yes" }]

/-- When the answer is graded afterwards, the grade is found for the page and the block around it,
but the option is found no more, and a rule that asks for it does not hold any more. -/
theorem answered_then_graded :
    let store := answered.foldl OutcomeStore.enter ({} : MemoryStore)
    let before := OutcomeStore.answers store
    let after := OutcomeStore.answers (OutcomeStore.recordOutcome store ⟨["ask", "q"]⟩ true)
    RecordKeeper.newest ({} : MemoryStore) = [] ∧ after.history ⟨["ask"]⟩ = [true] ∧
      after.selection ⟨["ask", "q"]⟩ = none ∧
      after.selection ⟨["ask", "r"]⟩ = before.selection ⟨["ask", "r"]⟩ ∧
      (RunIf.selected ⟨["ask", "q"]⟩ "yes").holds before 0 = true ∧
      (RunIf.selected ⟨["ask", "q"]⟩ "yes").holds after 0 = false := by
  intro store before after
  have hfirst : RecordKeeper.newest ({} : MemoryStore) = [] := rfl
  obtain ⟨hhistory, -, -, hnone, -⟩ :=
    answers_recordOutcome hfirst answered ⟨["ask", "q"]⟩ ⟨["ask"]⟩ true
  obtain ⟨-, hother, -⟩ := answers_recordOutcome hfirst answered ⟨["ask", "q"]⟩ ⟨["ask", "r"]⟩ true
  have hkept : after.selection ⟨["ask", "r"]⟩ = before.selection ⟨["ask", "r"]⟩ := by
    by_contra hne
    exact absurd (hother.1 hne).1 (by decide)
  have hrule : (RunIf.selected ⟨["ask", "q"]⟩ "yes").holds after 0 = false := by
    have hnone : after.selection ⟨["ask", "q"]⟩ = none := hnone
    rw [RunIf.holds, hnone]
    rfl
  exact ⟨hfirst, hhistory, hnone, hkept, rfl, hrule⟩

/-- A bare outcome does not leave the options that are found as they are. -/
theorem selection_not_kept :
    ¬ ∀ (entries : List Entry) (p q : Path) (b : Bool),
      let store := entries.foldl OutcomeStore.enter ({} : MemoryStore)
      (OutcomeStore.answers (OutcomeStore.recordOutcome store p b)).selection q =
        (OutcomeStore.answers store).selection q := by
  intro h
  have hsame := h answered ⟨["ask", "q"]⟩ ⟨["ask", "q"]⟩ true
  revert hsame
  decide

end Trials
