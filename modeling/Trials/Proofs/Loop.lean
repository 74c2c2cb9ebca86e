import Trials.Experiment.Table

/-!
# Loops

A loop repeats its body until the body has a result.  `Course.Ends` says that a loop comes to its
end without a fault, after as many iterations as its derivation has steps; `repeatM` then finds the
result (`Ends.repeatM_eq`), and there is no other (`Ends.unique`).
-/

namespace Trials

namespace Course

variable {α β : Type} {body : α → Course (α ⊕ β)} {a a' : α} {b b' : β}

/-- A loop that is begun with one value ends with another. -/
inductive Ends (body : α → Course (α ⊕ β)) : α → β → Prop where
  | stop {a : α} {b : β} (h : body a = pure (.inr b)) : Ends body a b
  | next {a a' : α} {b : β} (h : body a = pure (.inl a')) (hrest : Ends body a' b) : Ends body a b

theorem repeatM_of_inr [Nonempty β] (h : body a = pure (.inr b)) : repeatM body a = pure b := by
  rw [repeatM_eq_of_monadTail, repeatM.body, h]
  rfl

theorem repeatM_of_inl [Nonempty β] (h : body a = pure (.inl a')) :
    repeatM body a = repeatM body a' := by
  rw [repeatM_eq_of_monadTail, repeatM.body, h]
  rfl

theorem Ends.repeatM_eq [Nonempty β] (h : Ends body a b) : repeatM body a = pure b := by
  induction h with
  | stop h => exact repeatM_of_inr h
  | next h _ ih => exact (repeatM_of_inl h).trans ih

theorem Ends.unique (h : Ends body a b) (h' : Ends body a b') : b = b' := by
  induction h with
  | stop h =>
    cases h' with
    | stop h' => cases h.symm.trans h'; rfl
    | next h' => cases h.symm.trans h'
  | next h _ ih =>
    cases h' with
    | stop h' => cases h.symm.trans h'
    | next h' hrest =>
      cases h.symm.trans h'
      exact ih hrest

end Course

end Trials
