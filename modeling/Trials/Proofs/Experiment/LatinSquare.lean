import Trials.Proofs.Experiment.Construction

/-!
# Latin squares of pages that are kept apart

The rules ask that the groups of a block whose pages are kept apart have each condition equally
often, taken together.  What is ordered is only the page of each group that the Latin square takes,
and these may all have one condition (`crossed`): then no order keeps them apart.  But where no
condition is too frequent among these pages themselves (`Separable`) they can always be kept apart
(`latinSquare_keeps_apart`), so above all where they pass the same check (`separable_of_isUneven`).
-/

namespace Trials

namespace Experiment

open Violation

variable {s : Script} {o : BuildOptions} {path : Path}

theorem selectLatinSquare_of_choosePages {groups : List (List PageDecl)} {chosen : List PageDecl}
    {w w' : Words} (h : choosePages o path true groups w = .ok (chosen, w')) :
    selectLatinSquare groups o.assignment.version = .ok chosen := by
  have h := eq_ok_of_mapError_eq_ok h
  cases hselect : selectLatinSquare groups o.assignment.version with
  | error cause =>
    rw [hselect] at h
    cases h
  | ok selected =>
    rw [hselect] at h
    cases h
    rfl

/-- The pages that a Latin square takes are what the block passes over. -/
theorem Chosen.selectLatinSquare {d : BlockDecl} {chosen : List PageDecl} (h : Chosen o d chosen)
    {groups : List (List PageDecl)} (hpages : d.pages = none) (hgroups : d.groups = some groups)
    (hlatin : d.latinSquare = true) :
    Trials.selectLatinSquare groups o.assignment.version = .ok chosen := by
  cases h with
  | pages h => cases hpages.symm.trans h
  | groups hsome h =>
    cases hsome.symm.trans hgroups
    rw [hlatin] at h
    exact selectLatinSquare_of_choosePages h

/-- Items that pass the check which the rules make of all pages of the groups can be kept apart, if
they have more than one condition. -/
theorem separable_of_isUneven {conditions : List (Option Condition)}
    (heven : isUneven (occurrences conditions) = false)
    (hdistinct : ∃ a ∈ conditions, ∃ b ∈ conditions, a ≠ b) : Separable conditions :=
  separable_of_even (isUneven_occurrences_eq_false.1 heven) hdistinct

/-- Where no condition is too frequent among the pages that a Latin square takes, an order is drawn
in which they are kept apart, whatever the random words; so building does not fail on account of
this block. -/
theorem latinSquare_keeps_apart (hrules : s.violations = []) (hwindow : o.window = defaultWindow)
    {d : BlockDecl} {groups : List (List PageDecl)} (hd : s.Declares path d)
    (hgroups : d.groups = some groups) (hlatin : d.latinSquare = true)
    (hpseudorandom : d.pseudorandom = true) :
    ∃ chosen, selectLatinSquare groups o.assignment.version = .ok chosen ∧
      (Separable (chosen.map (·.condition)) → ∀ w : Words,
        (∃ order, (Page.order (chosen.map (Page.ofDecl path)) true o.window w).1 = .ok order) ∧
        ∀ e, build s o w = .error e → ∃ path' d', path' ≠ path ∧ s.Declares path' d' ∧
          d'.pseudorandom = true ∧ e = .order path' .exhausted) := by
  obtain ⟨hsiblings, hblocks⟩ := List.append_eq_nil_iff.1 hrules
  have hnodup : (s.blocks.map (·.id)).Nodup :=
    (nodup_of_idsFaults (List.append_eq_nil_iff.1 (List.map_eq_nil_iff.1 hsiblings)).1).1
  obtain ⟨outer, -, hwithin⟩ := hd.within_eq_nil hblocks
  cases lawful_of_within hwithin with
  | blocks _ hnone => cases hgroups.symm.trans hnone
  | pages _ hnone => cases hgroups.symm.trans hnone
  | groups hpages hsome hnonempty heven htagged =>
    obtain ⟨chosen, hchosen⟩ :=
      exists_selectLatinSquare_of_even hnonempty (heven hlatin) o.assignment.version
    cases hsome.symm.trans hgroups
    refine ⟨chosen, hchosen, fun hseparable w => ?_⟩
    have hnone : none ∉ chosen.map (·.condition) := by
      intro hmem
      obtain ⟨page, hpage, hcondition⟩ := List.mem_map.1 hmem
      have hdeclared := mem_flatten_of_selectLatinSquare hchosen page hpage
      exact htagged hpseudorandom page hdeclared hcondition
    have hdrawn : ∀ w, ∃ order,
        (orderSeparated (chosen.map (·.condition)) o.window w).1 = .ok order := by
      rw [hwindow]
      exact exists_orderSeparated hnone hseparable
    constructor
    · rw [order_ofDecl]
      exact hdrawn w
    · intro e he
      have hpositive : o.window ≠ 0 := hwindow ▸ by decide
      obtain ⟨path', d', chosen', w', hd', hpseudorandom', hchosen', herror, rfl⟩ :=
        failsOnly_build hpositive hrules w e he
      refine ⟨path', d', ?_, hd', hpseudorandom', rfl⟩
      rintro rfl
      -- a path stands for one block, and its pages are those of the Latin square
      cases hd'.unique hd hnodup hblocks
      cases (hchosen'.selectLatinSquare hpages hgroups hlatin).symm.trans hchosen
      obtain ⟨order, horder⟩ := hdrawn w'
      cases horder.symm.trans herror

/-- The pages of the paired groups are always kept apart. -/
theorem paired_keeps_apart :
    paired.violations = [] ∧ paired.Declares ⟨["test"]⟩ (testBlock 1 2) ∧
      ∃ groups chosen, (testBlock 1 2).groups = some groups ∧
        selectLatinSquare groups 0 = .ok chosen ∧
        ∀ w : Words,
          (∃ order, (Page.order (chosen.map (Page.ofDecl ⟨["test"]⟩)) true defaultWindow w).1 =
            .ok order) ∧
          ∀ e, build paired {} w = .error e → ∃ path' d', path' ≠ ⟨["test"]⟩ ∧
            paired.Declares path' d' ∧ d'.pseudorandom = true ∧ e = .order path' .exhausted := by
  have hrules : paired.violations = [] := rfl
  have hd : paired.Declares ⟨["test"]⟩ (testBlock 1 2) := .here List.mem_cons_self
  obtain ⟨chosen, hchosen, hkept⟩ := latinSquare_keeps_apart (o := {}) hrules rfl hd rfl rfl rfl
  refine ⟨hrules, hd, _, chosen, rfl, hchosen, ?_⟩
  obtain rfl : [testPage "p1" 1, testPage "q2" 2] = chosen := Except.ok.inj hchosen
  refine hkept (separable_of_isUneven (by decide) ⟨some (.number 1), ?_, some (.number 2), ?_, ?_⟩)
  all_goals decide

/-! ## Groups that do not go together -/

/-- Groups with the same conditions in opposite orders: each version of the Latin square takes two
pages of one condition. -/
def crossed : Script where
  blocks := [testBlock 2 1]

/-- Two items of one condition cannot be kept apart. -/
theorem orderSeparated_pair (c : Condition) (window : Nat) (w : Words) :
    (orderSeparated [some c, some c] window w).1 = .error .exhausted := by
  have htagged : none ∉ [some c, some c] := by simp
  rcases orderSeparated_cases htagged window w with ⟨order, horder⟩ | herror
  · have hle := count_le_of_orderSeparated horder (some c)
    simp at hle
  · exact herror

/-- Although the crossed groups have each condition equally often and break no rule, no experiment
is ever built from them. -/
theorem crossed_exhausted :
    crossed.violations = [] ∧ crossed.Declares ⟨["test"]⟩ (testBlock 2 1) ∧
      (testBlock 2 1).groups.isSome = true ∧ (testBlock 2 1).latinSquare = true ∧
      (testBlock 2 1).pseudorandom = true ∧ ({} : BuildOptions).window = defaultWindow ∧
      ∀ w : Words, build crossed {} w = .error (.order ⟨["test"]⟩ .exhausted) := by
  refine ⟨rfl, .here List.mem_cons_self, rfl, rfl, rfl, rfl, fun w => ?_⟩
  have hdrawn : (orderSeparated ([testPage "p1" 1, testPage "q2" 1].map (·.condition))
      defaultWindow w).1 = .error .exhausted := orderSeparated_pair _ _ w
  have hblock : buildBlock crossed {} none .root (testBlock 2 1) #[] w =
      .error (.order ⟨["test"]⟩ .exhausted) := buildLeaf_eq_error hdrawn _
  have hblocks : buildBlocks crossed {} none .root [testBlock 2 1] #[] w =
      .error (.order ⟨["test"]⟩ .exhausted) := by
    rw [buildBlocks, hblock]
    rfl
  rw [build_eq (by decide) rfl, show crossed.blocks = [testBlock 2 1] from rfl, hblocks]
  rfl

end Experiment

end Trials
