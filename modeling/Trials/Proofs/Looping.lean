import Mathlib.Data.List.Induction
import Mathlib.Data.Rat.Floor
import Trials.Looping
import Trials.Proofs.Number.Binary64

/-!
# The law of looping

A block runs again as long as it has not reached its cutoff and what its criterion measures lies
below the criterion (`LoopPolicy.decide_eq_again_iff`).  For a criterion of one or more that is the
number of correct outcomes at the end (`Looping.le_trailingStreak`), for one below one the proportion
of correct outcomes, rounded once (`Looping.proportionCorrect_eq`).  Neither falls when a correct
outcome is added, and neither rises when an incorrect one is, but for the first outcome of all.
-/

namespace Trials

namespace Looping

variable {history : List Bool} {outcome : Bool} {n : Nat}

/-! ## The streak at the end -/

/-- The last `n` outcomes exist and are all correct. -/
def EndsCorrect (n : Nat) (history : List Bool) : Prop :=
  n ≤ history.length ∧ ∀ outcome ∈ history.drop (history.length - n), outcome = true

theorem endsCorrect_zero : EndsCorrect 0 history := by
  simp [EndsCorrect]

theorem endsCorrect_append :
    EndsCorrect (n + 1) (history ++ [outcome]) ↔ EndsCorrect n history ∧ outcome = true := by
  have hdrop : (history ++ [outcome]).drop (history.length - n) =
      history.drop (history.length - n) ++ [outcome] :=
    List.drop_append_of_le_length (Nat.sub_le _ _)
  simp only [EndsCorrect, List.length_append, List.length_singleton, Nat.add_le_add_iff_right,
    Nat.add_sub_add_right, hdrop, List.forall_mem_append, List.forall_mem_singleton, and_assoc]

theorem le_trailingStreak : n ≤ trailingStreak history ↔ EndsCorrect n history := by
  induction history using List.reverseRecOn generalizing n with
  | nil => simp [trailingStreak, EndsCorrect]
  | append_singleton history outcome ih =>
    cases n with
    | zero => simp [endsCorrect_zero]
    | succ n =>
      rw [endsCorrect_append]
      cases outcome with
      | false => simp [trailingStreak_append_false]
      | true => simp [trailingStreak_append_true, ih]

/-! ## The proportion of correct outcomes -/

/-- The proportion of correct outcomes, rounded once. -/
def proportion (history : List Bool) : Binary64 :=
  .ofRatio false (history.count true) history.length

theorem proportionCorrect_nil : proportionCorrect [] = none := rfl

theorem proportionCorrect_eq (h : history ≠ []) (hlen : history.length ≤ 2 * Binary64.fractions) :
    proportionCorrect history = some (proportion history) := by
  have hempty : history.isEmpty = false := List.isEmpty_eq_false_iff.2 h
  have hcount : history.count true ≤ history.length := List.count_le_length
  rw [proportionCorrect, hempty, if_neg Bool.false_ne_true, proportion,
    Binary64.div_ofNat (hcount.trans hlen) hlen (List.length_pos_iff.2 h)]

theorem roundsTo_proportion (h : history ≠ []) :
    Binary64.RoundsTo ((history.count true : ℚ) / history.length) (proportion history) :=
  Binary64.roundsTo_ofRatio List.count_le_length (List.length_pos_iff.2 h)

theorem proportion_le_append_true (h : history ≠ []) :
    (proportion history).value ≤ (proportion (history ++ [true])).value := by
  have hcount : history.count true ≤ history.length := List.count_le_length
  refine Binary64.value_ofRatio_mono hcount (List.length_pos_iff.2 h) List.count_le_length
    (by simp) ?_
  rw [List.count_append, List.length_append, List.count_singleton_self, List.length_singleton,
    Nat.mul_succ, Nat.succ_mul]
  omega

theorem proportion_append_false_le (h : history ≠ []) :
    (proportion (history ++ [false])).value ≤ (proportion history).value := by
  refine Binary64.value_ofRatio_mono List.count_le_length (by simp) List.count_le_length
    (List.length_pos_iff.2 h) ?_
  have hcount : (history ++ [false]).count true = history.count true := by simp
  rw [hcount, List.length_append]
  exact Nat.mul_le_mul_left _ (Nat.le_add_right _ _)

/-! ## What the criterion is compared with -/

variable {criterion measured : Binary64}

theorem metric_of_lt_one (h : criterion.lt .one = true) :
    metric criterion history = proportionCorrect history := if_pos h

theorem metric_of_not_lt_one (h : criterion.lt .one = false) :
    metric criterion history = some (.ofNat (trailingStreak history)) := by
  rw [metric, h, if_neg Bool.false_ne_true]

theorem isNaN_proportion (h : history ≠ []) : (proportion history).isNaN = false :=
  Binary64.isNaN_of_isFinite (roundsTo_proportion h).finite

theorem value_streak (hlen : history.length ≤ 2 * Binary64.fractions) :
    (Binary64.ofNat (trailingStreak history)).value = trailingStreak history :=
  Binary64.value_ofNat ((trailingStreak_le history).trans hlen)

theorem isNaN_streak (hlen : history.length ≤ 2 * Binary64.fractions) :
    (Binary64.ofNat (trailingStreak history)).isNaN = false :=
  Binary64.isNaN_of_isFinite (Binary64.isFinite_ofNat ((trailingStreak_le history).trans hlen))

/-- A first outcome that is correct satisfies every criterion below one. -/
theorem not_lt_of_proportion_singleton (hone : criterion.lt .one = true) :
    (proportion [true]).lt criterion = false := by
  by_contra hlt
  have hlt : (proportion [true]).lt criterion = true := by simpa using hlt
  have hvalue : (proportion [true]).value = 1 := Binary64.value_ofNat (n := 1) (by decide)
  rw [Binary64.lt_iff (isNaN_proportion (by simp)) (Binary64.isNaN_of_lt hlt).2, hvalue] at hlt
  rw [Binary64.lt_iff (Binary64.isNaN_of_lt hone).1 (Binary64.isNaN_of_lt hone).2,
    Binary64.value_one] at hone
  exact absurd hlt hone.not_gt

/-- What lies below the criterion after a correct outcome did so before. -/
theorem metric_of_append_true (hlen : history.length < 2 * Binary64.fractions)
    (hmeasured : metric criterion (history ++ [true]) = some measured)
    (hlt : measured.lt criterion = true) :
    ∃ before, metric criterion history = some before ∧ before.lt criterion = true := by
  have hlen' : (history ++ [true]).length ≤ 2 * Binary64.fractions := by
    rw [List.length_append]
    exact hlen
  cases hone : criterion.lt .one with
  | true =>
    rw [metric_of_lt_one hone, proportionCorrect_eq (by simp) hlen', Option.some_inj] at hmeasured
    subst hmeasured
    have hne : history ≠ [] := by
      rintro rfl
      rw [List.nil_append, not_lt_of_proportion_singleton hone] at hlt
      cases hlt
    refine ⟨proportion history, ?_, ?_⟩
    · rw [metric_of_lt_one hone, proportionCorrect_eq hne hlen.le]
    · exact Binary64.lt_of_value_le (isNaN_proportion hne) (proportion_le_append_true hne) hlt
  | false =>
    rw [metric_of_not_lt_one hone, Option.some_inj] at hmeasured
    subst hmeasured
    refine ⟨_, metric_of_not_lt_one hone, Binary64.lt_of_value_le (isNaN_streak hlen.le) ?_ hlt⟩
    rw [value_streak hlen.le, value_streak hlen', trailingStreak_append_true, Nat.cast_le]
    exact Nat.le_succ _

/-- What lies below the criterion still does so after an incorrect outcome. -/
theorem metric_append_false (hlen : history.length < 2 * Binary64.fractions)
    (hmeasured : metric criterion history = some measured) (hlt : measured.lt criterion = true) :
    ∃ after, metric criterion (history ++ [false]) = some after ∧ after.lt criterion = true := by
  have hlen' : (history ++ [false]).length ≤ 2 * Binary64.fractions := by
    rw [List.length_append]
    exact hlen
  cases hone : criterion.lt .one with
  | true =>
    rw [metric_of_lt_one hone] at hmeasured
    have hne : history ≠ [] := by
      rintro rfl
      cases hmeasured
    rw [proportionCorrect_eq hne hlen.le, Option.some_inj] at hmeasured
    subst hmeasured
    refine ⟨proportion (history ++ [false]), ?_, ?_⟩
    · rw [metric_of_lt_one hone, proportionCorrect_eq (by simp) hlen']
    · exact Binary64.lt_of_value_le (isNaN_proportion (by simp)) (proportion_append_false_le hne)
        hlt
  | false =>
    rw [metric_of_not_lt_one hone, Option.some_inj] at hmeasured
    subst hmeasured
    refine ⟨_, metric_of_not_lt_one hone, Binary64.lt_of_value_le (isNaN_streak hlen') ?_ hlt⟩
    rw [value_streak hlen.le, value_streak hlen', trailingStreak_append_false, Nat.cast_le]
    exact Nat.zero_le _

end Looping

namespace LoopPolicy

open Looping

variable {policy : LoopPolicy} {criterion : Binary64} {iteration later : Nat}
  {history next : List Bool}

/-! ## The decision -/

theorem decide_eq_again_iff : policy.decide iteration history = .again ↔
    ∃ criterion measured, policy.criterion = some criterion ∧ Binary64.zero.lt criterion = true ∧
      iteration < policy.cutoff.toNat ∧ metric criterion history = some measured ∧
      measured.lt criterion = true := by
  unfold decide
  constructor
  · intro h
    split at h
    · cases h
    next criterion hcriterion =>
      split_ifs at h with hgo
      · split at h
        next measured hmeasured =>
          split_ifs at h with hlt
          exact ⟨criterion, measured, hcriterion, hgo.1, hgo.2, hmeasured, hlt⟩
        · cases h
  · rintro ⟨criterion, measured, hcriterion, hpositive, hcutoff, hmeasured, hlt⟩
    simp [hcriterion, hpositive, hcutoff, hmeasured, hlt]

theorem decide_eq_stop_iff :
    policy.decide iteration history = .stop ↔ policy.decide iteration history ≠ .again := by
  cases policy.decide iteration history <;> simp

/-- If a smaller measure is no reason to stop, then neither is the greater one before it. -/
theorem decide_eq_again_of_metric (hmetric : ∀ criterion measured,
      metric criterion next = some measured → measured.lt criterion = true →
      ∃ before, metric criterion history = some before ∧ before.lt criterion = true)
    (h : policy.decide iteration next = .again) : policy.decide iteration history = .again := by
  obtain ⟨criterion, measured, hcriterion, hpositive, hcutoff, hmeasured, hlt⟩ :=
    decide_eq_again_iff.1 h
  obtain ⟨before, hbefore, hlt⟩ := hmetric criterion measured hmeasured hlt
  exact decide_eq_again_iff.2 ⟨criterion, before, hcriterion, hpositive, hcutoff, hbefore, hlt⟩

theorem decide_eq_again_of_le (hle : iteration ≤ later)
    (h : policy.decide later history = .again) : policy.decide iteration history = .again := by
  obtain ⟨criterion, measured, hcriterion, hpositive, hcutoff, hmeasured, hlt⟩ :=
    decide_eq_again_iff.1 h
  exact decide_eq_again_iff.2
    ⟨criterion, measured, hcriterion, hpositive, hle.trans_lt hcutoff, hmeasured, hlt⟩

theorem zero_lt_iff (hfinite : criterion.isFinite = true) :
    Binary64.zero.lt criterion = true ↔ 0 < criterion.value := by
  rw [Binary64.lt_iff (by decide) (Binary64.isNaN_of_isFinite hfinite), Binary64.value_zero]

theorem lt_one_iff (hfinite : criterion.isFinite = true) :
    criterion.lt .one = true ↔ criterion.value < 1 := by
  rw [Binary64.lt_iff (Binary64.isNaN_of_isFinite hfinite) (by decide), Binary64.value_one]

/-- A criterion of one or more asks for that many correct outcomes at the end. -/
theorem decide_of_one_le (hcriterion : policy.criterion = some criterion)
    (hfinite : criterion.isFinite = true) (hone : 1 ≤ criterion.value)
    (hlen : history.length ≤ 2 * Binary64.fractions) :
    policy.decide iteration history = .again ↔
      iteration < policy.cutoff.toNat ∧ ¬ EndsCorrect ⌈criterion.value⌉₊ history := by
  have hpositive := (zero_lt_iff hfinite).2 (zero_lt_one.trans_le hone)
  have hstreak : criterion.lt .one = false := by
    rw [Bool.eq_false_iff, Ne, lt_one_iff hfinite]
    exact hone.not_gt
  have hbelow : (Binary64.ofNat (trailingStreak history)).lt criterion = true ↔
      ¬ EndsCorrect ⌈criterion.value⌉₊ history := by
    rw [Binary64.lt_iff (isNaN_streak hlen) (Binary64.isNaN_of_isFinite hfinite),
      value_streak hlen, ← le_trailingStreak, Nat.not_le, Nat.lt_ceil]
  simp [decide_eq_again_iff, hcriterion, hpositive, metric_of_not_lt_one hstreak, hbelow]

/-- A criterion below one asks for that proportion of correct outcomes, once there are any. -/
theorem decide_of_lt_one (hcriterion : policy.criterion = some criterion)
    (hfinite : criterion.isFinite = true) (hpositive : 0 < criterion.value)
    (hone : criterion.value < 1) (hlen : history.length ≤ 2 * Binary64.fractions) :
    policy.decide iteration history = .again ↔
      iteration < policy.cutoff.toNat ∧ history ≠ [] ∧
        (proportion history).value < criterion.value := by
  have hpositive := (zero_lt_iff hfinite).2 hpositive
  have hproportion := (lt_one_iff hfinite).2 hone
  by_cases hempty : history = []
  · simp [decide_eq_again_iff, hcriterion, metric_of_lt_one hproportion, hempty,
      proportionCorrect_nil]
  · have hbelow : (proportion history).lt criterion = true ↔
        (proportion history).value < criterion.value :=
      Binary64.lt_iff (isNaN_proportion hempty) (Binary64.isNaN_of_isFinite hfinite)
    simp [decide_eq_again_iff, hcriterion, hpositive, metric_of_lt_one hproportion, hempty,
      proportionCorrect_eq hempty hlen, hbelow]

/-- Without a positive criterion there is one pass only. -/
theorem decide_of_not_positive (hcriterion : ∀ criterion, policy.criterion = some criterion →
      criterion.isNaN = true ∨ criterion.value ≤ 0) :
    policy.decide iteration history = .stop := by
  rw [decide_eq_stop_iff]
  intro hagain
  obtain ⟨criterion, -, hsome, hpositive, -⟩ := decide_eq_again_iff.1 hagain
  have hdefined := Binary64.isNaN_of_lt hpositive
  rw [Binary64.lt_iff hdefined.1 hdefined.2, Binary64.value_zero] at hpositive
  rcases hcriterion criterion hsome with hnan | hle
  · exact absurd hdefined.2 (by simp [hnan])
  · exact absurd hpositive hle.not_gt

/-- The decision is the law of its criterion.  So a correct outcome is never the reason to run
again, an incorrect one never the reason to stop, and a block that has stopped stays so in every
later pass. -/
theorem decide_by_criterion (policy : LoopPolicy) (iteration : Nat) (history : List Bool)
    (hlen : history.length < 2 ^ 53) :
    (∀ criterion, policy.criterion = some criterion → criterion.isFinite = true →
      1 ≤ criterion.value →
      (policy.decide iteration history = .again ↔
        iteration < policy.cutoff.toNat ∧ ¬ EndsCorrect ⌈criterion.value⌉₊ history)) ∧
    (∀ criterion, policy.criterion = some criterion → criterion.isFinite = true →
      0 < criterion.value → criterion.value < 1 →
      (policy.decide iteration history = .again ↔
        iteration < policy.cutoff.toNat ∧ history ≠ [] ∧
          (proportion history).value < criterion.value)) ∧
    (history ≠ [] →
      Binary64.RoundsTo ((history.count true : ℚ) / history.length) (proportion history)) ∧
    ((∀ criterion, policy.criterion = some criterion →
        criterion.isNaN = true ∨ criterion.negative = true ∨ criterion.value = 0) →
      policy.decide iteration history = .stop) ∧
    (policy.decide iteration history = .stop →
      policy.decide iteration (history ++ [true]) = .stop) ∧
    (policy.decide iteration history = .again →
      policy.decide iteration (history ++ [false]) = .again) ∧
    (∀ later, iteration ≤ later → policy.decide iteration history = .stop →
      policy.decide later history = .stop) := by
  have hlen : history.length < 2 * Binary64.fractions := hlen
  refine ⟨?streak, ?proportion, roundsTo_proportion, ?never, ?correct, ?incorrect, ?later⟩
  case streak =>
    intro criterion hcriterion hfinite hone
    exact decide_of_one_le hcriterion hfinite hone hlen.le
  case proportion =>
    intro criterion hcriterion hfinite hpositive hone
    exact decide_of_lt_one hcriterion hfinite hpositive hone hlen.le
  case never =>
    intro hcriterion
    refine decide_of_not_positive fun criterion hsome => (hcriterion criterion hsome).imp_right ?_
    exact fun h => h.elim Binary64.value_nonpos_of_negative le_of_eq
  case correct =>
    rw [decide_eq_stop_iff, decide_eq_stop_iff]
    exact mt (decide_eq_again_of_metric fun _ _ => metric_of_append_true hlen)
  case incorrect =>
    exact decide_eq_again_of_metric fun _ _ => metric_append_false hlen
  case later =>
    intro later hle
    rw [decide_eq_stop_iff, decide_eq_stop_iff]
    exact mt (decide_eq_again_of_le hle)

/-- Two correct outcomes at the end are one too few for a criterion of three, a single incorrect
outcome is below a half, and at the cutoff neither counts. -/
theorem decide_by_criterion_three_and_half :
    [false, true, true].length < 2 ^ 53 ∧
      decide ⟨some (.ofNat 3), 5⟩ 4 [false, true, true] = .again ∧
      decide ⟨some (.ofNat 3), 5⟩ 4 [false, true, true, false] = .again ∧
      decide ⟨some (.ofNat 3), 5⟩ 4 [false, true, true, true] = .stop ∧
      decide ⟨some ⟨0x3FE0000000000000⟩, 5⟩ 4 [false] = .again ∧
      decide ⟨some ⟨0x3FE0000000000000⟩, 5⟩ 5 [false] = .stop ∧
      decide ⟨some .nan, 5⟩ 1 [false] = .stop := by
  have hthree : (Binary64.ofNat 3).value = 3 := Binary64.value_ofNat (by decide)
  have hceil : ⌈(Binary64.ofNat 3).value⌉₊ = 3 := by
    rw [hthree]
    exact Nat.ceil_natCast 3
  have hhalf : Binary64.value ⟨0x3FE0000000000000⟩ = 1 / 2 := by
    have hunits : 2 * Binary64.units ⟨0x3FE0000000000000⟩ = Binary64.unitsPerOne := by decide
    have hsign : Binary64.negative ⟨0x3FE0000000000000⟩ = false := by decide
    have hpos := Binary64.unitsPerOne_cast_pos
    rw [← hunits, Nat.cast_mul] at hpos
    rw [Binary64.value, hsign, ← hunits, if_neg Bool.false_ne_true, Nat.cast_mul,
      div_eq_div_iff hpos.ne' two_ne_zero, one_mul, mul_comm, Nat.cast_ofNat]
  have hstreak := decide_by_criterion ⟨some (.ofNat 3), 5⟩ 4 [false, true, true] (by decide)
  have hstop := decide_by_criterion ⟨some (.ofNat 3), 5⟩ 4 [false, true, true, true] (by decide)
  have hproportion := decide_by_criterion ⟨some ⟨0x3FE0000000000000⟩, 5⟩ 4 [false] (by decide)
  have hcutoff := decide_by_criterion ⟨some ⟨0x3FE0000000000000⟩, 5⟩ 5 [false] (by decide)
  have hnan := decide_by_criterion ⟨some .nan, 5⟩ 1 [false] (by decide)
  have hagain := (hstreak.1 _ rfl (Binary64.isFinite_ofNat (by decide)) (by rw [hthree]; norm_num)).2
    ⟨by decide, by rw [hceil]; simp [EndsCorrect]⟩
  refine ⟨by decide, hagain, hstreak.2.2.2.2.2.1 hagain, ?_, ?_, ?_, ?_⟩
  · rw [decide_eq_stop_iff, Ne, hstop.1 _ rfl (Binary64.isFinite_ofNat (by decide))
      (by rw [hthree]; norm_num), hceil]
    simp [EndsCorrect]
  · refine (hproportion.2.1 _ rfl (by decide) (by rw [hhalf]; norm_num)
      (by rw [hhalf]; norm_num)).2 ⟨by decide, by decide, ?_⟩
    have hnone : (proportion [false]).value = 0 := Binary64.value_ofNat (n := 0) (by decide)
    rw [hnone, hhalf]
    norm_num
  · rw [decide_eq_stop_iff, Ne, hcutoff.2.1 _ rfl (by decide) (by rw [hhalf]; norm_num)
      (by rw [hhalf]; norm_num)]
    exact fun h => absurd h.1 (by decide)
  · refine hnan.2.2.2.1 fun criterion hcriterion => .inl ?_
    cases hcriterion
    decide

end LoopPolicy

end Trials
