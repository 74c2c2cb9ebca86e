import Mathlib.Algebra.Order.Field.Basic
import Mathlib.Data.Nat.Log
import Mathlib.Data.Rat.Cast.Order
import Mathlib.Tactic.Linarith
import Trials.Number.Binary64
import Trials.Proofs.Number.Rounding

/-!
# Rounding to doubles

The bits below the sign count upwards with the absolute value they stand for (`unitsAt_strictMono`),
and on each scale they count equal steps (`unitsAt_eq`).  From this and from the rounding of
quotients to integers it follows that `rounded` gives the nearest of all doubles, the even one of
two (`rounded_nearest`), and that it keeps the order (`rounded_mono`).

Read as rational numbers (`value`), doubles are compared as their values are (`lt_iff`), a natural
number that fits the significand is its own value (`value_ofNat`), and the quotient of two of them
is rounded once (`div_ofNat`, `roundsTo_ofRatio`).
-/

namespace Trials

namespace Binary64

variable {num den num' den' : Nat}

/-! ## Magnitudes -/

/-- The absolute value that bits below the sign stand for, as a multiple of `2 ^ -1074`. -/
def unitsAt (m : Nat) : Nat :=
  (if m / fractions = 0 then m % fractions else fractions + m % fractions) <<< (m / fractions - 1)

theorem units_eq (x : Binary64) : x.units = unitsAt x.magnitude := rfl

theorem fractions_pos : 0 < fractions := by decide

/-- From `scale * fractions + fractions` on the bits count steps of `2 ^ scale`; before them, on the
lowest scale, they do so as well. -/
theorem unitsAt_eq {scale r : Nat} (hr : r ≤ 2 * fractions) (hlow : scale = 0 ∨ fractions ≤ r) :
    unitsAt (scale * fractions + r) = r * 2 ^ scale := by
  have hdiv : (scale * fractions + r) / fractions = scale + r / fractions := by
    rw [Nat.add_comm, Nat.add_mul_div_right _ _ fractions_pos, Nat.add_comm]
  have hmod : (scale * fractions + r) % fractions = r % fractions := by
    rw [Nat.add_comm, Nat.add_mul_mod_self_right]
  rw [unitsAt, hdiv, hmod, Nat.shiftLeft_eq]
  obtain hlt | heq | heq : r / fractions < 1 ∨ r / fractions = 1 ∨ r / fractions = 2 := by
    have : r / fractions ≤ 2 := by
      rw [Nat.div_le_iff_le_mul_add_pred fractions_pos]
      omega
    omega
  · have hr : r < fractions := by simpa [Nat.div_eq_zero_iff, fractions] using hlt
    obtain rfl : scale = 0 := hlow.resolve_right (Nat.not_le.2 hr)
    simp [Nat.div_eq_of_lt hr, Nat.mod_eq_of_lt hr]
  · have hsplit := Nat.div_add_mod r fractions
    rw [heq, Nat.mul_one] at hsplit
    rw [heq, if_neg (Nat.succ_ne_zero _), hsplit, Nat.add_sub_cancel]
  · have hsplit := Nat.div_add_mod r fractions
    rw [heq] at hsplit
    have hr : r = 2 * fractions := by omega
    have hrest : r % fractions = 0 := by omega
    rw [heq, hrest, if_neg (by omega), hr, Nat.add_zero, Nat.add_succ_sub_one, Nat.pow_succ]
    ring

/-- Every magnitude counts steps of some scale. -/
theorem exists_scale (m : Nat) : ∃ scale r, m = scale * fractions + r ∧ r < 2 * fractions ∧
    (scale = 0 ∨ fractions ≤ r) := by
  have hsplit := Nat.div_add_mod m fractions
  have hrest := Nat.mod_lt m fractions_pos
  rw [Nat.mul_comm] at hsplit
  by_cases hlow : m / fractions = 0
  · exact ⟨0, m, by omega, by rw [hlow] at hsplit; omega, .inl rfl⟩
  · obtain ⟨scale, hscale⟩ := Nat.exists_eq_succ_of_ne_zero hlow
    rw [hscale, Nat.succ_mul] at hsplit
    exact ⟨scale, fractions + m % fractions, by omega, by omega, .inr (by omega)⟩

theorem unitsAt_strictMono : StrictMono unitsAt := by
  refine strictMono_nat_of_lt_succ fun m => ?_
  obtain ⟨scale, r, rfl, hr, hlow⟩ := exists_scale m
  rw [unitsAt_eq hr.le hlow, Nat.add_assoc, unitsAt_eq hr (hlow.imp_right fun h => by omega)]
  exact Nat.mul_lt_mul_of_pos_right (Nat.lt_succ_self r) (Nat.two_pow_pos scale)

/-- Whatever is not below the `fractions`-th step of a scale is a whole number of its steps. -/
theorem exists_steps {scale m : Nat} (h : fractions * 2 ^ scale ≤ unitsAt m) :
    ∃ z, unitsAt m = z * 2 ^ scale := by
  rw [← unitsAt_eq (by omega) (.inr (Nat.le_refl _)), unitsAt_strictMono.le_iff_le] at h
  obtain ⟨scale', r, rfl, hr, hlow⟩ := exists_scale m
  have hle : scale ≤ scale' := by
    by_contra hlt
    have hmul : (scale' + 1) * fractions ≤ scale * fractions :=
      Nat.mul_le_mul_right _ (Nat.not_le.1 hlt)
    rw [Nat.succ_mul] at hmul
    omega
  refine ⟨r * 2 ^ (scale' - scale), ?_⟩
  rw [unitsAt_eq hr.le hlow, Nat.mul_assoc, ← Nat.pow_add, Nat.sub_add_cancel hle]

/-- A number of steps that fits the significand is a magnitude on every scale. -/
theorem exists_unitsAt_eq (scale : Nat) : ∀ {r : Nat}, r ≤ 2 * fractions →
    ∃ m, unitsAt m = r * 2 ^ scale := by
  induction scale with
  | zero => exact fun {r} hr => ⟨0 * fractions + r, unitsAt_eq hr (.inl rfl)⟩
  | succ scale ih =>
    intro r hr
    by_cases hlow : fractions ≤ r
    · exact ⟨_, unitsAt_eq hr (.inr hlow)⟩
    · obtain ⟨m, hm⟩ := ih (r := 2 * r) (by omega)
      exact ⟨m, by rw [hm, Nat.pow_succ]; ring⟩

/-! ## Rounding -/

/-- The scale on which `num / den` units are rounded. -/
def scaleFor (num den : Nat) : Nat := Nat.log2 (num / den) - 52

/-- The number of steps of that scale that `num / den` units are rounded to. -/
def stepsFor (num den : Nat) : Nat := roundQuotient num (den <<< scaleFor num den)

/-- The magnitude that `num / den` units are rounded to, were there no largest double. -/
def rounded (num den : Nat) : Nat := scaleFor num den * fractions + stepsFor num den

theorem nearest_eq (num den : Nat) : nearest num den = min infinityBits (rounded num den) := rfl

theorem div_shiftLeft (num den scale : Nat) : num / (den <<< scale) = num / den / 2 ^ scale := by
  rw [Nat.shiftLeft_eq, Nat.div_div_eq_div_mul]

theorem stepsFor_le (num den : Nat) : stepsFor num den ≤ 2 * fractions := by
  have hlt : num / den / 2 ^ scaleFor num den < 2 ^ 53 := by
    rw [Nat.div_lt_iff_lt_mul (Nat.two_pow_pos _), ← Nat.pow_add]
    refine Nat.lt_of_lt_of_le Nat.lt_log2_self (Nat.pow_le_pow_right Nat.two_pos ?_)
    unfold scaleFor
    omega
  have hle := roundQuotient_le num (den <<< scaleFor num den)
  rw [div_shiftLeft] at hle
  exact hle.trans hlt

theorem two_pow_le_of_scaleFor_ne_zero (h : scaleFor num den ≠ 0) :
    fractions * 2 ^ scaleFor num den ≤ num / den := by
  have hlog : 52 + scaleFor num den = Nat.log2 (num / den) := by
    unfold scaleFor at h ⊢
    omega
  have hne : num / den ≠ 0 := by
    intro hzero
    rw [scaleFor, hzero] at h
    exact h rfl
  rw [show fractions = 2 ^ 52 from rfl, ← Nat.pow_add, hlog]
  exact Nat.log2_self_le hne

theorem fractions_le_stepsFor (num den : Nat) :
    scaleFor num den = 0 ∨ fractions ≤ stepsFor num den := by
  by_cases h : scaleFor num den = 0
  · exact .inl h
  · right
    refine le_trans ?_ (div_le_roundQuotient num (den <<< scaleFor num den))
    rw [div_shiftLeft, Nat.le_div_iff_mul_le (Nat.two_pow_pos _)]
    exact two_pow_le_of_scaleFor_ne_zero h

theorem unitsAt_rounded (num den : Nat) :
    unitsAt (rounded num den) = stepsFor num den * 2 ^ scaleFor num den :=
  unitsAt_eq (stepsFor_le num den) (fractions_le_stepsFor num den)

/-- No magnitude is nearer to `num / den` units than the rounded one, and another one is as near
only if the rounded one is even. -/
theorem rounded_nearest (num : Nat) (hden : 0 < den) (m : Nat) :
    |(num : ℤ) - unitsAt (rounded num den) * den| ≤ |(num : ℤ) - unitsAt m * den| ∧
      (|(num : ℤ) - unitsAt m * den| = |(num : ℤ) - unitsAt (rounded num den) * den| →
        m = rounded num den ∨ rounded num den % 2 = 0) := by
  have hstep : 0 < den <<< scaleFor num den := by
    rw [Nat.shiftLeft_eq]
    exact Nat.mul_pos hden (Nat.two_pow_pos _)
  have hscaled : ∀ z : Nat, ((z * 2 ^ scaleFor num den : Nat) : ℤ) * den =
      z * (den <<< scaleFor num den : Nat) := by
    intro z
    rw [Nat.shiftLeft_eq]
    push_cast
    ring
  have hnearest := roundQuotient_nearest num hstep
  rw [unitsAt_rounded, hscaled]
  by_cases hwhole : ∃ z, unitsAt m = z * 2 ^ scaleFor num den
  · obtain ⟨z, hz⟩ := hwhole
    obtain ⟨hle, htie⟩ := hnearest z
    rw [hz, hscaled]
    refine ⟨hle, fun heq => (htie heq).imp (fun hsame => ?_) fun heven => ?_⟩
    · refine unitsAt_strictMono.injective ?_
      rw [hz, unitsAt_rounded, hsame, stepsFor]
    · have heven : stepsFor num den % 2 = 0 := heven
      rw [rounded, show fractions = 2 * 2 ^ 51 from rfl]
      omega
  · -- such a magnitude lies below all those that have the scale of the quotient
    have hscale : scaleFor num den ≠ 0 := by
      intro hzero
      exact hwhole ⟨unitsAt m, by rw [hzero, Nat.pow_zero, Nat.mul_one]⟩
    have hbelow : unitsAt m < fractions * 2 ^ scaleFor num den := by
      by_contra hle
      exact hwhole (exists_steps (Nat.not_lt.1 hle))
    have hreach : fractions * 2 ^ scaleFor num den * den ≤ num :=
      (Nat.le_div_iff_mul_le hden).1 (two_pow_le_of_scaleFor_ne_zero hscale)
    have hless : unitsAt m * den < fractions * 2 ^ scaleFor num den * den :=
      Nat.mul_lt_mul_of_pos_right hbelow hden
    have hlt : |(num : ℤ) - stepsFor num den * (den <<< scaleFor num den : Nat)| <
        |(num : ℤ) - unitsAt m * den| := by
      calc |(num : ℤ) - stepsFor num den * (den <<< scaleFor num den : Nat)|
          ≤ |(num : ℤ) - fractions * (den <<< scaleFor num den : Nat)| := (hnearest fractions).1
        _ = num - (fractions * 2 ^ scaleFor num den * den : Nat) := by
          rw [← hscaled, ← Nat.cast_mul]
          exact abs_of_nonneg (sub_nonneg.2 (by exact_mod_cast hreach))
        _ < num - (unitsAt m * den : Nat) := by omega
        _ = |(num : ℤ) - unitsAt m * den| := by
          rw [← Nat.cast_mul]
          exact (abs_of_nonneg (sub_nonneg.2 (by exact_mod_cast (hless.trans_le hreach).le))).symm
    exact ⟨hlt.le, fun heq => absurd heq hlt.ne'⟩

/-- A greater number of units is not rounded to less. -/
theorem rounded_mono (hden : 0 < den) (hden' : 0 < den') (h : num * den' ≤ num' * den) :
    rounded num den ≤ rounded num' den' := by
  have hscale : scaleFor num den ≤ scaleFor num' den' := by
    rw [scaleFor, scaleFor, Nat.log2_eq_log_two, Nat.log2_eq_log_two]
    exact Nat.sub_le_sub_right (Nat.log_mono_right (div_le_div_of_mul_le hden hden' h)) 52
  rcases hscale.lt_or_eq with hlt | heq
  · have hsteps := stepsFor_le num den
    have hsteps' := (fractions_le_stepsFor num' den').resolve_left (by omega)
    have hmul := Nat.mul_le_mul_right fractions (Nat.succ_le_of_lt hlt)
    rw [Nat.succ_mul] at hmul
    unfold rounded
    omega
  · rw [rounded, rounded, stepsFor, stepsFor, heq, Nat.shiftLeft_eq, Nat.shiftLeft_eq]
    refine Nat.add_le_add_left (roundQuotient_mono ?_ ?_ ?_) _
    · exact Nat.mul_pos hden (Nat.two_pow_pos _)
    · exact Nat.mul_pos hden' (Nat.two_pow_pos _)
    · rw [← Nat.mul_assoc, ← Nat.mul_assoc]
      exact Nat.mul_le_mul_right _ h

/-- A magnitude is its own rounding. -/
theorem rounded_unitsAt (hden : 0 < den) (m : Nat) : rounded (unitsAt m * den) den = m := by
  have hle := (rounded_nearest (unitsAt m * den) hden m).1
  rw [Nat.cast_mul, sub_self, abs_zero, abs_nonpos_iff, ← sub_mul, mul_eq_zero, sub_eq_zero] at hle
  have hsame := hle.resolve_right (by exact_mod_cast hden.ne')
  exact (unitsAt_strictMono.injective (by exact_mod_cast hsame)).symm

theorem nearest_mono (hden : 0 < den) (hden' : 0 < den') (h : num * den' ≤ num' * den) :
    nearest num den ≤ nearest num' den' := by
  rw [nearest_eq, nearest_eq]
  exact min_le_min_left _ (rounded_mono hden hden' h)

/-- The rounding depends on the quotient alone. -/
theorem nearest_congr (hden : 0 < den) (hden' : 0 < den') (h : num * den' = num' * den) :
    nearest num den = nearest num' den' :=
  (nearest_mono hden hden' h.le).antisymm (nearest_mono hden' hden h.ge)

theorem nearest_unitsAt (hden : 0 < den) {m : Nat} (hm : m ≤ infinityBits) :
    nearest (unitsAt m * den) den = m := by
  rw [nearest_eq, rounded_unitsAt hden, Nat.min_eq_right hm]

/-! ## Values -/

/-- The value of a finite number. -/
def value (x : Binary64) : ℚ :=
  (if x.negative then -(x.units : ℚ) else x.units) / unitsPerOne

variable {x y : Binary64} {m n k : Nat} {q : ℚ}

/-- How many halvings lead from one to the unit. -/
def unitExponent : Nat := 1074

theorem unitsPerOne_eq : unitsPerOne = 2 ^ unitExponent := Nat.one_shiftLeft unitExponent

theorem unitsPerOne_pos : 0 < unitsPerOne := by
  rw [unitsPerOne_eq]
  exact Nat.two_pow_pos _

theorem unitsPerOne_cast_pos : (0 : ℚ) < unitsPerOne := Nat.cast_pos.2 unitsPerOne_pos

theorem unitsAt_eq_zero : unitsAt m = 0 ↔ m = 0 := unitsAt_strictMono.injective.eq_iff' rfl

theorem key_lt_key : x.key < y.key ↔ x.value < y.value := by
  have hmono : x.magnitude < y.magnitude ↔ x.units < y.units :=
    unitsAt_strictMono.lt_iff_lt.symm
  have hmono' : y.magnitude < x.magnitude ↔ y.units < x.units :=
    unitsAt_strictMono.lt_iff_lt.symm
  have hzero : x.units = 0 ↔ x.magnitude = 0 := unitsAt_eq_zero
  have hzero' : y.units = 0 ↔ y.magnitude = 0 := unitsAt_eq_zero
  rw [value, value, div_lt_div_iff_of_pos_right unitsPerOne_cast_pos]
  unfold key
  cases x.negative <;> cases y.negative <;>
    simp only [if_true, if_false, Bool.false_eq_true, ← Int.cast_natCast (R := ℚ), ← Int.cast_neg,
      Int.cast_lt] <;> omega

/-- Comparing two numbers is comparing their values. -/
theorem lt_iff (hx : x.isNaN = false) (hy : y.isNaN = false) :
    x.lt y = true ↔ x.value < y.value := by
  simp [lt, hx, hy, key_lt_key]

theorem isNaN_of_lt (h : x.lt y = true) : x.isNaN = false ∧ y.isNaN = false := by
  simp only [lt, Bool.and_eq_true, Bool.not_eq_true'] at h
  exact h.1

/-- What does not exceed a number is less than all that this number is less than. -/
theorem lt_of_value_le {z : Binary64} (hx : x.isNaN = false) (hle : x.value ≤ y.value)
    (h : y.lt z = true) : x.lt z = true := by
  obtain ⟨hy, hz⟩ := isNaN_of_lt h
  rw [lt_iff hy hz] at h
  rw [lt_iff hx hz]
  exact hle.trans_lt h

theorem value_nonpos_of_negative (h : x.negative = true) : x.value ≤ 0 := by
  rw [value, if_pos h, neg_div]
  exact neg_nonpos.2 (div_nonneg (Nat.cast_nonneg _) unitsPerOne_cast_pos.le)

theorem value_zero : zero.value = 0 := by
  have hunits : zero.units = 0 := by decide
  simp [value, hunits]

theorem value_one : one.value = 1 := by
  have hunits : one.units = unitsPerOne := by decide
  have hsign : one.negative = false := by decide
  rw [value, hsign, hunits, if_neg Bool.false_ne_true, div_self unitsPerOne_cast_pos.ne']

theorem isNaN_of_isFinite (h : x.isFinite = true) : x.isNaN = false := by
  simp only [isFinite, isNaN, decide_eq_true_eq, decide_eq_false_iff_not] at h ⊢
  omega

theorem bits_ofMagnitude (h : m < signBit) : (ofMagnitude false m).bits.toNat = m :=
  UInt64.toNat_ofNat_of_lt' (Nat.lt_trans h (by decide))

theorem negative_ofMagnitude (h : m < signBit) : (ofMagnitude false m).negative = false := by
  rw [negative, bits_ofMagnitude h]
  exact decide_eq_false (Nat.not_le.2 h)

theorem magnitude_ofMagnitude {sign : Bool} (h : m < signBit) :
    (ofMagnitude sign m).magnitude = m := by
  cases sign with
  | false => rw [magnitude, bits_ofMagnitude h, Nat.mod_eq_of_lt h]
  | true =>
    have hlt : m + signBit < UInt64.size := by
      have hsize : signBit + signBit = UInt64.size := by decide
      omega
    have hbits : (ofMagnitude true m).bits.toNat = m + signBit := UInt64.toNat_ofNat_of_lt' hlt
    rw [magnitude, hbits, Nat.add_mod_right, Nat.mod_eq_of_lt h]

theorem value_ofMagnitude (h : m < signBit) :
    (ofMagnitude false m).value = unitsAt m / unitsPerOne := by
  rw [value, negative_ofMagnitude h, units_eq, magnitude_ofMagnitude h]
  rfl

theorem infinityBits_lt_signBit : infinityBits < signBit := by decide

theorem nearest_le (num den : Nat) : nearest num den ≤ infinityBits := by
  unfold nearest
  exact Nat.min_le_left _ _

theorem negative_ofInt {i : Int} (h : 0 ≤ i) : (ofInt i).negative = false := by
  have hsign : decide (i < 0) = false := decide_eq_false (Int.not_lt.2 h)
  rw [ofInt, hsign]
  exact negative_ofMagnitude ((nearest_le _ _).trans_lt infinityBits_lt_signBit)

/-- What fits the significand on a scale up to that of `2 ^ 64` is finite. -/
theorem lt_infinityBits {r scale : Nat} (h : unitsAt m = r * 2 ^ scale)
    (hscale : scale ≤ unitExponent + 64) (hr : r ≤ 2 * fractions) : m < infinityBits := by
  obtain ⟨largest, top, hinfinity, htop, hlow⟩ := exists_scale infinityBits
  have hlargest : scale + 1 < largest := by
    rw [infinityBits, fractions] at hinfinity
    rw [fractions] at htop
    rw [unitExponent] at hscale
    omega
  have htop : fractions ≤ top := hlow.resolve_left (by omega)
  rw [← unitsAt_strictMono.lt_iff_lt, h, hinfinity, unitsAt_eq (by omega) (.inr htop)]
  calc r * 2 ^ scale ≤ 2 * fractions * 2 ^ scale := Nat.mul_le_mul_right _ hr
    _ = fractions * 2 ^ (scale + 1) := by
      rw [Nat.pow_succ]
      ring
    _ < fractions * 2 ^ largest :=
      Nat.mul_lt_mul_of_pos_left (Nat.pow_lt_pow_right Nat.one_lt_two hlargest) fractions_pos
    _ ≤ top * 2 ^ largest := Nat.mul_le_mul_right _ htop

/-! ## Natural numbers and their quotients -/

/-- The magnitude of a natural number that fits the significand. -/
theorem exists_unitsAt_eq_mul (hn : n ≤ 2 * fractions) :
    ∃ m, unitsAt m = n * unitsPerOne ∧ m < infinityBits := by
  obtain ⟨m, hm⟩ := exists_unitsAt_eq unitExponent hn
  exact ⟨m, by rw [hm, unitsPerOne_eq], lt_infinityBits hm (Nat.le_add_right _ _) hn⟩

theorem ofNat_eq (hn : n ≤ 2 * fractions) :
    ∃ m, ofNat n = ofMagnitude false m ∧ unitsAt m = n * unitsPerOne ∧ m < infinityBits := by
  obtain ⟨m, hm, hfinite⟩ := exists_unitsAt_eq_mul hn
  refine ⟨m, ?_, hm, hfinite⟩
  rw [ofNat, ofRatio, ← hm, ← Nat.mul_one (unitsAt m), nearest_unitsAt Nat.one_pos hfinite.le]

/-- A natural number that fits the significand is a double. -/
theorem value_ofNat (hn : n ≤ 2 * fractions) : (ofNat n).value = n := by
  obtain ⟨m, heq, hm, hfinite⟩ := ofNat_eq hn
  rw [heq, value_ofMagnitude (hfinite.trans infinityBits_lt_signBit), hm, Nat.cast_mul]
  exact mul_div_cancel_right₀ _ unitsPerOne_cast_pos.ne'

theorem isFinite_ofMagnitude {sign : Bool} (h : m < infinityBits) :
    (ofMagnitude sign m).isFinite = true := by
  rw [isFinite, magnitude_ofMagnitude (h.trans infinityBits_lt_signBit)]
  exact decide_eq_true h

theorem isFinite_ofNat (hn : n ≤ 2 * fractions) : (ofNat n).isFinite = true := by
  obtain ⟨m, heq, -, hfinite⟩ := ofNat_eq hn
  rw [heq]
  exact isFinite_ofMagnitude hfinite

/-- What does not exceed a power of two up to `2 ^ 64` is not rounded to more. -/
theorem nearest_of_le (hk : k ≤ 64) (hden : 0 < den) (h : num ≤ 2 ^ k * unitsPerOne * den) :
    nearest num den < infinityBits ∧ unitsAt (nearest num den) ≤ 2 ^ k * unitsPerOne := by
  have hfits : 1 ≤ 2 * fractions := by decide
  obtain ⟨top, htop⟩ := exists_unitsAt_eq (unitExponent + k) hfits
  have hfinite := lt_infinityBits htop (by omega) hfits
  have hunits : unitsAt top = 2 ^ k * unitsPerOne := by
    rw [htop, unitsPerOne_eq, Nat.one_mul, pow_add 2 unitExponent k, Nat.mul_comm]
  have hle : nearest num den ≤ top := by
    rw [← nearest_unitsAt Nat.one_pos hfinite.le, hunits]
    exact nearest_mono hden Nat.one_pos (by rwa [Nat.mul_one, Nat.mul_one])
  exact ⟨hle.trans_lt hfinite, hunits ▸ unitsAt_strictMono.monotone hle⟩

/-- Multiplying a natural number of 64 bits by one does not make it infinite. -/
theorem isInfinite_mul_one (hn : n ≤ 2 ^ 64) : ((ofNat n).mul (ofNat 1)).isInfinite = false := by
  obtain ⟨m, heq, hm, hfinite⟩ := ofNat_eq (show 1 ≤ 2 * fractions by decide)
  have hnear : nearest (n * unitsPerOne) 1 < infinityBits := by
    refine (nearest_of_le (Nat.le_refl 64) Nat.one_pos ?_).1
    rw [Nat.mul_one]
    exact Nat.mul_le_mul_right _ hn
  rw [Nat.one_mul] at hm
  have hsame : nearest (unitsAt (nearest (n * unitsPerOne) 1) * unitsPerOne) unitsPerOne =
      nearest (n * unitsPerOne) 1 := nearest_unitsAt unitsPerOne_pos hnear.le
  have hsign := hnear.trans infinityBits_lt_signBit
  have hsign' := hfinite.trans infinityBits_lt_signBit
  rw [heq, mul, ofNat, ofRatio, units_eq, units_eq, magnitude_ofMagnitude hsign,
    magnitude_ofMagnitude hsign', hm, hsame, isInfinite, magnitude_ofMagnitude hsign]
  exact decide_eq_false hnear.ne

/-- A thousandth of an integer of 57 bits is finite and not too large. -/
theorem div_ofNat_thousand {i : Int} (hi : i.natAbs ≤ 2 ^ 57) :
    ((ofInt i).div (ofNat 1000)).isFinite = true ∧
      ((ofInt i).div (ofNat 1000)).units ≤ 2 ^ 48 * unitsPerOne := by
  obtain ⟨m, heq, hm, hfinite⟩ := ofNat_eq (show 1000 ≤ 2 * fractions by decide)
  have hsign := hfinite.trans infinityBits_lt_signBit
  have hpart : i.natAbs * unitsPerOne ≤ 2 ^ 57 * unitsPerOne * 1 := by
    rw [Nat.mul_one]
    exact Nat.mul_le_mul_right _ hi
  obtain ⟨hnear, hunits⟩ := nearest_of_le (by decide) Nat.one_pos hpart
  have hsign' := hnear.trans infinityBits_lt_signBit
  have hquotient : unitsAt (nearest (i.natAbs * unitsPerOne) 1) * unitsPerOne ≤
      2 ^ 48 * unitsPerOne * (1000 * unitsPerOne) := by
    calc unitsAt (nearest (i.natAbs * unitsPerOne) 1) * unitsPerOne
        ≤ 2 ^ 57 * unitsPerOne * unitsPerOne := Nat.mul_le_mul_right _ hunits
      _ ≤ 2 ^ 48 * 1000 * unitsPerOne * unitsPerOne :=
        Nat.mul_le_mul_right _ (Nat.mul_le_mul_right _ (by decide))
      _ = 2 ^ 48 * unitsPerOne * (1000 * unitsPerOne) := by ring
  obtain ⟨hfinite', hunits'⟩ :=
    nearest_of_le (by decide) (Nat.mul_pos (by decide) unitsPerOne_pos) hquotient
  rw [heq, ofInt, ofRatio, div, units_eq, units_eq, magnitude_ofMagnitude hsign,
    magnitude_ofMagnitude hsign', hm]
  refine ⟨isFinite_ofMagnitude hfinite', ?_⟩
  rw [units_eq, magnitude_ofMagnitude (hfinite'.trans infinityBits_lt_signBit)]
  exact hunits'

/-- A probability is finite and does not exceed one. -/
theorem units_le_of_isProbability (h : x.isProbability = true) :
    x.isFinite = true ∧ x.units ≤ unitsPerOne := by
  simp only [isProbability, le, Bool.and_eq_true, decide_eq_true_eq] at h
  obtain ⟨⟨-, hzero⟩, -, hone⟩ := h
  have hkeys : zero.key = 0 ∧ one.key = one.magnitude := by decide
  have hmagnitude : x.magnitude ≤ one.magnitude := by
    rw [hkeys.1, key] at hzero
    rw [hkeys.2, key] at hone
    by_cases hx : x.negative = true
    · rw [if_pos hx] at hzero
      omega
    · rw [if_neg hx] at hone
      omega
  have hunits : unitsAt one.magnitude = unitsPerOne := by decide
  have hlt : one.magnitude < infinityBits := by decide
  refine ⟨decide_eq_true (hmagnitude.trans_lt hlt), ?_⟩
  rw [units_eq, ← hunits]
  exact unitsAt_strictMono.monotone hmagnitude

/-- Dividing two natural numbers that fit the significand rounds once. -/
theorem div_ofNat (hk : k ≤ 2 * fractions) (hn : n ≤ 2 * fractions) (hpos : 0 < n) :
    (ofNat k).div (ofNat n) = ofRatio false k n := by
  obtain ⟨m, heq, hm, hfinite⟩ := ofNat_eq hk
  obtain ⟨m', heq', hm', hfinite'⟩ := ofNat_eq hn
  have hsign := hfinite.trans infinityBits_lt_signBit
  have hsign' := hfinite'.trans infinityBits_lt_signBit
  have hunits := unitsPerOne_pos
  rw [heq, heq', div, ofRatio, negative_ofMagnitude hsign, negative_ofMagnitude hsign', units_eq,
    units_eq, magnitude_ofMagnitude hsign, magnitude_ofMagnitude hsign', hm, hm', bne_self_eq_false,
    nearest_congr (Nat.mul_pos hpos hunits) hpos]
  rw [Nat.mul_assoc, Nat.mul_comm unitsPerOne n, Nat.mul_assoc]

/-- A double is the one nearest to a number, and the even one if another is as near. -/
structure RoundsTo (q : ℚ) (x : Binary64) : Prop where
  finite : x.isFinite = true
  nearest : ∀ y : Binary64, y.isFinite = true → |q - x.value| ≤ |q - y.value|
  even : ∀ y : Binary64, y.isFinite = true → |q - y.value| = |q - x.value| →
    y.value = x.value ∨ x.bits.toNat % 2 = 0

/-- The distance from a quotient to a magnitude, counted in parts of a unit. -/
theorem abs_quotient_sub (hpos : 0 < n) (k m : Nat) :
    |(k : ℚ) / n - unitsAt m / unitsPerOne| =
      (|((k * unitsPerOne : Nat) : ℤ) - unitsAt m * n| : ℤ) / (n * unitsPerOne : ℚ) := by
  have hn : (0 : ℚ) < n := Nat.cast_pos.2 hpos
  have hunits := unitsPerOne_cast_pos
  rw [div_sub_div _ _ hn.ne' hunits.ne', abs_div, abs_of_pos (mul_pos hn hunits), Int.cast_abs]
  push_cast
  rw [mul_comm (n : ℚ) (unitsAt m)]

theorem rounded_lt_infinityBits (hk : k ≤ n) (hpos : 0 < n) :
    rounded (k * unitsPerOne) n < infinityBits := by
  obtain ⟨m, hm, hfinite⟩ := exists_unitsAt_eq_mul (n := 1) (by decide)
  refine lt_of_le_of_lt ?_ hfinite
  rw [← rounded_unitsAt Nat.one_pos m, hm, Nat.one_mul]
  refine rounded_mono hpos Nat.one_pos ?_
  rw [Nat.mul_one, Nat.mul_one, Nat.mul_comm]
  exact Nat.mul_le_mul_left _ hk

theorem ofRatio_eq (hk : k ≤ n) (hpos : 0 < n) :
    ofRatio false k n = ofMagnitude false (rounded (k * unitsPerOne) n) := by
  rw [ofRatio, nearest_eq, Nat.min_eq_right (rounded_lt_infinityBits hk hpos).le]

/-- For a number that is not negative, a negative double is no nearer than zero. -/
theorem exists_nearer_magnitude (hq : 0 ≤ q) (y : Binary64) :
    ∃ m, |q - unitsAt m / unitsPerOne| ≤ |q - y.value| ∧
      (|q - y.value| ≤ |q - unitsAt m / unitsPerOne| → y.value = unitsAt m / unitsPerOne) := by
  have hunits : (0 : ℚ) ≤ y.units / unitsPerOne :=
    div_nonneg (Nat.cast_nonneg _) unitsPerOne_cast_pos.le
  cases hy : y.negative with
  | false =>
    have hvalue : y.value = unitsAt y.magnitude / unitsPerOne := by
      rw [value, hy]
      rfl
    exact ⟨y.magnitude, by rw [hvalue], fun _ => hvalue⟩
  | true =>
    have hvalue : y.value = -(y.units / unitsPerOne : ℚ) := by
      rw [value, hy, if_pos rfl, neg_div]
    have hzero : (unitsAt 0 : ℚ) / unitsPerOne = 0 := by
      rw [unitsAt_eq_zero.2 rfl, Nat.cast_zero, zero_div]
    refine ⟨0, ?_⟩
    rw [hvalue, hzero, sub_zero, sub_neg_eq_add, abs_of_nonneg hq,
      abs_of_nonneg (add_nonneg hq hunits)]
    exact ⟨by linarith, fun hle => by linarith⟩

/-- A quotient that does not exceed one is rounded to the nearest double. -/
theorem roundsTo_ofRatio (hk : k ≤ n) (hpos : 0 < n) :
    RoundsTo ((k : ℚ) / n) (ofRatio false k n) := by
  have hfinite := rounded_lt_infinityBits hk hpos
  have hsign := hfinite.trans infinityBits_lt_signBit
  rw [ofRatio_eq hk hpos]
  generalize hm : rounded (k * unitsPerOne) n = m at hfinite hsign
  have hparts : (0 : ℚ) < n * unitsPerOne := mul_pos (Nat.cast_pos.2 hpos) unitsPerOne_cast_pos
  have hnearest : ∀ m', |(k : ℚ) / n - unitsAt m / unitsPerOne| ≤
      |(k : ℚ) / n - unitsAt m' / unitsPerOne| := by
    intro m'
    rw [abs_quotient_sub hpos, abs_quotient_sub hpos, div_le_div_iff_of_pos_right hparts,
      Int.cast_le, ← hm]
    exact (rounded_nearest _ hpos m').1
  have htie : ∀ m', |(k : ℚ) / n - unitsAt m' / unitsPerOne| =
      |(k : ℚ) / n - unitsAt m / unitsPerOne| → m' = m ∨ m % 2 = 0 := by
    intro m'
    rw [abs_quotient_sub hpos, abs_quotient_sub hpos, div_left_inj' hparts.ne', Int.cast_inj, ← hm]
    exact (rounded_nearest _ hpos m').2
  have hquotient : (0 : ℚ) ≤ k / n := div_nonneg (Nat.cast_nonneg k) (Nat.cast_nonneg n)
  constructor
  · exact isFinite_ofMagnitude hfinite
  · intro y _
    obtain ⟨m', hle, -⟩ := exists_nearer_magnitude hquotient y
    rw [value_ofMagnitude hsign]
    exact (hnearest m').trans hle
  · intro y _ heq
    obtain ⟨m', hle, hsame⟩ := exists_nearer_magnitude hquotient y
    rw [value_ofMagnitude hsign] at heq ⊢
    rw [bits_ofMagnitude hsign]
    refine (htie m' ((hle.trans heq.le).antisymm (hnearest m'))).imp (fun hm' => ?_) id
    rw [hsame (heq.le.trans (hnearest m')), hm']

/-- A greater quotient is not rounded to less. -/
theorem value_ofRatio_mono {k' n' : Nat} (hk : k ≤ n) (hpos : 0 < n) (hk' : k' ≤ n')
    (hpos' : 0 < n') (h : k * n' ≤ k' * n) :
    (ofRatio false k n).value ≤ (ofRatio false k' n').value := by
  have hsign := (rounded_lt_infinityBits hk hpos).trans infinityBits_lt_signBit
  have hsign' := (rounded_lt_infinityBits hk' hpos').trans infinityBits_lt_signBit
  rw [ofRatio_eq hk hpos, ofRatio_eq hk' hpos', value_ofMagnitude hsign, value_ofMagnitude hsign',
    div_le_div_iff_of_pos_right unitsPerOne_cast_pos, Nat.cast_le, unitsAt_strictMono.le_iff_le]
  refine rounded_mono hpos hpos' ?_
  rw [Nat.mul_right_comm, Nat.mul_right_comm k']
  exact Nat.mul_le_mul_right _ h

end Binary64

end Trials
