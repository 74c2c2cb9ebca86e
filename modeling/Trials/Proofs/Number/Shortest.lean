import Trials.Number.Shortest
import Trials.Proofs.Number.Binary64
import Trials.Proofs.Number.Digits

/-!
# Shortest decimals are not too long

The leading digit of the shortest decimal of a number below a power of ten has at most this power as
its place (`leading_shortest`): on no grid is the number followed by a decimal of more digits
(`leading_onGrid`), and zeros at the end can be left out without moving the leading digit
(`leading_strip`).
-/

namespace Trials

variable {d : Decimal} {b : Nat}

namespace Decimal

theorem leading_le (he : d.exponent ≤ b) (h : d.digits < 10 ^ (b - d.exponent + 1).toNat) :
    d.leading ≤ b := by
  have hlength := (Nat.length_toDigits_le_iff (b := 10) (by decide) (by omega)).2 h
  rw [leading, digitChars]
  omega

/-- Zeros at the end may be left out. -/
theorem leading_strip (fuel : Nat) (d : Decimal) : (d.strip fuel).leading = d.leading := by
  induction fuel generalizing d with
  | zero => rfl
  | succ fuel ih =>
    rw [strip]
    split
    next h =>
      rw [ih, leading, leading, digitChars, digitChars,
        Nat.toDigits_of_base_le (n := d.digits) (by decide) (by omega), List.length_append]
      simp only [List.length_cons, List.length_nil]
      omega
    next => rfl

end Decimal

namespace Binary64

variable {x : Binary64}

theorem decimalScale_le (h : x.units < 10 ^ b * unitsPerOne) : x.decimalScale ≤ b := by
  unfold decimalScale
  split
  next hone =>
    have hlt : x.units / unitsPerOne < 10 ^ b := (Nat.div_lt_iff_lt_mul unitsPerOne_pos).2 h
    have hpos : b ≠ 0 := by
      rintro rfl
      omega
    exact Int.ofNat_le.2
      ((Nat.length_toDigits_le_iff (by decide) (Nat.pos_of_ne_zero hpos)).2 hlt)
  next =>
    split <;> omega

/-- The neighbours of a number on a grid. -/
theorem onGrid_cases {tie : TieRule} {exponent : Int} (h : x.onGrid tie exponent = some d) :
    d.exponent = exponent ∧ d.digits ≤
      x.units * 10 ^ (-exponent).toNat / (unitsPerOne * 10 ^ exponent.toNat) + 1 := by
  unfold onGrid at h
  dsimp only at h
  split at h
  · cases h
    exact ⟨rfl, Nat.le_succ _⟩
  · cases h
    exact ⟨rfl, Nat.le_refl _⟩
  · cases h
  · split at h
    · cases h
      exact ⟨rfl, Nat.le_succ _⟩
    · cases h
      exact ⟨rfl, Nat.le_refl _⟩
    · split at h
      · cases h
        exact ⟨rfl, Nat.le_refl _⟩
      · split at h
        · cases h
          exact ⟨rfl, Nat.le_succ _⟩
        · cases h
          exact ⟨rfl, Nat.le_refl _⟩

theorem leading_onGrid {tie : TieRule} {exponent : Int} (hx : x.units < 10 ^ b * unitsPerOne)
    (hexponent : exponent ≤ b) (h : x.onGrid tie exponent = some d) : d.leading ≤ b := by
  obtain ⟨rfl, hdigits⟩ := onGrid_cases h
  have hpowers : 10 ^ (b - d.exponent).toNat * (unitsPerOne * 10 ^ d.exponent.toNat) =
      10 ^ b * unitsPerOne * 10 ^ (-d.exponent).toNat := by
    have hsum : (b - d.exponent).toNat + d.exponent.toNat = b + (-d.exponent).toNat := by omega
    calc 10 ^ (b - d.exponent).toNat * (unitsPerOne * 10 ^ d.exponent.toNat)
        = 10 ^ ((b - d.exponent).toNat + d.exponent.toNat) * unitsPerOne := by
          rw [Nat.pow_add]
          ring
      _ = 10 ^ b * unitsPerOne * 10 ^ (-d.exponent).toNat := by
          rw [hsum, Nat.pow_add]
          ring
  have hfloor : x.units * 10 ^ (-d.exponent).toNat / (unitsPerOne * 10 ^ d.exponent.toNat) <
      10 ^ (b - d.exponent).toNat := by
    rw [Nat.div_lt_iff_lt_mul (Nat.mul_pos unitsPerOne_pos (by positivity)), hpowers]
    exact Nat.mul_lt_mul_of_pos_right hx (by positivity)
  refine Decimal.leading_le hexponent ?_
  have hsucc : (b - d.exponent + 1).toNat = (b - d.exponent).toNat + 1 := by omega
  have hpos : 0 < 10 ^ (b - d.exponent).toNat := by positivity
  rw [hsucc, Nat.pow_succ]
  omega

/-- The exact decimal of a number below a power of ten, the unit being a power of one half. -/
theorem leading_exact {units n : Nat} (h : units < 10 ^ b * 2 ^ n) :
    (⟨units * Nat.pow 5 n, -n⟩ : Decimal).leading ≤ b := by
  have hdigits : units * 5 ^ n < 10 ^ (b + n) := by
    calc units * 5 ^ n < 10 ^ b * 2 ^ n * 5 ^ n := Nat.mul_lt_mul_of_pos_right h (by positivity)
      _ = 10 ^ b * (2 * 5) ^ n := by
        rw [Nat.mul_pow]
        ring
      _ = 10 ^ (b + n) := (Nat.pow_add 10 b n).symm
  refine Decimal.leading_le (by dsimp only; omega) ?_
  refine Nat.lt_of_lt_of_le hdigits (Nat.pow_le_pow_right (by decide) ?_)
  dsimp only
  omega

/-- The leading digit of the shortest decimal of a number below a power of ten. -/
theorem leading_shortest (hx : x.units < 10 ^ b * unitsPerOne) (tie : TieRule) :
    (x.shortest tie).leading ≤ b := by
  unfold shortest
  split
  next =>
    show (0 : Int) ≤ b
    omega
  dsimp only
  split
  next d hd =>
    obtain ⟨n, -, hgrid⟩ := List.exists_of_findSome?_eq_some hd
    have hscale := decimalScale_le hx
    rw [Decimal.leading_strip]
    exact leading_onGrid hx (by omega) hgrid
  next =>
    rw [unitsPerOne_eq] at hx
    -- kept as a name, so that the power is not computed
    rw [show (1074 : Nat) = unitExponent from rfl]
    exact leading_exact hx

end Binary64

end Trials
