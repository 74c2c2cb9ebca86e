import Mathlib.Algebra.Order.Ring.Abs
import Mathlib.Tactic.Ring
import Mathlib.Tactic.SplitIfs
import Trials.Number.Rounding

/-!
# Rounding to the nearest integer

A quotient is rounded up if it lies beyond the middle between two integers, or in the middle after
an odd one (`roundQuotient_eq`).  So no integer is nearer to it than its rounding
(`roundQuotient_nearest`), and a greater quotient is not rounded to less (`roundQuotient_mono`).
-/

namespace Trials

variable {num den num' den' : Nat}

theorem roundQuotient_eq (num den : Nat) :
    roundQuotient num den = num / den +
      if den < 2 * (num % den) ∨ 2 * (num % den) = den ∧ num / den % 2 = 1 then 1 else 0 := by
  unfold roundQuotient
  split
  next hlt =>
    have hlt := Nat.compare_eq_lt.1 hlt
    rw [if_neg (by omega), Nat.add_zero]
  next hgt =>
    have hgt := Nat.compare_eq_gt.1 hgt
    rw [if_pos (.inl hgt)]
  next heq =>
    have heq := Nat.compare_eq_eq.1 heq
    split_ifs <;> omega

/-- A quotient is rounded down or up by half a unit at most, and by half a unit only to an even
integer. -/
theorem roundQuotient_cases (num : Nat) (hden : 0 < den) :
    ∃ rest, (2 * rest < den ∨ 2 * rest = den ∧ roundQuotient num den % 2 = 0) ∧
      (num = roundQuotient num den * den + rest ∨ num + rest = roundQuotient num den * den) := by
  have hdown : num = num / den * den + num % den := by
    rw [Nat.mul_comm]
    exact (Nat.div_add_mod num den).symm
  have hrest : num % den < den := Nat.mod_lt num hden
  rw [roundQuotient_eq]
  split_ifs with hup
  · refine ⟨den - num % den, by omega, .inr ?_⟩
    rw [Nat.add_mul, Nat.one_mul]
    omega
  · exact ⟨num % den, by omega, .inl hdown⟩

/-- No integer is nearer to a quotient than its rounding, and another one is as near only if the
rounding is even. -/
theorem roundQuotient_nearest (num : Nat) (hden : 0 < den) (z : Nat) :
    |(num : ℤ) - roundQuotient num den * den| ≤ |(num : ℤ) - z * den| ∧
      (|(num : ℤ) - z * den| = |(num : ℤ) - roundQuotient num den * den| →
        z = roundQuotient num den ∨ roundQuotient num den % 2 = 0) := by
  obtain ⟨rest, hhalf, hside⟩ := roundQuotient_cases num hden
  generalize roundQuotient num den = r at hhalf hside ⊢
  have hdistance : |(num : ℤ) - r * den| = rest := by
    rcases hside with h | h
    · have hdown : (num : ℤ) - r * den = rest := by
        rw [h]
        push_cast
        ring
      rw [hdown, Nat.abs_cast]
    · have hup : (num : ℤ) - r * den = -rest := by
        have h : (num : ℤ) + rest = r * den := by exact_mod_cast h
        rw [← h]
        ring
      rw [hup, abs_neg, Nat.abs_cast]
  by_cases hz : z = r
  · subst hz
    exact ⟨le_rfl, fun _ => .inl rfl⟩
  · -- another multiple is a whole step away from the rounded one
    have hstep : (den : ℤ) ≤ |(z : ℤ) * den - r * den| := by
      have hone : 1 ≤ |(z : ℤ) - r| := Int.one_le_abs (sub_ne_zero.2 (by exact_mod_cast hz))
      rw [← sub_mul, abs_mul, Nat.abs_cast]
      exact le_mul_of_one_le_left (Int.natCast_nonneg den) hone
    have htriangle : |(z : ℤ) * den - r * den| ≤ |(num : ℤ) - z * den| + rest := by
      rw [← hdistance, abs_sub_comm (num : ℤ)]
      exact abs_sub_le _ _ _
    rw [hdistance]
    rcases hhalf with hlt | ⟨heq, heven⟩
    · exact ⟨by omega, fun hnear => by omega⟩
    · exact ⟨by omega, fun _ => .inr heven⟩

/-- Of two quotients with the same integer part the greater one has the greater rest. -/
theorem mod_mul_le_of_div_eq (h : num * den' ≤ num' * den) (hfloor : num / den = num' / den') :
    num % den * den' ≤ num' % den' * den := by
  have hsplit : num * den' = num / den * (den * den') + num % den * den' := by
    calc num * den' = (den * (num / den) + num % den) * den' := by rw [Nat.div_add_mod]
      _ = num / den * (den * den') + num % den * den' := by ring
  have hsplit' : num' * den = num / den * (den * den') + num' % den' * den := by
    calc num' * den = (den' * (num' / den') + num' % den') * den := by rw [Nat.div_add_mod]
      _ = num / den * (den * den') + num' % den' * den := by
        rw [hfloor]
        ring
  omega

/-- A greater quotient has no smaller integer part. -/
theorem div_le_div_of_mul_le (hden : 0 < den) (hden' : 0 < den') (h : num * den' ≤ num' * den) :
    num / den ≤ num' / den' := by
  rw [Nat.le_div_iff_mul_le hden']
  refine Nat.le_of_mul_le_mul_right ?_ hden
  calc num / den * den' * den = num / den * den * den' := Nat.mul_right_comm _ _ _
    _ ≤ num * den' := Nat.mul_le_mul_right _ (Nat.div_mul_le_self num den)
    _ ≤ num' * den := h

/-- A greater quotient is not rounded to less. -/
theorem roundQuotient_mono (hden : 0 < den) (hden' : 0 < den') (h : num * den' ≤ num' * den) :
    roundQuotient num den ≤ roundQuotient num' den' := by
  rcases (div_le_div_of_mul_le hden hden' h).lt_or_eq with hlt | heq
  · calc roundQuotient num den ≤ num / den + 1 := roundQuotient_le num den
      _ ≤ num' / den' := hlt
      _ ≤ roundQuotient num' den' := div_le_roundQuotient num' den'
  · have hrest : 2 * (num % den) * den' ≤ 2 * (num' % den') * den := by
      rw [Nat.mul_assoc, Nat.mul_assoc]
      exact Nat.mul_le_mul_left 2 (mod_mul_le_of_div_eq h heq)
    have hmiddle : den ≤ 2 * (num % den) → den' ≤ 2 * (num' % den') := by
      intro hup
      refine Nat.le_of_mul_le_mul_right ?_ hden
      rw [Nat.mul_comm den']
      exact (Nat.mul_le_mul_right den' hup).trans hrest
    have hbeyond : den < 2 * (num % den) → den' < 2 * (num' % den') := by
      intro hup
      refine Nat.lt_of_mul_lt_mul_right (a := den) ?_
      rw [Nat.mul_comm den']
      exact (Nat.mul_lt_mul_of_pos_right hup hden').trans_le hrest
    rw [roundQuotient_eq, roundQuotient_eq, heq]
    split_ifs <;> omega

end Trials
