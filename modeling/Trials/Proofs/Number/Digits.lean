import Mathlib.Data.Nat.Digits.Defs

/-!
# Decimal digits

A natural number is written with its decimal digits, which say what it is (`foldl_toDigits`).  They
do not begin with a superfluous zero (`toDigits_ne_zero_cons`), so that readers that refuse such
zeros accept them.
-/

namespace Trials

variable {c : Char} {n : Nat}

/-- A decimal digit lies between zero and nine. -/
theorem toNat_of_isDigit (h : c.isDigit = true) : 48 ≤ c.toNat ∧ c.toNat ≤ 57 := by
  simp only [Char.isDigit, Bool.and_eq_true, decide_eq_true_eq] at h
  exact ⟨h.1, h.2⟩

theorem isDigit_toDigits (hc : c ∈ Nat.toDigits 10 n) : c.isDigit = true :=
  Nat.isDigit_of_mem_toDigits (by decide) (by decide) hc

theorem exists_toDigits (n : Nat) : ∃ c cs, Nat.toDigits 10 n = c :: cs ∧ c.isDigit = true := by
  obtain ⟨c, cs, hdigits⟩ := List.exists_cons_of_ne_nil (Nat.toDigits_ne_nil (n := n) (b := 10))
  exact ⟨c, cs, hdigits, isDigit_toDigits (n := n) (by simp [hdigits])⟩

/-- No number is written with a zero before other digits. -/
theorem toDigits_ne_zero_cons (n : Nat) (d : Char) (ds : List Char) :
    Nat.toDigits 10 n ≠ '0' :: d :: ds := by
  induction n using Nat.strongRecOn generalizing d ds with
  | ind n ih =>
    intro heq
    obtain hlt | hle := Nat.lt_or_ge n 10
    · rw [Nat.toDigits_of_lt_base hlt] at heq
      simp at heq
    · rw [Nat.toDigits_of_base_le (by decide) hle] at heq
      have hless : n / 10 < n := Nat.div_lt_self (by omega) (by decide)
      have hvalue := Nat.ofDigitChars_toDigits (b := 10) (n := n / 10) (by decide) (by decide)
      cases hquotient : Nat.toDigits 10 (n / 10) with
      | nil => exact Nat.toDigits_ne_nil hquotient
      | cons x xs =>
        rw [hquotient, List.cons_append] at heq
        obtain ⟨rfl, hxs⟩ := List.cons.inj heq
        cases xs with
        | nil =>
          rw [hquotient] at hvalue
          have hzero : n / 10 = 0 := hvalue.symm
          omega
        | cons y ys => exact ih _ hless y ys hquotient

/-- The digits of a number are its value. -/
theorem foldl_toDigits (n : Nat) :
    (Nat.toDigits 10 n).foldl (fun m c => m * 10 + (c.toNat - '0'.toNat)) 0 = n := by
  have hdigits := Nat.ofDigitChars_ten_toDigits (n := n)
  simpa [Nat.ofDigitChars, Nat.mul_comm] using hdigits

end Trials
