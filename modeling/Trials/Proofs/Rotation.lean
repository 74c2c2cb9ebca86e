import Mathlib.Data.Int.CardIntervalMod
import Mathlib.Order.Interval.Finset.Nat

/-!
# Counting round

From place `k` of `n` places in a round, `i` steps lead to place `(k + i) % n`.  Among `n` numbers
of steps in a row exactly one leads to a given place (`existsUnique_rotation`), so different ones
lead to different places (`rotation_inj`).  Of the first `total` numbers of steps as many as there
are whole rounds lead there, or one more for a round that has been begun (`count_rotation_cases`).
-/

namespace Trials

variable {n j k i i' total : Nat}

/-- Going on by `n - k` steps undoes a move by `k`, so the numbers of steps that lead to a place are
one residue class. -/
theorem rotation_eq_iff (hj : j < n) (hk : k < n) :
    (k + i) % n = j ↔ i ≡ j + (n - k) [MOD n] := by
  have hback : k + (j + (n - k)) ≡ j [MOD n] := by
    have hsum : k + (j + (n - k)) = j + n := by omega
    rw [hsum]
    exact Nat.add_mod_right j n
  have hplace : (k + i) % n = j ↔ k + i ≡ j [MOD n] := by
    rw [Nat.ModEq, Nat.mod_eq_of_lt hj]
  rw [hplace]
  constructor
  · intro hi
    exact Nat.ModEq.add_left_cancel' k (hi.trans hback.symm)
  · intro hi
    exact (hi.add_left k).trans hback

/-- Among `n` numbers of steps in a row different ones lead to different places. -/
theorem rotation_inj {k first : Nat} (hi : first ≤ i ∧ i < first + n)
    (hi' : first ≤ i' ∧ i' < first + n) (heq : (k + i) % n = (k + i') % n) : i = i' := by
  have hmem : k + i ∈ Finset.Ico (k + first) (k + first + n) := by
    rw [Finset.mem_Ico]
    omega
  have hmem' : k + i' ∈ Finset.Ico (k + first) (k + first + n) := by
    rw [Finset.mem_Ico]
    omega
  exact Nat.add_left_cancel (Nat.mod_injOn_Ico (k + first) n hmem hmem' heq)

theorem existsUnique_rotation (hj : j < n) (k first : Nat) :
    ∃! i, (first ≤ i ∧ i < first + n) ∧ (k + i) % n = j := by
  have himage : j ∈ (Finset.Ico (k + first) (k + first + n)).image (· % n) := by
    rw [Nat.image_Ico_mod, Finset.mem_range]
    exact hj
  obtain ⟨x, hx, hplace⟩ := Finset.mem_image.1 himage
  rw [Finset.mem_Ico] at hx
  obtain ⟨i, rfl⟩ : ∃ i, x = k + i := ⟨x - k, by omega⟩
  have hi : first ≤ i ∧ i < first + n := by omega
  exact ⟨i, ⟨hi, hplace⟩, fun _ h => rotation_inj h.1 hi (h.2.trans hplace.symm)⟩

/-- Numbers of steps that fit a word may as well be words. -/
theorem existsUnique_word {P : Nat → Prop} {first : Nat} (hsize : first + n ≤ UInt32.size)
    (h : ∃! i, (first ≤ i ∧ i < first + n) ∧ P i) :
    ∃! v : UInt32, (first ≤ v.toNat ∧ v.toNat < first + n) ∧ P v.toNat := by
  obtain ⟨i, hi, hunique⟩ := h
  have hword : (UInt32.ofNat i).toNat = i := UInt32.toNat_ofNat_of_lt' (by omega)
  refine ⟨UInt32.ofNat i, ?_, fun v hv => ?_⟩
  · show (first ≤ (UInt32.ofNat i).toNat ∧ _) ∧ _
    rwa [hword]
  · rw [← UInt32.toNat_inj, hword]
    exact hunique v.toNat hv

/-! ## How often a place is come to -/

theorem count_rotation_eq (hj : j < n) (hk : k < n) (total : Nat) :
    Nat.count (fun i => (k + i) % n = j) total =
      total / n + if (j + (n - k)) % n < total % n then 1 else 0 := by
  simp only [rotation_eq_iff hj hk]
  exact Nat.count_modEq_card total (Nat.zero_lt_of_lt hj) _

/-- Of a whole number of rounds, as many numbers of steps as there are rounds lead to a place. -/
theorem count_rotation (hj : j < n) (hk : k < n) (hdvd : n ∣ total) :
    Nat.count (fun i => (k + i) % n = j) total = total / n := by
  rw [count_rotation_eq hj hk, Nat.mod_eq_zero_of_dvd hdvd, if_neg (Nat.not_lt_zero _),
    Nat.add_zero]

theorem count_rotation_cases (hj : j < n) (hk : k < n) (total : Nat) :
    Nat.count (fun i => (k + i) % n = j) total = total / n ∨
      Nat.count (fun i => (k + i) % n = j) total = (total + n - 1) / n := by
  rw [count_rotation_eq hj hk]
  split
  next hbegun =>
    right
    have hlt := Nat.mod_lt total (Nat.zero_lt_of_lt hj)
    have hsplit : total + n - 1 = n * (total / n + 1) + (total % n - 1) := by
      have hdivide := Nat.div_add_mod total n
      rw [Nat.mul_add]
      omega
    have hrest : (total % n - 1) / n = 0 := Nat.div_eq_of_lt (by omega)
    rw [hsplit, Nat.mul_add_div (Nat.zero_lt_of_lt hj), hrest]
  · exact .inl rfl

end Trials
