import Trials.Command.Pool
import Mathlib.Algebra.Ring.Nat

/-!
# Seeds of participants

The seed of a participant's answers is the seed of the participant's order with its halves exchanged
(`SimulationConfig.toNat_answerSeed`).  That is another seed unless the two halves are equal, which
they are for the multiples of `2 ^ 32 + 1` (`SimulationConfig.orderSeed_eq_answerSeed_iff`).  Zero
is one of them, so that the first participant of a pool with seed zero answers from the very words
by which the pages have been ordered.
-/

namespace Trials.SimulationConfig

variable {c : SimulationConfig} {i j : UInt32}

theorem toNat_orderSeed (c : SimulationConfig) (index : UInt32) :
    (c.orderSeed index).toNat = (c.seed.toNat + index.toNat) % 2 ^ 64 := by
  rw [orderSeed, UInt64.toNat_add, UInt32.toNat_toUInt64]

theorem toNat_answerSeed (c : SimulationConfig) (index : UInt32) :
    (c.answerSeed index).toNat =
      2 ^ 32 * ((c.orderSeed index).toNat % 2 ^ 32) + (c.orderSeed index).toNat / 2 ^ 32 := by
  have hlt := (c.orderSeed index).toNat_lt
  have hlow : (c.orderSeed index <<< 32).toNat = 2 ^ 32 * ((c.orderSeed index).toNat % 2 ^ 32) := by
    rw [UInt64.toNat_shiftLeft, Nat.shiftLeft_eq]
    change _ * 2 ^ 32 % 2 ^ 64 = _
    omega
  have hhigh : (c.orderSeed index >>> 32).toNat = (c.orderSeed index).toNat / 2 ^ 32 := by
    rw [UInt64.toNat_shiftRight, Nat.shiftRight_eq_div_pow]
    rfl
  rw [answerSeed, UInt64.toNat_or, hlow, hhigh, ← Nat.two_pow_add_eq_or_of_lt (by omega)]

/-- Order and answers have one seed just if its halves are equal. -/
theorem orderSeed_eq_answerSeed_iff (c : SimulationConfig) (index : UInt32) :
    c.orderSeed index = c.answerSeed index ↔ 2 ^ 32 + 1 ∣ (c.orderSeed index).toNat := by
  have hlt := (c.orderSeed index).toNat_lt
  rw [← UInt64.toNat_inj, toNat_answerSeed]
  omega

/-- Multiples of `2 ^ 32 + 1` are farther apart than the seeds of a pool, except for the last one
and zero, at which the seeds begin again. -/
theorem orderSeed_eq_zero_of_dvd (hij : i < j) (hi : 2 ^ 32 + 1 ∣ (c.orderSeed i).toNat)
    (hj : 2 ^ 32 + 1 ∣ (c.orderSeed j).toNat) : j = i + 1 ∧ c.orderSeed j = 0 := by
  have hlt := UInt32.lt_iff_toNat_lt.1 hij
  have hjlt := j.toNat_lt
  obtain ⟨a, ha⟩ := hi
  obtain ⟨b, hb⟩ := hj
  rw [toNat_orderSeed] at ha hb
  have hstep : (2 ^ 32 + 1) * b = (2 ^ 32 + 1) * a + (j.toNat - i.toNat) ∨
      (2 ^ 32 + 1) * b + 2 ^ 64 = (2 ^ 32 + 1) * a + (j.toNat - i.toNat) := by omega
  have hnext : j.toNat = i.toNat + 1 ∧ (c.seed.toNat + j.toNat) % 2 ^ 64 = 0 := by
    rcases hstep with hstep | hstep <;> omega
  constructor
  · rw [← UInt32.toNat_inj, UInt32.toNat_add, hnext.1]
    change _ = (i.toNat + 1) % 2 ^ 32
    omega
  · rw [← UInt64.toNat_inj, toNat_orderSeed, hnext.2]
    rfl

/-- Participants answer from another seed than that of their order unless the halves of that seed
are equal.  Within a pool this befalls one participant at most, or two in succession where the seeds
begin again at zero. -/
theorem seeds_agree_at_equal_halves (c : SimulationConfig) :
    (∀ index : UInt32, c.orderSeed index = c.answerSeed index ↔
      (c.orderSeed index).toNat % 2 ^ 32 = (c.orderSeed index).toNat / 2 ^ 32) ∧
    ∀ i j : UInt32, i < j → c.orderSeed i = c.answerSeed i → c.orderSeed j = c.answerSeed j →
      j = i + 1 ∧ c.orderSeed j = 0 := by
  constructor
  · intro index
    have hlt := (c.orderSeed index).toNat_lt
    rw [orderSeed_eq_answerSeed_iff]
    omega
  · intro i j hij hi hj
    exact orderSeed_eq_zero_of_dvd hij ((orderSeed_eq_answerSeed_iff c i).1 hi)
      ((orderSeed_eq_answerSeed_iff c j).1 hj)

/-- The pool of one participant when nothing else is said about it. -/
def unseeded : SimulationConfig where
  participants := 1
  versions := 1
  permutations := 1
  seed := 0
  correctRate := Pool.defaultRate
  window := defaultWindow
  maxPages := some Pool.defaultPages

/-- Both participants of a pool answer from the seeds of their orders if the seeds begin again
between them. -/
theorem seeds_agree_around_zero :
    let c := { unseeded with participants := 2, seed := 0xFFFFFFFFFFFFFFFF }
    c.orderSeed 0 = c.answerSeed 0 ∧ c.orderSeed 1 = c.answerSeed 1 ∧ c.orderSeed 1 = 0 := by
  intro c
  have hfirst : c.orderSeed 0 = c.answerSeed 0 := by decide
  have hsecond : c.orderSeed 1 = c.answerSeed 1 := by decide
  obtain ⟨-, hzero⟩ := (seeds_agree_at_equal_halves c).2 0 1 (by decide) hfirst hsecond
  exact ⟨hfirst, hsecond, hzero⟩

/-- Not all participants answer from another seed: the first one of a pool for which no seed is
given does not. -/
theorem not_seeds_differ :
    Pool.parse? ["run", "script.json", "--participants", "1"] =
        some (.run "script.json" unseeded none) ∧
      ¬ ∀ (c : SimulationConfig) (index : UInt32), c.fault? = none → index < c.participants →
        c.orderSeed index ≠ c.answerSeed index := by
  refine ⟨rfl, fun h => ?_⟩
  exact h unseeded 0 (by decide +kernel) (by decide) (by decide)

end Trials.SimulationConfig
