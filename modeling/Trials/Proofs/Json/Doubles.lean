import Trials.Proofs.Json.Tokens
import Trials.Proofs.Number.Shortest

/-!
# Written doubles

A double is written as a numeral with a point or an exponent (`Json.toList_doubleText`).  Below
`10 ^ 15` the digits before the point are few and the exponent is not positive, so that a reader has
nothing to scale up: it makes a number of what is written (`Json.exists_number?_doubleNumeral`),
though not always the same one.
-/

namespace Trials

namespace Decimal

variable {d : Decimal}

theorem isDigit_digitChars : ∀ c ∈ d.digitChars, c.isDigit = true := fun _ => isDigit_toDigits

theorem exists_digitChars (h : d.digits ≠ 0) :
    ∃ c cs, d.digitChars = c :: cs ∧ c ≠ '0' ∧ ∀ c ∈ cs, c.isDigit = true := by
  obtain ⟨c, cs, hdigits, -⟩ := exists_toDigits d.digits
  refine ⟨c, cs, hdigits, ?_, fun c hc => ?_⟩
  · rintro rfl
    cases cs with
    | nil =>
      have hvalue := foldl_toDigits d.digits
      rw [hdigits] at hvalue
      exact h hvalue.symm
    | cons x xs => exact toDigits_ne_zero_cons d.digits x xs hdigits
  · exact isDigit_digitChars c (by rw [digitChars, hdigits]; exact List.mem_cons_of_mem _ hc)

end Decimal

namespace Json

variable {x : Binary64}

/-- The numeral that a double is written as. -/
def doubleNumeral (x : Binary64) : Numeral :=
  let d := x.shortest .even
  let cs := d.digitChars
  if d.digits = 0 then ⟨x.negative, ['0'], ['0'], none⟩
  else if d.leading < -5 ∨ 15 < d.leading then ⟨x.negative, cs.take 1, cs.drop 1, some d.leading⟩
  else if 0 ≤ d.exponent then
    ⟨x.negative, cs ++ List.replicate d.exponent.toNat '0', ['0'], none⟩
  else if 0 ≤ d.leading then
    ⟨x.negative, cs.take (d.leading + 1).toNat, cs.drop (d.leading + 1).toNat, none⟩
  else ⟨x.negative, ['0'], List.replicate (-d.leading - 1).toNat '0' ++ cs, none⟩

theorem fractionChars_of_ne_nil {fraction : List Char} (h : fraction ≠ []) :
    Numeral.fractionChars fraction = '.' :: fraction := if_neg h

theorem toList_scientific {d : Decimal} (h : d.digits ≠ 0) : d.scientific.toList =
    d.digitChars.take 1 ++ (Numeral.fractionChars (d.digitChars.drop 1) ++
      Numeral.exponentChars (some d.leading)) := by
  obtain ⟨c, cs, hcs, -, -⟩ := Decimal.exists_digitChars h
  rw [Decimal.scientific, hcs]
  cases cs with
  | nil => simp [Numeral.fractionChars, Numeral.exponentChars]
  | cons c' cs => simp [Numeral.fractionChars, Numeral.exponentChars]

/-- There are digits after the point. -/
theorem drop_digitChars_ne_nil {d : Decimal} (h : d.exponent < 0) :
    d.digitChars.drop (d.leading + 1).toNat ≠ [] := by
  have hpos : 0 < d.digitChars.length := Nat.length_toDigits_pos
  rw [← List.length_pos_iff, List.length_drop, Decimal.leading]
  omega

/-- A double is written as a numeral. -/
theorem toList_doubleText (x : Binary64) : (doubleText x).toList = (doubleNumeral x).chars := by
  have hsign : (if x.negative = true then "-" else "").toList =
      if x.negative = true then ['-'] else [] := by
    split <;> rfl
  unfold doubleText doubleNumeral
  dsimp only
  generalize (if x.negative = true then "-" else "") = sign at hsign
  generalize x.shortest .even = d
  split_ifs with hzero hfar hwhole hleading
  · simp [Numeral.chars, hsign, Numeral.fractionChars, Numeral.exponentChars]
  · rw [String.toList_append, toList_scientific hzero, hsign]
    rfl
  · have hpositional : d.positional.toList =
        d.digitChars ++ List.replicate d.exponent.toNat '0' := by
      rw [Decimal.positional, if_pos hwhole, String.toList_ofList]
    simp [Numeral.chars, hsign, hpositional, Numeral.fractionChars, Numeral.exponentChars]
  · have hpositional : d.positional.toList =
        d.digitChars.take (d.leading + 1).toNat ++
          '.' :: d.digitChars.drop (d.leading + 1).toNat := by
      rw [Decimal.positional, if_neg hwhole, if_pos hleading, String.toList_ofList]
    have hfraction := fractionChars_of_ne_nil (drop_digitChars_ne_nil (not_le.1 hwhole))
    simp [Numeral.chars, hsign, hpositional, hfraction, Numeral.exponentChars]
  · have hpositional : d.positional.toList =
        '0' :: '.' :: (List.replicate (-d.leading - 1).toNat '0' ++ d.digitChars) := by
      rw [Decimal.positional, if_neg hwhole, if_neg hleading, String.toList_ofList]
      rfl
    generalize (-d.leading - 1).toNat = zeros at hpositional
    have hfraction : List.replicate zeros '0' ++ d.digitChars ≠ [] :=
      List.append_ne_nil_of_right_ne_nil _ Nat.toDigits_ne_nil
    simp [Numeral.chars, hsign, hpositional, fractionChars_of_ne_nil hfraction,
      Numeral.exponentChars]

theorem isDigit_replicate (n : Nat) : ∀ c ∈ List.replicate n '0', c.isDigit = true := by
  intro c hc
  rw [List.eq_of_mem_replicate hc]
  rfl

/-- A numeral whose first digit is not zero. -/
theorem wellFormed_of_head? {n : Numeral} {c : Char} (hwhole : n.whole.head? = some c)
    (hc : c ≠ '0') (hdigits : ∀ c ∈ n.whole, c.isDigit = true)
    (hfraction : ∀ c ∈ n.fraction, c.isDigit = true) : n.WellFormed where
  nonempty := by
    rintro hnil
    rw [hnil] at hwhole
    cases hwhole
  whole := hdigits
  fraction := hfraction
  noZero := by
    rintro d ds heq
    rw [heq] at hwhole
    exact hc (Option.some.inj hwhole).symm

theorem wellFormed_doubleNumeral (x : Binary64) : (doubleNumeral x).WellFormed := by
  unfold doubleNumeral
  dsimp only
  generalize x.shortest .even = d
  have hdigits := Decimal.isDigit_digitChars (d := d)
  split_ifs with hzero hfar hwhole hleading
  · exact ⟨by simp, by simp, by simp, by simp⟩
  · obtain ⟨c, cs, hcs, hc, -⟩ := Decimal.exists_digitChars hzero
    refine wellFormed_of_head? ?_ hc ?_ ?_
    · rw [hcs]
      rfl
    · exact fun c hc => hdigits c (List.mem_of_mem_take hc)
    · exact fun c hc => hdigits c (List.mem_of_mem_drop hc)
  · obtain ⟨c, cs, hcs, hc, -⟩ := Decimal.exists_digitChars hzero
    refine wellFormed_of_head? ?_ hc ?_ ?_
    · rw [hcs]
      rfl
    · exact fun c hc => (List.mem_append.1 hc).elim (hdigits c) (isDigit_replicate _ c)
    · simp
  · obtain ⟨c, cs, hcs, hc, -⟩ := Decimal.exists_digitChars hzero
    refine wellFormed_of_head? ?_ hc ?_ ?_
    · have hsucc : (d.leading + 1).toNat = d.leading.toNat + 1 := by omega
      rw [hcs, hsucc]
      rfl
    · exact fun c hc => hdigits c (List.mem_of_mem_take hc)
    · exact fun c hc => hdigits c (List.mem_of_mem_drop hc)
  · refine ⟨by simp, by simp, fun c hc => ?_, by simp⟩
    exact (List.mem_append.1 hc).elim (isDigit_replicate _ c) (hdigits c)

/-! ## Reading -/

namespace Numeral

/-- Digits that fit are all taken. -/
theorem takeFitting_eq {acc : Nat} (k : Nat) {cs : List Char}
    (hcs : ∀ c ∈ cs, c.isDigit = true) (hacc : acc < 10 ^ k) (hk : k + cs.length ≤ 19) : (takeFitting acc cs).2 = [] := by
  induction cs generalizing acc k with
  | nil => rfl
  | cons c cs ih =>
    obtain ⟨hc, hcs⟩ := List.forall_mem_cons.1 hcs
    rw [List.length_cons] at hk
    have hdigit : digitValue c ≤ 9 := by
      have hrange := toNat_of_isDigit hc
      have hzero : '0'.toNat = 48 := rfl
      rw [digitValue]
      omega
    have hnext : acc * 10 + digitValue c < 10 ^ (k + 1) := by
      rw [Nat.pow_succ]
      omega
    have hfits : acc * 10 + digitValue c ≤ maxUnsigned := by
      have hpow : 10 ^ (k + 1) ≤ 10 ^ 19 := Nat.pow_le_pow_right (by decide) (by omega)
      have hmax : 10 ^ 19 ≤ maxUnsigned := by decide
      omega
    rw [takeFitting, if_pos hfits]
    exact ih (k + 1) hcs hnext (by omega)

theorem takeFitting_le {acc : Nat} (cs : List Char) (hacc : acc ≤ maxUnsigned) :
    (takeFitting acc cs).1 ≤ maxUnsigned ∧ (takeFitting acc cs).2.length ≤ cs.length := by
  induction cs generalizing acc with
  | nil => exact ⟨hacc, Nat.le_refl _⟩
  | cons c cs ih =>
    rw [takeFitting]
    split
    next hfits => exact ⟨(ih hfits).1, Nat.le_succ_of_le (ih hfits).2⟩
    next => exact ⟨hacc, Nat.le_refl _⟩

theorem exists_scaleByTen_of_neg (x : Binary64) {e : Int} (he : e < 0) :
    ∃ y, scaleByTen x e = some y := by
  induction hn : e.natAbs using Nat.strongRecOn generalizing x e with
  | ind n ih =>
    rw [scaleByTen]
    split
    next => exact ⟨_, if_neg (by omega)⟩
    next hlarge =>
      split
      next => exact ⟨x, rfl⟩
      next =>
        rw [if_neg (by omega)]
        exact ih (e + 308).natAbs (by omega) _ (by omega) rfl

theorem exists_scaleByTen {m : Nat} (hm : m ≤ maxUnsigned) {e : Int} (he : e ≤ 0) :
    ∃ y, scaleByTen (.ofNat m) e = some y := by
  obtain hneg | rfl := Int.le_iff_lt_or_eq.1 he
  · exact exists_scaleByTen_of_neg _ hneg
  · have hmax : maxUnsigned ≤ 2 ^ 64 := by decide
    have hfinite : ((Binary64.ofNat m).mul (powerOfTen 0)).isInfinite = false :=
      Binary64.isInfinite_mul_one (hm.trans hmax)
    rw [scaleByTen, if_pos (by decide), if_pos (by decide)]
    dsimp only [Int.natAbs_zero]
    rw [hfinite]
    exact ⟨_, rfl⟩

/-- A numeral with few digits before the point that is not scaled up stands for a number. -/
theorem exists_number? {n : Numeral} (hn : n.WellFormed) (hlength : n.whole.length ≤ 19)
    (hexponent : n.exponent.getD 0 ≤ 0) : ∃ m, n.number? = some m := by
  have habsolute : ∃ y, n.absolute? = some y := by
    have hdropped : (takeFitting 0 n.whole).2 = [] :=
      takeFitting_eq 0 hn.whole (by decide) (by omega)
    have hwhole := (takeFitting_le n.whole (Nat.zero_le maxUnsigned)).1
    obtain ⟨hfits, hunread⟩ := takeFitting_le n.fraction hwhole
    refine exists_scaleByTen hfits ?_
    rw [hdropped, List.length_nil]
    omega
  obtain ⟨y, hy⟩ := habsolute
  unfold number?
  dsimp only
  rw [hy]
  split_ifs
  · exact ⟨_, rfl⟩
  · exact ⟨_, rfl⟩
  · exact ⟨_, rfl⟩
  · exact ⟨_, rfl⟩

end Numeral

/-- A double below `10 ^ 15` is written as a numeral that stands for a number. -/
theorem exists_number?_doubleNumeral (h : x.units < 10 ^ 15 * Binary64.unitsPerOne) :
    ∃ m, (doubleNumeral x).number? = some m := by
  have hleading := Binary64.leading_shortest h .even
  have hparts : (doubleNumeral x).whole.length ≤ 19 ∧ (doubleNumeral x).exponent.getD 0 ≤ 0 := by
    unfold doubleNumeral
    dsimp only
    generalize x.shortest .even = d at hleading
    split_ifs with hzero hfar hwhole hplace
    · simp
    · rw [List.length_take, Option.getD_some]
      omega
    · rw [Decimal.leading] at hleading
      rw [List.length_append, List.length_replicate, Option.getD_none]
      omega
    · rw [List.length_take, Option.getD_none]
      omega
    · simp
  exact Numeral.exists_number? (wellFormed_doubleNumeral x) hparts.1 hparts.2

end Json

end Trials
