import Trials.Number.Binary64

/-!
# Shortest decimals

The decimal digits a finite double is written with: the fewest digits that lie among the reals
rounding to that double, and of those the nearest to it.  The search is exact: for `1, 2, …`
digits the two neighbours of the value on that decimal grid are tested against the rounding
interval.  `Decimal.positional` writes the digits without an exponent, `Decimal.scientific` with
one.
-/

namespace Trials

/-- A decimal number `digits * 10 ^ exponent`. -/
structure Decimal where
  /-- The digits, as one natural number. -/
  digits : Nat
  /-- The power of ten that scales the digits. -/
  exponent : Int
deriving DecidableEq

/-- What to do with a value half way between two decimals of the same length. -/
inductive TieRule where
  /-- Take the decimal with an even last digit. -/
  | even
  /-- Take the larger decimal. -/
  | up
deriving DecidableEq

namespace Decimal

/-- The decimal in quarters of a unit (`2 ^ -1076`), over the denominator `10 ^ -exponent` when the
exponent is negative. -/
def quarterUnits (d : Decimal) : Nat × Nat :=
  (d.digits * Nat.pow 10 d.exponent.toNat * (4 * Binary64.unitsPerOne),
    Nat.pow 10 (-d.exponent).toNat)

/-- The decimal without its trailing zeros; `fuel` bounds how many are dropped. -/
def strip : Nat → Decimal → Decimal
  | 0, d => d
  | fuel + 1, d =>
    if d.digits ≠ 0 ∧ d.digits % 10 = 0 then strip fuel ⟨d.digits / 10, d.exponent + 1⟩ else d

/-- The characters of the digits. -/
def digitChars (d : Decimal) : List Char := Nat.toDigits 10 d.digits

/-- The power of ten of the leading digit. -/
def leading (d : Decimal) : Int := d.exponent + d.digitChars.length - 1

/-- The decimal without an exponent: digits, zeros up to the point, a point only before a
fraction. -/
def positional (d : Decimal) : String :=
  let cs := d.digitChars
  if 0 ≤ d.exponent then
    String.ofList (cs ++ List.replicate d.exponent.toNat '0')
  else if 0 ≤ d.leading then
    let whole := (d.leading + 1).toNat
    String.ofList (cs.take whole ++ '.' :: cs.drop whole)
  else
    String.ofList ('0' :: '.' :: List.replicate (-d.leading - 1).toNat '0' ++ cs)

/-- The decimal with one digit before the point and a signed exponent, as in `1.25e+20`. -/
def scientific (d : Decimal) : String :=
  let mantissa := match d.digitChars with
    | [] => []
    | [c] => [c]
    | c :: cs => c :: '.' :: cs
  let sign := if d.leading < 0 then '-' else '+'
  String.ofList (mantissa ++ 'e' :: sign :: Nat.toDigits 10 d.leading.natAbs)

end Decimal

namespace Binary64

/-- Whether a decimal rounds to the finite number `x`: it lies between the half-way points to the
two neighbours, which belong to `x` exactly when its significand is even.  The gap below a power of
two is half the gap above. -/
def readsBack (x : Binary64) (d : Decimal) : Bool :=
  let gap := 1 <<< x.scale
  let below := if x.fraction = 0 ∧ 1 < x.exponent then gap else 2 * gap
  let (num, den) := d.quarterUnits
  let low := (4 * x.units - below) * den
  let high := (4 * x.units + 2 * gap) * den
  if x.significand % 2 = 0 then decide (low ≤ num ∧ num ≤ high) else decide (low < num ∧ num < high)

/-- The number of decimal digits before the point, or minus the number of zeros directly after
it: the least `k` with `|x| < 10 ^ k`, for a finite `x` that is not zero. -/
def decimalScale (x : Binary64) : Int :=
  if unitsPerOne ≤ x.units then (Nat.toDigits 10 (x.units / unitsPerOne)).length
  else
    match (List.range 330).find? fun j => decide (unitsPerOne ≤ x.units * Nat.pow 10 (j + 1)) with
    | some j => -(j : Int)
    | none => -330

/-- The better of the two neighbours of `x` among the multiples of `10 ^ exponent`, if one of them
rounds to `x`. -/
def onGrid (x : Binary64) (tie : TieRule) (exponent : Int) : Option Decimal :=
  let num := x.units * Nat.pow 10 (-exponent).toNat
  let den := unitsPerOne * Nat.pow 10 exponent.toNat
  let floor := num / den
  let low : Decimal := ⟨floor, exponent⟩
  let high : Decimal := ⟨floor + 1, exponent⟩
  match x.readsBack low, x.readsBack high with
  | true, false => some low
  | false, true => some high
  | false, false => none
  | true, true =>
    match compare (2 * (num % den)) den with
    | .lt => some low
    | .gt => some high
    | .eq =>
      match tie with
      | .up => some high
      | .even => if floor % 2 = 0 then some low else some high

/-- The shortest decimal that rounds to `|x|`, the nearest one if several are equally short; zero
has the single digit zero. -/
def shortest (x : Binary64) (tie : TieRule) : Decimal :=
  if x.units = 0 then ⟨0, 0⟩
  else
    let k := x.decimalScale
    match (List.range 17).findSome? fun n => x.onGrid tie (k - (n + 1 : Nat)) with
    | some d => d.strip 20
    | none => ⟨x.units * Nat.pow 5 1074, -1074⟩

/-- The number without an exponent, with the fewest digits that read back: `0.1`, `1`, `-0`. -/
def toPositional (x : Binary64) : String :=
  let sign := if x.negative then "-" else ""
  if x.isNaN then "NaN"
  else if x.isInfinite then sign ++ "inf"
  else sign ++ (x.shortest .up).positional

end Binary64

end Trials
