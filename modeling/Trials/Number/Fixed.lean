import Trials.Number.Binary64

/-!
# Numbers with two places

`Binary64.toFixed2` writes a number with exactly two digits after the point: the exact value is
rounded once, a half going to the even neighbour, and the sign is kept even when nothing but zeros
remain.
-/

namespace Trials

/-- A number of hundredths, with a point before the last two digits. -/
def hundredths (n : Nat) : String :=
  let part := Nat.toDigits 10 (n % 100)
  let padded := List.replicate (2 - part.length) '0' ++ part
  String.ofList (Nat.toDigits 10 (n / 100) ++ '.' :: padded)

/-- The number rounded to two places. -/
def Binary64.toFixed2 (x : Binary64) : String :=
  let sign := if x.negative then "-" else ""
  if x.isNaN then "NaN"
  else if x.isInfinite then sign ++ "inf"
  else sign ++ hundredths (roundQuotient (x.units * 100) Binary64.unitsPerOne)

end Trials
