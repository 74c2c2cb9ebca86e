import Trials.Json.Basic

/-!
# Numerals

The numbers of a JSON text as they are written (`Numeral`), how they are recognised
(`Numeral.scan`) and what they stand for (`Numeral.number?`).  A numeral without fraction and
exponent that fits 64 bits is an integer.  Every other numeral is a double made in two rounded
steps: the leading digits that fit an unsigned 64-bit integer, then one multiplication or division
by a power of ten; digits that do not fit are dropped.
-/

namespace Trials.Json

/-- A numeral as written. -/
structure Numeral where
  negative : Bool
  whole : List Char
  /-- The digits after the point; empty if there is no point. -/
  fraction : List Char
  /-- The exponent, if one is written. -/
  exponent : Option Int
deriving DecidableEq

/-- The value of a decimal digit. -/
def digitValue (c : Char) : Nat := c.toNat - '0'.toNat

/-- The natural number written by some digits, continuing from `acc`. -/
def natOfDigits (acc : Nat) (digits : List Char) : Nat :=
  digits.foldl (fun n c => n * 10 + digitValue c) acc

namespace Numeral

/-! ## Recognising -/

/-- The digits before the point: a lone zero, or digits that do not start with zero. -/
def scanWhole (cs : List Char) : Option (List Char × List Char) :=
  let digits := cs.takeWhile Char.isDigit
  match digits with
  | [] => none
  | '0' :: _ :: _ => none
  | _ => some (digits, cs.dropWhile Char.isDigit)

/-- The digits after the point, none if there is no point. -/
def scanFraction (cs : List Char) : Option (List Char × List Char) :=
  match cs with
  | '.' :: rest =>
    match rest.takeWhile Char.isDigit with
    | [] => none
    | digits => some (digits, rest.dropWhile Char.isDigit)
  | _ => some ([], cs)

/-- The sign of an exponent: whether it is negative, and what follows. -/
def scanSign : List Char → Bool × List Char
  | '+' :: rest => (false, rest)
  | '-' :: rest => (true, rest)
  | cs => (false, cs)

/-- The exponent, if one follows. -/
def scanExponent (cs : List Char) : Option (Option Int × List Char) :=
  match cs with
  | c :: rest =>
    if c = 'e' ∨ c = 'E' then
      let (negative, rest) := scanSign rest
      match rest.takeWhile Char.isDigit with
      | [] => none
      | digits =>
        let n : Int := natOfDigits 0 digits
        some (some (if negative then -n else n), rest.dropWhile Char.isDigit)
    else some (none, cs)
  | [] => some (none, [])

/-- The numeral at the head of some characters, and what follows it. -/
def scan (cs : List Char) : Option (Numeral × List Char) := do
  let (negative, cs) := match cs with
    | '-' :: rest => (true, rest)
    | _ => (false, cs)
  let (whole, cs) ← scanWhole cs
  let (fraction, cs) ← scanFraction cs
  let (exponent, cs) ← scanExponent cs
  return (⟨negative, whole, fraction, exponent⟩, cs)

/-! ## Meaning -/

/-- The largest unsigned integer of 64 bits. -/
def maxUnsigned : Nat := UInt64.size - 1

/-- The number written by the leading digits as long as it fits 64 bits, continuing from `acc`, and
the digits left over. -/
def takeFitting : Nat → List Char → Nat × List Char
  | acc, [] => (acc, [])
  | acc, c :: cs =>
    if acc * 10 + digitValue c ≤ maxUnsigned then takeFitting (acc * 10 + digitValue c) cs
    else (acc, c :: cs)

/-- The double nearest to a power of ten. -/
def powerOfTen (n : Nat) : Binary64 := .ofNat (Nat.pow 10 n)

/-- A finite double times a power of ten, in steps of at most `10 ^ 308`; none if the result is too
large. -/
def scaleByTen (x : Binary64) (exponent : Int) : Option Binary64 :=
  if exponent.natAbs ≤ 308 then
    if 0 ≤ exponent then
      let y := x.mul (powerOfTen exponent.natAbs)
      if y.isInfinite then none else some y
    else some (x.div (powerOfTen exponent.natAbs))
  else if x.units = 0 then some x
  else if 0 ≤ exponent then none
  else scaleByTen (x.div (powerOfTen 308)) (exponent + 308)
termination_by exponent.natAbs
decreasing_by omega

/-- The absolute value of the numeral as a double. -/
def absolute? (n : Numeral) : Option Binary64 :=
  let (m, dropped) := takeFitting 0 n.whole
  let (m, unread) := takeFitting m n.fraction
  let places : Int := n.fraction.length - unread.length
  scaleByTen (.ofNat m) (dropped.length - places + n.exponent.getD 0)

/-- What the numeral stands for; none if it is larger than every double. -/
def number? (n : Numeral) : Option Number :=
  let m := natOfDigits 0 n.whole
  if n.fraction.isEmpty && n.exponent.isNone && !n.negative && decide (m ≤ maxUnsigned) then
    some (.int m)
  else if n.fraction.isEmpty && n.exponent.isNone && n.negative
      && decide (0 < m ∧ m ≤ 1 <<< 63) then
    some (.int (-m))
  else
    n.absolute?.map fun x => .double (if n.negative then x.neg else x)

end Numeral

end Trials.Json
