import Trials.Number.Rounding

/-!
# Double-precision numbers

A `Binary64` is a double-precision number of IEEE 754, held as its 64 bits.  All arithmetic is
exact integer arithmetic followed by one rounding.  The central view is `units`: the absolute value
of a finite number as a multiple of `2 ^ -1074`, the least positive double, so that comparing two
numbers is comparing two naturals.  `nearest` goes back: the double nearest to a given multiple of
that unit.
-/

namespace Trials

/-- A double-precision number, as its bits: sign, eleven bits of exponent, 52 bits of fraction. -/
structure Binary64 where
  /-- The bits, the sign uppermost. -/
  bits : UInt64
deriving DecidableEq, Inhabited

namespace Binary64

/-! ## Fields -/

/-- The bits of positive infinity, above which lie the bits that are no number. -/
def infinityBits : Nat := 0x7FF0000000000000

/-- The sign bit. -/
def signBit : Nat := 0x8000000000000000

/-- The number of fractions, which is one step of the exponent field. -/
def fractions : Nat := 0x10000000000000

/-- The bits without the sign. -/
def magnitude (x : Binary64) : Nat := x.bits.toNat % signBit

/-- The sign bit; it is also set in negative zero. -/
def negative (x : Binary64) : Bool := decide (signBit ≤ x.bits.toNat)

/-- The number with the given sign and bits below the sign. -/
def ofMagnitude (negative : Bool) (magnitude : Nat) : Binary64 :=
  ⟨UInt64.ofNat (magnitude + if negative then signBit else 0)⟩

/-- Whether the bits stand for no number at all. -/
def isNaN (x : Binary64) : Bool := decide (infinityBits < x.magnitude)

/-- Whether the number is one of the two infinities. -/
def isInfinite (x : Binary64) : Bool := decide (x.magnitude = infinityBits)

/-- Whether the number is neither infinite nor undefined. -/
def isFinite (x : Binary64) : Bool := decide (x.magnitude < infinityBits)

/-- The exponent field. -/
def exponent (x : Binary64) : Nat := x.magnitude / fractions

/-- The fraction field. -/
def fraction (x : Binary64) : Nat := x.magnitude % fractions

/-- The integer significand: the fraction, with the implicit leading bit of a normal number. -/
def significand (x : Binary64) : Nat :=
  if x.exponent = 0 then x.fraction else fractions + x.fraction

/-- The power of two, in units of the least positive double, that scales the significand. -/
def scale (x : Binary64) : Nat := x.exponent - 1

/-- The absolute value of a finite number as a multiple of `2 ^ -1074`. -/
def units (x : Binary64) : Nat := x.significand <<< x.scale

/-- The number of units in one: `2 ^ 1074`. -/
def unitsPerOne : Nat := 1 <<< 1074

/-! ## Constants -/

/-- Positive zero. -/
def zero : Binary64 := ⟨0⟩

/-- The number one. -/
def one : Binary64 := ⟨0x3FF0000000000000⟩

/-- The undefined result. -/
def nan : Binary64 := ⟨0x7FF8000000000000⟩

/-- The infinity of the given sign. -/
def infinity (negative : Bool) : Binary64 := ofMagnitude negative infinityBits

/-! ## Rounding -/

/-- The magnitude bits of the double nearest to `num / den` units, ties to even; a value beyond the
largest double gives the bits of infinity.  With the shift `s` chosen so that the rounded
significand `q` fills 53 bits, the bits are `s * fractions + q`: a carry out of the significand
moves into the exponent by itself. -/
def nearest (num den : Nat) : Nat :=
  let shift := Nat.log2 (num / den) - 52
  min infinityBits (shift * fractions + roundQuotient num (den <<< shift))

/-- The double nearest to `± num / den`. -/
def ofRatio (negative : Bool) (num den : Nat) : Binary64 :=
  ofMagnitude negative (nearest (num * unitsPerOne) den)

/-- The double nearest to a natural number. -/
def ofNat (n : Nat) : Binary64 := ofRatio false n 1

/-- The double nearest to an integer. -/
def ofInt (i : Int) : Binary64 := ofRatio (decide (i < 0)) i.natAbs 1

/-- The double nearest to `± digits * 10 ^ exponent`.  Values far outside the range of doubles are
decided from the number of digits alone. -/
def ofDecimal (negative : Bool) (digits : Nat) (exponent : Int) : Binary64 :=
  let size : Int := exponent + (Nat.toDigits 10 digits).length
  if digits = 0 ∨ size < -400 then ofMagnitude negative 0
  else if size > 400 then infinity negative
  else if exponent < 0 then ofRatio negative digits (Nat.pow 10 exponent.natAbs)
  else ofRatio negative (digits * Nat.pow 10 exponent.natAbs) 1

/-! ## Arithmetic on finite numbers -/

/-- The rounded product of two finite numbers. -/
def mul (x y : Binary64) : Binary64 :=
  ofMagnitude (x.negative != y.negative) (nearest (x.units * y.units) unitsPerOne)

/-- The rounded quotient of two finite numbers, the divisor not being zero. -/
def div (x y : Binary64) : Binary64 :=
  ofMagnitude (x.negative != y.negative) (nearest (x.units * unitsPerOne) y.units)

/-- The number with the opposite sign. -/
def neg (x : Binary64) : Binary64 := ofMagnitude (!x.negative) x.magnitude

/-- The integer part of `x * 2 ^ 64`, for a finite non-negative `x`. -/
def floorScaled64 (x : Binary64) : Nat := (x.units <<< 64) / unitsPerOne

/-! ## Comparison -/

/-- An integer that grows with the number and is zero for both zeros; it orders all numbers that
are defined. -/
def key (x : Binary64) : Int := if x.negative then -(x.magnitude : Int) else x.magnitude

/-- Numerical order; false as soon as one side is undefined. -/
def lt (x y : Binary64) : Bool := !x.isNaN && !y.isNaN && decide (x.key < y.key)

/-- Numerical order with equality; false as soon as one side is undefined. -/
def le (x y : Binary64) : Bool := !x.isNaN && !y.isNaN && decide (x.key ≤ y.key)

/-- Numerical equality: the two zeros are equal and an undefined number equals nothing. -/
def same (x y : Binary64) : Bool := !x.isNaN && !y.isNaN && decide (x.key = y.key)

/-- Whether the number lies between zero and one, both included. -/
def isProbability (x : Binary64) : Bool := zero.le x && x.le one

/-- Whether a finite number is an integer. -/
def isIntegral (x : Binary64) : Bool := x.isFinite && decide (x.units % unitsPerOne = 0)

/-- The integer part of a finite number, towards zero. -/
def truncate (x : Binary64) : Int :=
  let whole : Int := (x.units / unitsPerOne : Nat)
  if x.negative then -whole else whole

end Binary64

end Trials
