import GeoBridge.Decimal.Power

/-!
Owns floating-point numbers of sixty-four bits as exact values.

Owns:
- the number as its bit pattern, with sign, significand and power of two;
- the nearest number to a decimal, a tie going to the even significand;
- comparison with whole numbers, and the whole part of a number.
-/

namespace GeoBridge.Decimal

/-- A floating-point number, by its bits. -/
structure Binary64 where
  bits : UInt64
deriving DecidableEq, Repr

namespace Binary64

/-- Whether the sign bit is set. -/
def isNegative (number : Binary64) : Bool := twoTo 63 ≤ number.bits.toNat

/-- The eleven exponent bits. -/
def exponentField (number : Binary64) : Nat := number.bits.toNat / twoTo 52 % twoTo 11

/-- The fifty-two fraction bits. -/
def fractionField (number : Binary64) : Nat := number.bits.toNat % twoTo 52

/-- Whether the number is neither infinite nor undefined. -/
def isFinite (number : Binary64) : Bool := number.exponentField != 2047

/-- Whether the bits stand for no number at all. -/
def isUndefined (number : Binary64) : Bool :=
  number.exponentField == 2047 && number.fractionField != 0

/-- The integer that a finite number's magnitude is a power of two times. -/
def significand (number : Binary64) : Nat :=
  if number.exponentField = 0 then number.fractionField else twoTo 52 + number.fractionField

/-- The power of two that goes with the significand. -/
def power (number : Binary64) : Int :=
  if number.exponentField = 0 then -1074 else (number.exponentField : Int) - 1075

/-- Infinity with the given sign. -/
def infinite (negative : Bool) : Binary64 :=
  ⟨UInt64.ofNat ((if negative then twoTo 63 else 0) + 2047 * twoTo 52)⟩

/-- The bits that stand for no number. -/
def undefined : Binary64 := ⟨UInt64.ofNat (2047 * twoTo 52 + twoTo 51)⟩

/-- The integer nearest to a quotient, a tie going to the even one. -/
def roundedQuotient (numerator denominator : Nat) : Nat :=
  let quotient := numerator / denominator
  let remainder := numerator % denominator
  if 2 * remainder < denominator then quotient
  else if 2 * remainder == denominator && quotient % 2 == 0 then quotient
  else quotient + 1

/-- The binary logarithm, rounded down, of a positive quotient. -/
def quotientLog (numerator denominator : Nat) : Int :=
  let estimate := (numerator.log2 : Int) - denominator.log2
  if denominator * twoTo estimate.toNat ≤ numerator * twoTo (-estimate).toNat then estimate
  else estimate - 1

/-- The number nearest to a quotient with a positive denominator. -/
def ofQuotient (negative : Bool) (numerator denominator : Nat) : Binary64 :=
  let sign := if negative then twoTo 63 else 0
  if numerator == 0 then ⟨UInt64.ofNat sign⟩
  else
    let power := max (quotientLog numerator denominator - 52) (-1074)
    let significand :=
      roundedQuotient (numerator * twoTo (-power).toNat) (denominator * twoTo power.toNat)
    let magnitude := (power + 1074).toNat * twoTo 52 + significand
    if 2047 * twoTo 52 ≤ magnitude then infinite negative
    else ⟨UInt64.ofNat (sign + magnitude)⟩

/-- The count of decimal digits. -/
def digitCount (number : Nat) : Nat := (Nat.toDigits 10 number).length

/-- The number nearest to `mantissa` times ten to the `exponent`. Decimals far beyond the largest
number or far below the smallest one are settled by their size. -/
def ofDecimal (negative : Bool) (mantissa : Nat) (exponent : Int) : Binary64 :=
  let size := (digitCount mantissa : Int) + exponent
  if mantissa == 0 || size < -400 then ofQuotient negative 0 1
  else if 400 < size then infinite negative
  else ofQuotient negative (mantissa * tenTo exponent.toNat) (tenTo (-exponent).toNat)

/-- Whether the number lies below zero. A zero with a sign does not. -/
def isBelowZero (number : Binary64) : Bool :=
  number.isNegative && !number.isUndefined && (!number.isFinite || number.significand != 0)

/-- Whether a finite number equals a natural number. -/
def equalsNat (number : Binary64) (natural : Nat) : Bool :=
  number.isFinite && (!number.isNegative || natural == 0)
    && number.significand * twoTo number.power.toNat == natural * twoTo (-number.power).toNat

/-- The integer that a finite number is, without its fraction. -/
def truncated? (number : Binary64) : Option Int :=
  if number.isFinite then
    let magnitude := number.significand * twoTo number.power.toNat / twoTo (-number.power).toNat
    some (if number.isNegative then -(magnitude : Int) else magnitude)
  else none

/-- Whether a finite number has no fractional part. -/
def isIntegral (number : Binary64) : Bool :=
  number.isFinite
    && number.significand * twoTo number.power.toNat % twoTo (-number.power).toNat == 0

end Binary64

end GeoBridge.Decimal
