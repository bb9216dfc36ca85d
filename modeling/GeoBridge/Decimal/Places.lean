import GeoBridge.Decimal.Shortest

/-!
Owns the decimal text of a floating-point number with a given count of places.

Owns:
- the nearest decimal of so many places, a tie going to the even one;
- positional text, text with an exponent, and the shorter of both for a count of digits.
-/

namespace GeoBridge.Decimal

/-- A layout of numbers: positional, with an exponent, or whichever of both suits. -/
inductive NumberForm where
  | positional
  | scientific
  | general
deriving DecidableEq, Repr

namespace Binary64

/-- The magnitude of a finite number counted in powers of ten, to the nearest integer. -/
def nearestCount (number : Binary64) (exponent : Int) : Nat :=
  roundedQuotient (number.significand * twoTo number.power.toNat * tenTo (-exponent).toNat)
    (twoTo (-number.power).toNat * tenTo exponent.toNat)

/-- Digits with a point before the last `places` of them, if there are any. -/
def withPoint (digits : List Char) (places : Nat) (keepsPoint : Bool) : List Char :=
  let filled := List.replicate (places + 1 - digits.length) '0' ++ digits
  let whole := filled.take (filled.length - places)
  if places == 0 && !keepsPoint then whole else whole ++ '.' :: filled.drop whole.length

/-- The positional text of a magnitude. -/
def positional (number : Binary64) (places : Nat) (keepsPoint : Bool) : List Char :=
  withPoint (Nat.toDigits 10 (number.nearestCount (-(places : Int)))) places keepsPoint

/-- The first digits of a magnitude, one more than `places`, and the power of ten of the first. -/
def leadingDigits (number : Binary64) (places : Nat) : Nat × Int :=
  if number.significand == 0 then (0, 0)
  else
    let exponent := number.decimalMagnitude - 1
    let digits := number.nearestCount (exponent - places)
    if tenTo (places + 1) ≤ digits then (digits / 10, exponent + 1) else (digits, exponent)

/-- The text of a magnitude with an exponent. -/
def scientific (number : Binary64) (places : Nat) (keepsPoint : Bool) : List Char :=
  let (digits, exponent) := number.leadingDigits places
  withPoint (Nat.toDigits 10 digits) places keepsPoint ++ (exponentText exponent).toList

/-- Digits with a point without the zeros at their end, and without a point at the end. -/
def withoutEmptyPlaces (text : List Char) : List Char :=
  if text.contains '.' then
    ((text.reverse.dropWhile (· == '0')).dropWhile (· == '.')).reverse
  else text

/-- The text of a magnitude with a count of digits in the form that suits it. Zeros at the end are
left out, unless the point has to stay. -/
def general (number : Binary64) (precision : Nat) (keepsPoint : Bool) : List Char :=
  let count := max precision 1
  let (_, exponent) := number.leadingDigits (count - 1)
  let trim := fun (text : List Char) => if keepsPoint then text else withoutEmptyPlaces text
  if -4 ≤ exponent && exponent < count then
    trim (number.positional (count - 1 - exponent).toNat keepsPoint)
  else
    let (digits, power) := number.leadingDigits (count - 1)
    trim (withPoint (Nat.toDigits 10 digits) (count - 1) keepsPoint) ++ (exponentText power).toList

/-- The text of a magnitude, also of an infinite one, or of what is no number. -/
def magnitudeText (number : Binary64) (form : NumberForm) (precision : Nat) (keepsPoint : Bool) :
    List Char :=
  if number.isUndefined then "nan".toList
  else if !number.isFinite then "inf".toList
  else
    match form with
    | .positional => number.positional precision keepsPoint
    | .scientific => number.scientific precision keepsPoint
    | .general => number.general precision keepsPoint

end Binary64

end GeoBridge.Decimal
