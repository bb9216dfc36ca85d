import GeoBridge.Decimal.Binary64

/-!
Owns the shortest decimal text of a floating-point number.

Owns:
- the interval of reals that round to a number;
- the first decimal grid, from one digit to seventeen, that has a point in the interval;
- the layout of the digits: positional from a ten-thousandth to below ten to the sixteenth,
  with an exponent elsewhere.
-/

namespace GeoBridge.Decimal

/-- A decimal: an integer times a power of ten. -/
structure Scaled where
  digits : Nat
  exponent : Int
deriving DecidableEq, Repr

/-- The comparison of `decimal` with `quarters` times two to the `power`. -/
def Scaled.compareBinary (decimal : Scaled) (quarters : Nat) (power : Int) : Ordering :=
  compare (decimal.digits * tenTo decimal.exponent.toNat * twoTo (-power).toNat)
    (quarters * twoTo power.toNat * tenTo (-decimal.exponent).toNat)

namespace Binary64

/-- The reals that round to a positive finite number lie between two multiples of a quarter unit
of its last place. Below a power of two the distance to the neighbour is half as large. -/
def lowerQuarters (number : Binary64) : Nat :=
  if number.fractionField == 0 && 1 < number.exponentField then 4 * number.significand - 1
  else 4 * number.significand - 2

/-- The upper end of the reals that round to a number, in quarters of its last place. -/
def upperQuarters (number : Binary64) : Nat := 4 * number.significand + 2

/-- Whether a decimal rounds to the number. Both ends belong to a number with even significand. -/
def isReadFrom (number : Binary64) (decimal : Scaled) : Bool :=
  let closed := number.significand % 2 == 0
  let power := number.power - 2
  let above := decimal.compareBinary number.lowerQuarters power
  let below := decimal.compareBinary number.upperQuarters power
  (above == .gt || (closed && above == .eq)) && (below == .lt || (closed && below == .eq))

/-- The least exponent with the number below that power of ten. -/
def decimalMagnitude (number : Binary64) : Int :=
  let scaled :=
    number.significand * twoTo number.power.toNat * tenTo 400 / twoTo (-number.power).toNat
  (digitCount scaled : Int) - 400

/-- The integer part of the number counted in powers of ten. -/
def gridFloor (number : Binary64) (exponent : Int) : Nat :=
  number.significand * twoTo number.power.toNat * tenTo (-exponent).toNat
    / (twoTo (-number.power).toNat * tenTo exponent.toNat)

/-- Of two neighbouring points of a grid the one nearer to the number, and of two equally near
ones the even one. -/
def nearerPoint (number : Binary64) (floor : Nat) (exponent : Int) : Nat :=
  let middle : Scaled := ⟨(2 * floor + 1) * 5, exponent - 1⟩
  match middle.compareBinary (4 * number.significand) (number.power - 2) with
  | .lt => floor + 1
  | .gt => floor
  | .eq => if floor % 2 == 0 then floor else floor + 1

/-- The point of the grid with the given number of digits that rounds to the number, if any. -/
def gridPoint? (number : Binary64) (count : Nat) : Option Scaled :=
  let exponent := number.decimalMagnitude - count
  let floor := number.gridFloor exponent
  match number.isReadFrom ⟨floor, exponent⟩, number.isReadFrom ⟨floor + 1, exponent⟩ with
  | true, true => some ⟨number.nearerPoint floor exponent, exponent⟩
  | true, false => some ⟨floor, exponent⟩
  | false, true => some ⟨floor + 1, exponent⟩
  | false, false => none

/-- The shortest decimal that rounds to a positive finite number. -/
def shortest (number : Binary64) : Scaled :=
  match (List.range' 1 17).findSome? number.gridPoint? with
  | some decimal => decimal
  | none => ⟨number.gridFloor (number.decimalMagnitude - 17), number.decimalMagnitude - 17⟩

/-- Digits without the zeros at the end. -/
def withoutTrailingZeros (digits : List Char) : List Char :=
  (digits.reverse.dropWhile (· == '0')).reverse

/-- The text of an exponent: a sign and at least two digits. -/
def exponentText (exponent : Int) : String :=
  let digits := toString exponent.natAbs
  (if exponent < 0 then "e-" else "e+") ++ (if digits.length < 2 then "0" ++ digits else digits)

/-- Digits with the point after the first `point` of them. -/
def layout (digits : List Char) (point : Int) : String :=
  if -4 < point && point ≤ 16 then
    if point ≤ 0 then
      "0." ++ String.ofList (List.replicate (-point).toNat '0' ++ digits)
    else
      let whole := digits.take point.toNat
      let fraction := digits.drop point.toNat
      String.ofList (whole ++ List.replicate (point.toNat - digits.length) '0') ++ "."
        ++ (if fraction.isEmpty then "0" else String.ofList fraction)
  else
    String.ofList (digits.take 1)
      ++ (if digits.length ≤ 1 then "" else "." ++ String.ofList (digits.drop 1))
      ++ exponentText (point - 1)

/-- The shortest text that reads back as the number. -/
def text (number : Binary64) : String :=
  if number.isUndefined then "nan"
  else
    let sign := if number.isNegative then "-" else ""
    if !number.isFinite then sign ++ "inf"
    else if number.significand == 0 then sign ++ "0.0"
    else
      let decimal := number.shortest
      let digits := Nat.toDigits 10 decimal.digits
      sign ++ layout (withoutTrailingZeros digits) (digits.length + decimal.exponent)

end Binary64

end GeoBridge.Decimal
