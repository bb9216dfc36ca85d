import GeoBridge.Decimal.Binary64
import GeoBridge.Text.Blank

/-!
Owns the reading of floating-point numbers as users write them.

Owns:
- decimals of ASCII digits with an optional point and exponent, and the words for the infinite and
  the undefined;
- the blanks around a number;
- underscores inside a number, which count for nothing as long as no two of them meet.
-/

namespace GeoBridge.Decimal

/-- The sign at the front of characters, and the rest of them. -/
def splitSign : List Char → Bool × List Char
  | '-' :: rest => (true, rest)
  | '+' :: rest => (false, rest)
  | characters => (false, characters)

/-- The value of digits. -/
def digitsValue (digits : List Char) : Nat :=
  digits.foldl (fun value digit => value * 10 + (digit.toNat - 48)) 0

/-- The exponent that characters spell, which is zero if there are none. -/
def exponent? : List Char → Option Int
  | [] => some 0
  | mark :: rest =>
      let (negative, digits) := splitSign rest
      if (mark == 'e' || mark == 'E') && !digits.isEmpty && digits.all Char.isDigit then
        some (if negative then -(digitsValue digits : Int) else digitsValue digits)
      else none

/-- The fraction digits after a point, and the rest of the characters. -/
def splitFraction : List Char → List Char × List Char
  | '.' :: rest => (rest.takeWhile Char.isDigit, rest.dropWhile Char.isDigit)
  | characters => ([], characters)

/-- The number that a decimal without a sign spells. -/
def decimal? (negative : Bool) (characters : List Char) : Option Binary64 :=
  let whole := characters.takeWhile Char.isDigit
  let (fraction, rest) := splitFraction (characters.dropWhile Char.isDigit)
  if whole.isEmpty && fraction.isEmpty then none
  else
    (exponent? rest).map fun exponent =>
      Binary64.ofDecimal negative (digitsValue (whole ++ fraction)) (exponent - fraction.length)

/-- The number that characters spell from the first to the last. Words may be written in capital
letters. -/
def number? (characters : List Char) : Option Binary64 :=
  let (negative, unsigned) := splitSign characters
  let word := String.ofList (unsigned.map Char.toLower)
  if word == "inf" || word == "infinity" then some (Binary64.infinite negative)
  else if word == "nan" then some Binary64.undefined
  else decimal? negative unsigned

/-- The blanks that may stand around a number: all but those that separate records. -/
def isMargin (character : Char) : Bool :=
  Text.isBlank character && !(28 ≤ character.toNat && character.toNat ≤ 31)

/-- Whether two underscores meet. -/
def hasDoubleUnderscore : List Char → Bool
  | '_' :: '_' :: _ => true
  | _ :: rest => hasDoubleUnderscore rest
  | [] => false

/-- Characters without the underscores that set off groups of them. A group is never empty. -/
def withoutUnderscores? (characters : List Char) : Option (List Char) :=
  if characters.head? == some '_' || characters.getLast? == some '_'
      || hasDoubleUnderscore characters then none
  else some (characters.filter (· != '_'))

/-- The number that a text spells, with blanks around it or with underscores inside of it, but not
with both. -/
def Binary64.read? (text : String) : Option Binary64 :=
  match number? (Text.trimWhere isMargin text.toList) with
  | some number => some number
  | none => (withoutUnderscores? text.toList).bind number?

end GeoBridge.Decimal
