import GeoBridge.Decimal.Places
import GeoBridge.Decimal.Written
import GeoBridge.Shell.Number
import GeoBridge.Shell.OctetClass
import GeoBridge.Shell.Octets

/-!
Owns the text that shell scripts print by formats.

Owns:
- escapes: letters and octal numbers after a backslash;
- directives with flags, a width and a precision;
- the use of a format once more while there are arguments left.
-/

namespace GeoBridge.Shell

/-- The octets that letters after a backslash stand for. -/
def escapeLetters : List (Char × UInt8) :=
  [('a', 7), ('b', 8), ('e', 27), ('f', 12), ('n', 10), ('r', 13), ('t', 9), ('v', 11),
   ('\\', 92)]

/-- Whether a character is an octal digit. -/
def isOctal (character : Char) : Bool := '0' ≤ character && character ≤ '7'

/-- The octet of up to three octal digits at the front, and the rest. -/
def octalOctet (characters : List Char) : UInt8 × List Char :=
  let digits := (characters.take 3).takeWhile isOctal
  (UInt8.ofNat (digitsIn 8 0 digits).1, characters.drop digits.length)

/-- The octets of the escape after a backslash, and the rest. An x before hexadecimal digits is one
where that is known. Anything but an escape stands for itself, with the backslash. -/
def readEscape (knowsHexadecimal : Bool) (characters : List Char) : List UInt8 × List Char :=
  match characters with
  | [] => ([92], [])
  | character :: rest =>
      let digits := (rest.take 2).takeWhile isHexadecimal
      if isOctal character then
        let (octet, behind) := octalOctet characters
        ([octet], behind)
      else if knowsHexadecimal && character == 'x' && !digits.isEmpty then
        ([UInt8.ofNat (digitsIn 16 0 digits).1], rest.drop digits.length)
      else
        match escapeLetters.lookup character with
        | some octet => ([octet], rest)
        | none => ([92], characters)

/-- The octets of a text with escapes after those gathered so far, last first, and whether it asks
for an end of all printing. A zero before octal digits does not count. -/
def gatherEscaped (knowsHexadecimal : Bool) : (fuel : Nat) → List UInt8 → List Char →
    List UInt8 × Bool
  | 0, gathered, _ | _, gathered, [] => (gathered.reverse, false)
  | _ + 1, gathered, '\\' :: 'c' :: _ => (gathered.reverse, true)
  | fuel + 1, gathered, '\\' :: rest =>
      let behindZero := match rest with
        | '0' :: digit :: further => if isOctal digit then digit :: further else rest
        | _ => rest
      let (octets, behind) := readEscape knowsHexadecimal behindZero
      gatherEscaped knowsHexadecimal fuel (octets.reverse ++ gathered) behind
  | fuel + 1, gathered, character :: rest =>
      gatherEscaped knowsHexadecimal fuel (octetOf character :: gathered) rest

/-- The octets of a text with escapes, and whether it asks for an end of all printing. -/
def escapedOctets (knowsHexadecimal : Bool) (text : String) : List UInt8 × Bool :=
  let characters := text.toList
  gatherEscaped knowsHexadecimal (characters.length + 1) [] characters

/-- How a directive lays out what it prints. -/
structure Layout where
  flags : List Char := []
  width : Nat := 0
  precision : Option Nat := none
deriving DecidableEq, Repr

/-- Octets brought to the width of a layout. -/
def Layout.pad (layout : Layout) (octets : List UInt8) : List UInt8 :=
  let missing := List.replicate (layout.width - octets.length) (32 : UInt8)
  if layout.flags.contains '-' then octets ++ missing else missing ++ octets

/-- The digits of a number in a base, with upper case letters where that is asked for. -/
def digitsText (base : Nat) (upper : Bool) (value : Nat) : List Char :=
  let digits := Nat.toDigits base value
  if upper then digits.map Char.toUpper else digits

/-- A number by a layout: its sign, its mark and its digits. Zeros fill the width unless a
precision is given. -/
def Layout.number (layout : Layout) (sign mark : List Char) (digits : List Char) : List UInt8 :=
  let least := match layout.precision with
    | some count => count
    | none =>
        if layout.flags.contains '0' && !layout.flags.contains '-' then
          layout.width - sign.length - mark.length
        else 0
  let shown := if layout.precision == some 0 && digits == ['0'] then [] else digits
  let filled := List.replicate (least - shown.length) '0' ++ shown
  layout.pad ((sign ++ mark ++ filled).map octetOf)

/-- The sign of an integer by a layout. -/
def Layout.sign (layout : Layout) (value : Int) : List Char :=
  if value < 0 then ['-']
  else if layout.flags.contains '+' then ['+']
  else if layout.flags.contains ' ' then [' ']
  else []

/-- What is wrong with a format or its arguments: an argument that is no number, or more than one,
or one too large, or a directive without a letter, or with one that means nothing. -/
inductive PrintFault where
  | noNumber (argument : String)
  | moreThanNumber (argument : String)
  | tooLarge (argument : String)
  | noLetter
  | unknownDirective (written : String)
deriving DecidableEq, Repr

/-- Whether a fault ends all printing. -/
def PrintFault.endsPrinting : PrintFault → Bool
  | .noNumber _ | .moreThanNumber _ | .tooLarge _ => false
  | .noLetter | .unknownDirective _ => true

/-- What was printed so far, last part first, the arguments that are left, the faults, and whether
printing was ended. -/
structure Printed where
  parts : List (List UInt8) := []
  left : List String
  faults : List PrintFault := []
  ended : Bool := false
deriving DecidableEq, Repr

namespace Printed

/-- Print octets. -/
def put (printed : Printed) (octets : List UInt8) : Printed :=
  { printed with parts := octets :: printed.parts }

/-- All octets that were printed. -/
def octets (printed : Printed) : List UInt8 := printed.parts.reverse.flatten

/-- The next argument, empty if there is none, and what is left. -/
def next (printed : Printed) : String × Printed :=
  (printed.left.headD "", { printed with left := printed.left.tail })

/-- Note a fault. -/
def note (printed : Printed) (fault : PrintFault) : Printed :=
  { printed with
    faults := printed.faults ++ [fault]
    ended := printed.ended || fault.endsPrinting }

/-- An integer in the range of sixty-four bits, with or without a sign, or nothing if it lies beyond
that range. Where there is no sign, the opposite of an integer counts from the upper end. -/
def inRange? (signed : Bool) (value : Int) : Option Int :=
  if signed then if wrapped value = value then some value else none
  else if value.natAbs < Decimal.twoTo 64 then some (value % Decimal.twoTo 64) else none

/-- The end of the range that is nearest to an integer beyond it. -/
def rangeEnd (signed : Bool) (value : Int) : Int :=
  if !signed then Decimal.twoTo 64 - 1
  else if value < 0 then -Decimal.twoTo 63
  else Decimal.twoTo 63 - 1

/-- The next argument as an integer. A quote makes it the code of the octet behind it. -/
def nextInteger (printed : Printed) (signed : Bool) : Int × Printed :=
  let (argument, rest) := printed.next
  match argument.toList with
  | [] => (0, rest)
  | quote :: character =>
      if quote == '\'' || quote == '"' then
        (((character.map octetOf).headD 0).toNat, rest)
      else
        match leadingInteger? (quote :: character) with
        | none => (0, rest.note (.noNumber argument))
        | some (value, behind) =>
            let found := inRange? signed value
            (found.getD (rangeEnd signed value),
              if !behind.isEmpty then rest.note (.moreThanNumber argument)
              else if found.isNone then rest.note (.tooLarge argument)
              else rest)

/-- The decimal at the front of characters without a sign, and the rest of them. -/
def leadingDecimal? (negative : Bool) (characters : List Char) :
    Option (Decimal.Binary64 × List Char) :=
  let whole := characters.takeWhile Char.isDigit
  let (fraction, rest) := Decimal.splitFraction (characters.dropWhile Char.isDigit)
  let exponent := match rest with
    | mark :: behind =>
        let (_, digits) := Decimal.splitSign behind
        let count := (digits.takeWhile Char.isDigit).length
        if (mark == 'e' || mark == 'E') && 0 < count then
          rest.take (rest.length - digits.length + count)
        else []
    | [] => []
  let written := characters.take (characters.length - rest.length) ++ exponent
  if whole.isEmpty && fraction.isEmpty then none
  else
    (Decimal.decimal? negative written).map fun number =>
      (number, characters.drop written.length)

/-- Whether a decimal lies beyond the largest number, or too close to zero for all the digits of a
number, though digits of it are not zero. -/
def isOutOfRange (written : List Char) (number : Decimal.Binary64) : Bool :=
  let digits := written.takeWhile fun character => character.isDigit || character == '.'
  digits.any (fun digit => digit.isDigit && digit != '0')
    && (!number.isFinite || number.exponentField == 0)

/-- The next argument as a number with places. -/
def nextDecimal (printed : Printed) : Decimal.Binary64 × Printed :=
  let (argument, rest) := printed.next
  let none_ := Decimal.Binary64.ofDecimal false 0 0
  match argument.toList with
  | [] => (none_, rest)
  | quote :: character =>
      if quote == '\'' || quote == '"' then
        (Decimal.Binary64.ofDecimal false (((character.map octetOf).headD 0).toNat) 0, rest)
      else
        let (negative, unsigned) := Decimal.splitSign (withoutBlanks (quote :: character))
        match Decimal.number? (withoutBlanks (quote :: character)),
          leadingDecimal? negative unsigned with
        | some number, _ =>
            (number, if isOutOfRange unsigned number then rest.note (.tooLarge argument) else rest)
        | none, some (number, _) =>
            (number, rest.note (.moreThanNumber argument))
        | none, none => (none_, rest.note (.noNumber argument))

/-- Print the next argument as a number with places. -/
def putDecimal (printed : Printed) (layout : Layout) (form : Decimal.NumberForm) (upper : Bool) :
    Printed :=
  let (number, rest) := printed.nextDecimal
  let digits := number.magnitudeText form (layout.precision.getD 6) (layout.flags.contains '#')
  let shown := if upper then digits.map Char.toUpper else digits
  let sign := if number.isNegative then ['-'] else layout.sign 0
  let flags := if number.isFinite then layout.flags else layout.flags.filter (· != '0')
  rest.put ({ layout with flags, precision := none }.number sign [] shown)

/-- Print an argument by the letter of a directive, if there is such a letter. -/
def direct? (knowsHexadecimal : Bool) (printed : Printed) (layout : Layout) (letter : Char) :
    Option Printed :=
  let unsigned := fun (base : Nat) (upper : Bool) (mark : List Char) =>
    let (value, rest) := printed.nextInteger false
    let natural := value.toNat
    let shown := if layout.flags.contains '#' && natural != 0 then mark else []
    rest.put (layout.number [] shown (digitsText base upper natural))
  match letter with
  | 's' =>
      let (argument, rest) := printed.next
      let octets := octetsOfText argument
      some (rest.put (layout.pad (octets.take (layout.precision.getD octets.length))))
  | 'b' =>
      let (argument, rest) := printed.next
      let (octets, ends) := escapedOctets knowsHexadecimal argument
      let after := rest.put (layout.pad (octets.take (layout.precision.getD octets.length)))
      some { after with ended := ends }
  | 'c' =>
      let (argument, rest) := printed.next
      some (rest.put (layout.pad ((octetsOfText argument).take 1)))
  | 'd' | 'i' =>
      let (value, rest) := printed.nextInteger true
      some (rest.put (layout.number (layout.sign value) [] (digitsText 10 false value.natAbs)))
  | 'u' => some (unsigned 10 false [])
  | 'o' => some (unsigned 8 false ['0'])
  | 'x' => some (unsigned 16 false ['0', 'x'])
  | 'X' => some (unsigned 16 true ['0', 'X'])
  | 'f' | 'F' => some (printed.putDecimal layout .positional (letter == 'F'))
  | 'e' | 'E' => some (printed.putDecimal layout .scientific (letter == 'E'))
  | 'g' | 'G' => some (printed.putDecimal layout .general (letter == 'G'))
  | _ => none

end Printed

/-- A count in a directive, which may be the next argument, and the rest. -/
def readCount (printed : Printed) : List Char → Nat × Printed × List Char
  | '*' :: rest =>
      let (value, after) := printed.nextInteger true
      (value.toNat, after, rest)
  | characters =>
      let digits := characters.takeWhile Char.isDigit
      ((digitsIn 10 0 digits).1, printed, characters.drop digits.length)

/-- The layout of the directive after a percent sign, and the rest from its letter on. -/
def readLayout (printed : Printed) (characters : List Char) : Layout × Printed × List Char :=
  let isFlag := fun (character : Char) => "-+ #0".toList.contains character
  let flags := characters.takeWhile isFlag
  let (width, afterWidth, rest) := readCount printed (characters.dropWhile isFlag)
  match rest with
  | '.' :: behind =>
      let (precision, after, further) := readCount afterWidth behind
      ({ flags, width, precision := some precision }, after, further)
  | _ => ({ flags, width }, afterWidth, rest)

/-- Print by a format once. Every step uses up a character of it. -/
def printOnce (knowsHexadecimal : Bool) : (fuel : Nat) → Printed → List Char → Printed
  | 0, printed, _ | _, printed, [] => printed
  | fuel + 1, printed, '%' :: '%' :: rest => printOnce knowsHexadecimal fuel (printed.put [37]) rest
  | fuel + 1, printed, '%' :: rest =>
      let (layout, after, behind) := readLayout printed rest
      match behind with
      | [] => after.note .noLetter
      | letter :: further =>
          match after.direct? knowsHexadecimal layout letter with
          | none =>
              let written := '%' :: rest.take (rest.length - further.length)
              after.note (.unknownDirective (String.ofList written))
          | some next => if next.ended then next else printOnce knowsHexadecimal fuel next further
  | fuel + 1, printed, '\\' :: rest =>
      let (octets, behind) := readEscape knowsHexadecimal rest
      printOnce knowsHexadecimal fuel (printed.put octets) behind
  | fuel + 1, printed, character :: rest =>
      printOnce knowsHexadecimal fuel (printed.put ([octetOf character])) rest

/-- Print by a format until no arguments are left, or none are used. -/
def printAll (knowsHexadecimal : Bool) (format : List Char) : (fuel : Nat) → Printed → Printed
  | 0, printed => printed
  | fuel + 1, printed =>
      let after := printOnce knowsHexadecimal (format.length + 1) printed format
      if after.ended || after.left.isEmpty || after.left.length == printed.left.length then after
      else printAll knowsHexadecimal format fuel after

/-- What a format and its arguments print. -/
def printByFormat (knowsHexadecimal : Bool) (format : String) (arguments : List String) : Printed :=
  printAll knowsHexadecimal format.toList (arguments.length + 1) { left := arguments }

end GeoBridge.Shell
