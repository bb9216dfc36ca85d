import GeoBridge.Shell.Condition
import GeoBridge.Shell.Printing
import GeoBridge.Shell.Tool.Filter

/-!
Owns the programs that print what they are given or what they know.

Owns:
- texts, with or without escapes, and texts by a format;
- series of numbers, and one line over and over;
- the parts of paths, and variables;
- conditions, and the passing of time.
-/

namespace GeoBridge.Shell

namespace Tool

/-- Do nothing but give a status. -/
def give (status : Nat) : Tool := fun _ _ => pure status

/-- Print arguments as they are, after options that are put together of the letters n, e and E. -/
def echo : Tool := fun _ arguments => do
  let isOption := fun (word : String) => match word.toList with
    | '-' :: letter :: rest => (letter :: rest).all "neE".toList.contains
    | _ => false
  let letters := (arguments.takeWhile isOption).flatMap String.toList
  let text := " ".intercalate (arguments.dropWhile isOption)
  let escapes := (letters.filter fun letter => letter != 'n' && letter != '-').getLast? == some 'e'
  let (octets, ends) := if escapes then escapedOctets true text else (octetsOfText text, false)
  Run.emit 1 (if letters.contains 'n' || ends then octets else octets ++ [10])
  pure 0

/-- Print by a format. -/
def printFormat : Tool := fun name arguments => do
  match if arguments.head? == some "--" then arguments.tail else arguments with
  | [] => refuse name 1 "missing operand"
  | format :: rest => do
      let printed := printByFormat true format rest
      printed.faults.forM fun fault => complain name (match fault with
        | .noNumber argument => marked argument ++ ": expected a numeric value"
        | .moreThanNumber argument => marked argument ++ ": value not completely converted"
        | .tooLarge argument => marked argument ++ ": Numerical result out of range"
        | .noLetter => "%: invalid conversion specification"
        | .unknownDirective written => written ++ ": invalid conversion specification")
      Run.emit 1 printed.octets
      pure (if printed.faults.isEmpty then 0 else 1)

/-- A decimal: an integer, and the count of its places. -/
structure Decimal where
  digits : Int
  places : Nat
deriving DecidableEq, Repr

namespace Decimal

/-- The decimal that a text spells. -/
def ofText? (text : String) : Option Decimal := do
  let (negative, characters) := match text.toList with
    | '-' :: rest => (true, rest)
    | '+' :: rest => (false, rest)
    | rest => (false, rest)
  let whole := characters.takeWhile Char.isDigit
  let (fraction, rest) := match characters.drop whole.length with
    | '.' :: behind => (behind.takeWhile Char.isDigit, behind.dropWhile Char.isDigit)
    | behind => ([], behind)
  let exponent ← match rest with
    | [] => some (0 : Int)
    | mark :: behind => if mark == 'e' || mark == 'E' then (String.ofList behind).toInt? else none
  let value := (digitsIn 10 0 (whole ++ fraction)).1
  let signed : Int := if negative then -(value : Int) else value
  if whole.isEmpty && fraction.isEmpty then none
  else
    let places := (fraction.length : Int) - exponent
    some (if 0 ≤ places then ⟨signed, places.toNat⟩
      else ⟨signed * GeoBridge.Decimal.tenTo (-places).toNat, 0⟩)

/-- The decimal as an integer once it has so many places. -/
def scaled (decimal : Decimal) (places : Nat) : Int :=
  decimal.digits * GeoBridge.Decimal.tenTo (places - decimal.places)

/-- The text of an integer that has so many places. -/
def text (value : Int) (places : Nat) : String :=
  let digits := Nat.toDigits 10 value.natAbs
  let filled := List.replicate (places + 1 - digits.length) '0' ++ digits
  let whole := filled.take (filled.length - places)
  (if value < 0 then "-" else "") ++ String.ofList whole
    ++ (if places == 0 then "" else "." ++ String.ofList (filled.drop whole.length))

end Decimal

/-- A text brought to a width by zeros behind its sign. -/
def zeroFilled (width : Nat) (text : String) : String :=
  match text.toList with
  | '-' :: digits =>
      "-" ++ String.ofList (List.replicate (width - text.length) '0' ++ digits)
  | digits => String.ofList (List.replicate (width - text.length) '0' ++ digits)

/-- The options of a series, which stand before all numbers, and the numbers. -/
def seriesArguments (forms : List CommandLine.OptionForm) (arguments : List String) :
    Except CommandLine.Misuse CommandLine.Arguments :=
  let isNumber := fun (text : String) => match text.toList with
    | '-' :: next :: _ => next.isDigit || next == '.'
    | _ => false
  let before := arguments.takeWhile fun text => !isNumber text
  (CommandLine.Arguments.divide forms false before).map fun given =>
    { given with operands := given.operands ++ arguments.drop before.length }

/-- Write a series of numbers. -/
def series : Tool := fun name arguments => do
  let forms := [setting "separator" 's', flag "equal-width" 'w', setting "format" 'f']
  match seriesArguments forms arguments with
  | .error misuse => refuse name 1 (misuseText forms misuse)
  | .ok given => do
      match given.operands, given.operands.find? fun text => (Decimal.ofText? text).isNone with
      | [], _ => refuse name 1 "missing operand"
      | _ :: _ :: _ :: extra :: _, _ => refuse name 1 ("extra operand " ++ marked extra)
      | _, some wrong => refuse name 1 ("invalid floating point argument: " ++ marked wrong)
      | operands, none =>
          let one : Decimal := ⟨1, 0⟩
          let (first, step, last) := match operands.filterMap Decimal.ofText? with
            | [last] => (one, one, last)
            | [first, last] => (first, one, last)
            | first :: step :: last :: _ => (first, step, last)
            | [] => (one, one, one)
          if step.digits == 0 then
            refuse name 1 ("invalid Zero increment value: " ++ marked (operands.getD 1 ""))
          else
            let shown := max first.places step.places
            let places := max shown last.places
            let start := first.scaled places
            let stride := step.scaled places
            let stop := last.scaled places
            let count :=
              if 0 < stride then ((stop - start) / stride + 1).toNat
              else ((start - stop) / -stride + 1).toNat
            let text := fun (value : Int) =>
              Decimal.text (value / GeoBridge.Decimal.tenTo (places - shown)) shown
            let texts := (List.range count).map fun (position : Nat) =>
              text (start + stride * position)
            let width := max (text start).length (text (start + stride * (count - 1 : Nat))).length
            let written := match given.value? "--format" with
              | some format => texts.map fun value =>
                  textOfOctets (printByFormat true format [value]).octets
              | none =>
                  if given.isGiven "--equal-width" then texts.map (zeroFilled width) else texts
            if !written.isEmpty then
              Run.printLine (((given.value? "--separator").getD "\n").intercalate written)
            pure 0

/-- Write one line over and over, without an end. -/
def repeatLine : Tool := fun _ arguments => do
  let line := octetsOfText ((if arguments.isEmpty then "y" else " ".intercalate arguments) ++ "\n")
  let block := (List.replicate (8192 / line.length + 1) line).flatten
  (List.range 512).forM fun _ => do
    Run.emit 1 block
    Run.passTime 1
  throw .stopped

/-- A path without the slashes at its end. -/
def withoutEndSlashes (path : String) : String :=
  match path.toList.reverse.dropWhile (· == '/') with
  | [] => if path.isEmpty then "" else "/"
  | kept => String.ofList kept.reverse

/-- The last part of a path. -/
def lastPart (path : String) : String :=
  ((withoutEndSlashes path).splitOn "/").getLast?.getD ""

/-- Write the last parts of paths. -/
def basename : Tool :=
  withOptions [flag "multiple" 'a', setting "suffix" 's', flag "zero" 'z'] 1 fun name given => do
    let many := given.isGiven "--multiple" || given.isGiven "--suffix"
    let shorten := fun (suffix path : String) =>
      let part := lastPart path
      let kept := part.toList.take (part.length - suffix.length)
      if withoutEndSlashes path == "/" then "/"
      else if !suffix.isEmpty && part.endsWith suffix && !kept.isEmpty then String.ofList kept
      else part
    match given.operands with
    | [] => refuse name 1 "missing operand"
    | path :: rest =>
        if many then
          given.operands.forM fun other =>
            Run.printLine (shorten ((given.value? "--suffix").getD "") other)
          pure 0
        else
          match rest with
          | _ :: extra :: _ => refuse name 1 ("extra operand " ++ marked extra)
          | _ => do
              Run.printLine (shorten (rest.headD "") path)
              pure 0

/-- The path without its last part. -/
def directoryPart (path : String) : String :=
  let kept := (withoutEndSlashes path).toList.reverse.dropWhile (· != '/')
  match kept.dropWhile (· == '/') with
  | [] => if kept.isEmpty then "." else "/"
  | rest => String.ofList rest.reverse

/-- Write paths without their last parts. -/
def dirname : Tool := withOptions [flag "zero" 'z'] 1 fun name given => do
  if given.operands.isEmpty then refuse name 1 "missing operand"
  else
    given.operands.forM fun path =>
      Run.printLine (if path == "/" then "/" else directoryPart path)
    pure 0

/-- The variables that programs learn of. -/
def environment : Run (Association String String) := do
  let state ← get
  pure (state.bindings.filter fun entry => state.exported.contains entry.1)

/-- Write the values of variables, or all variables with their values. -/
def printVariables : Tool := fun _ arguments => do
  let known ← environment
  if arguments.isEmpty then
    known.forM fun (name, value) => Run.printLine (name ++ "=" ++ value)
    pure 0
  else
    let found := arguments.map fun name => known.lookup name
    (found.filterMap id).forM Run.printLine
    pure (if found.contains none then 1 else 0)

/-- Test a condition. -/
def test : Tool := fun name arguments => do
  match Condition.judge (← get) false arguments with
  | .ok holds => pure (if holds then 0 else 1)
  | .error text => do
      complain name text
      pure 2

/-- Test the condition before a closing bracket. -/
def bracket : Tool := fun name arguments =>
  if arguments.getLast? == some "]" then test name arguments.dropLast
  else do
    complain name ("missing " ++ marked "]")
    pure 2

/-- The millionths of a second that a duration spells. -/
def duration? (text : String) : Option Nat :=
  let characters := text.toList
  let whole := characters.takeWhile Char.isDigit
  let (fraction, unit) := match characters.dropWhile Char.isDigit with
    | '.' :: rest => (rest.takeWhile Char.isDigit, rest.dropWhile Char.isDigit)
    | rest => ([], rest)
  let factor := match unit with
    | [] | ['s'] => some 1
    | ['m'] => some 60
    | ['h'] => some 3600
    | ['d'] => some 86400
    | _ => none
  if text.toLower == "inf" || text.toLower == "infinity" then some (2 * horizon)
  else if whole.isEmpty && fraction.isEmpty then none
  else
    factor.map fun seconds =>
      seconds * ((digitsIn 10 0 whole).1 * 1000000
        + (digitsIn 10 0 ((fraction ++ List.replicate 6 '0').take 6)).1)

/-- Let time pass. -/
def sleep : Tool := fun name arguments => do
  match arguments, arguments.filter fun text => (duration? text).isNone with
  | [], _ => refuse name 1 "missing operand"
  | _, [] => do
      Run.passTime ((arguments.filterMap duration?).foldl (· + ·) 0)
      pure 0
  | _, wrong => do
      wrong.forM fun text => complain name ("invalid time interval " ++ marked text)
      Run.warn ("Try '" ++ name ++ " --help' for more information.")
      pure 1

end Tool

end GeoBridge.Shell
