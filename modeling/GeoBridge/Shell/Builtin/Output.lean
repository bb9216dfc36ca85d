import GeoBridge.Shell.Printing
import GeoBridge.Shell.Task

/-!
Owns the commands of the shell that print.

Owns:
- the printing of arguments, whose escapes are always known;
- the printing by a format, with the wording of its faults.
-/

namespace GeoBridge.Shell

namespace Builtin

/-- Print arguments with their escapes. -/
def echo : Builtin := fun _ arguments => do
  let (bare, shown) := match arguments with
    | "-n" :: rest => (true, rest)
    | _ => (false, arguments)
  let (octets, ends) := escapedOctets false (" ".intercalate shown)
  Run.emit 1 (if bare || ends then octets else octets ++ [10])
  pure 0

/-- How a fault of a format is told. -/
def formatFaultText : PrintFault → String
  | .noNumber argument => argument ++ ": expected numeric value"
  | .moreThanNumber argument => argument ++ ": not completely converted"
  | .tooLarge argument => argument ++ ": Numerical result out of range"
  | .noLetter => "missing format character"
  | .unknownDirective written => written ++ ": invalid directive"

/-- Print by a format. -/
def printFormat : Builtin := fun line arguments => do
  match if arguments.head? == some "--" then arguments.tail else arguments with
  | [] => Run.giveUp line "printf: usage: printf format [arg ...]"
  | format :: rest => do
      let printed := printByFormat false format rest
      printed.faults.forM fun fault => Run.complain line ("printf: " ++ formatFaultText fault)
      Run.emit 1 printed.octets
      pure (if printed.faults.any PrintFault.endsPrinting then 2
        else if printed.faults.isEmpty then 0 else 1)

end Builtin

end GeoBridge.Shell
