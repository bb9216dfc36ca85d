import GeoBridge.CommandLine.Arguments
import GeoBridge.Shell.Task

/-!
Owns what programs that filter text have in common.

Owns:
- their complaints, and the division of their arguments;
- the going through the files that they are given, of which the input is one;
- the lines of a text, the last of which may lack its line break.
-/

namespace GeoBridge.Shell

namespace Tool

/-- Complain under the name of a program. -/
def complain (name text : String) : Run Unit := Run.warn (name ++ ": " ++ text)

/-- Complain, hint at the help, and give a status. -/
def refuse (name : String) (status : Nat) (text : String) : Run Nat := do
  complain name text
  Run.warn ("Try '" ++ name ++ " --help' for more information.")
  pure status

/-- Text between typographic quotation marks. -/
def marked (text : String) : String := toOctetText "‘" ++ text ++ toOctetText "’"

/-- Text between plain quotation marks. -/
def quoted (text : String) : String := "'" ++ text ++ "'"

/-- An option without a value. -/
def flag (long : String) (letter : Option Char) : CommandLine.OptionForm :=
  ⟨"--" ++ long, letter, false⟩

/-- An option with a value. -/
def setting (long : String) (letter : Option Char) : CommandLine.OptionForm :=
  ⟨"--" ++ long, letter, true⟩

/-- How a misuse of options is told. -/
def misuseText (forms : List CommandLine.OptionForm) : CommandLine.Misuse → String
  | .unknownOption written =>
      match written.toList with
      | '-' :: '-' :: _ => "unrecognized option " ++ quoted written
      | _ => "invalid option -- " ++ quoted (String.ofList (written.toList.drop 1))
  | .missingValue option =>
      match (forms.find? fun form => form.long == option).bind CommandLine.OptionForm.letter with
      | some letter => "option requires an argument -- " ++ quoted letter.toString
      | none => "option " ++ quoted option ++ " requires an argument"
  | .needlessValue option => "option " ++ quoted option ++ " doesn't allow an argument"
  | other => other.message

/-- Do something with divided arguments. A misuse of options gives a status of its own. -/
def withOptions (forms : List CommandLine.OptionForm) (misused : Nat)
    (action : String → CommandLine.Arguments → Run Nat) : Tool := fun name arguments =>
  match CommandLine.Arguments.divide forms true arguments with
  | .ok given => action name given
  | .error misuse => refuse name misused (misuseText forms misuse)

/-- Do something that gives a status with the input that each of some files is, or with the input at
hand if there are none. A file that cannot be read is a failure. -/
def judgeFiles (name : String) (failure : Nat) (tell : String → Obstacle → String)
    (files : List String) (action : String → Run Nat) : Run Nat := do
  let statuses ← (if files.isEmpty then ["-"] else files).mapM fun (file : String) => do
    match ← Run.withFile file (action file) with
    | .ok status => pure status
    | .error obstacle => do
        complain name (tell file obstacle)
        pure failure
  pure (statuses.foldl max 0)

/-- Do something with the input that each of some files is, or with the input at hand if there are
none. The status is zero unless a file cannot be read. -/
def eachFile (name : String) (failure : Nat) (tell : String → Obstacle → String)
    (files : List String) (action : String → Run Unit) : Run Nat :=
  judgeFiles name failure tell files fun file => do
    action file
    pure 0

/-- How a file that cannot be read is told: its name and the obstacle. -/
def plainly (file : String) (obstacle : Obstacle) : String := file ++ ": " ++ obstacleText obstacle

/-- The number of a text in decimal. A letter behind it stands for a power of 1024. -/
def count? (text : String) : Option Nat :=
  let digits := text.toList.takeWhile Char.isDigit
  let value := String.toNat? (String.ofList digits)
  match text.toList.drop digits.length with
  | [] => value
  | ['k'] | ['K'] => value.map (· * 1024)
  | ['M'] => value.map (· * 1048576)
  | _ => none

end Tool

/-- The lines of a text, and whether the last of them has its line break. -/
structure Lines where
  lines : List (List Char) := []
  isWhole : Bool := true
deriving DecidableEq, Repr

namespace Lines

/-- The lines of characters. -/
def ofCharacters (characters : List Char) : Lines :=
  let (first, others) := characters.foldr (fun character (current, ended) =>
    if character == '\n' then (([] : List Char), current :: ended)
    else (character :: current, ended)) (([] : List Char), ([] : List (List Char)))
  let pieces := first :: others
  if pieces.getLast? == some [] then { lines := pieces.dropLast }
  else { lines := pieces, isWhole := false }

/-- The characters of lines. -/
def toCharacters (text : Lines) : List Char :=
  let characters := text.lines.flatMap fun line => line ++ ['\n']
  if text.isWhole then characters else characters.dropLast

/-- Read all lines of the input. -/
def read : Run Lines := do
  let octets ← Run.readInput
  pure (ofCharacters (octets.map fun octet => Char.ofNat octet.toNat))

/-- Write lines. -/
def write (text : Lines) : Run Unit := Run.emit 1 (text.toCharacters.map octetOf)

end Lines

end GeoBridge.Shell
