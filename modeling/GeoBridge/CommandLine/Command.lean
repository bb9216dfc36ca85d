import GeoBridge.CommandLine.Arguments
import GeoBridge.Decimal.Written
import GeoBridge.Fault
import GeoBridge.Path

/-!
Owns the commands of the command line and their reading from arguments.

Owns:
- the commands with everything they are given;
- the options of each command and the values they fall back to;
- the invocation: the options before the command, and the command itself.
-/

namespace GeoBridge.CommandLine

/-- A conversion as it is asked for. -/
structure ConvertCommand where
  input : Path
  directory : Path
  formatName : String
  typeName : Option String := none
  crs : Option String := none
  family : String
  configuration : Option Path := none
  limit : Option Limit := none
  modules : List String := []
deriving DecidableEq, Repr

/-- A command. -/
inductive Command where
  | formats (family : String) (configuration : Option Path) (modules : List String)
  | probe (executable family : String)
  | convert (request : ConvertCommand)
  | defaultConfiguration (family : String) (output : Option Path)
  | doctor (configuration : Option Path)
deriving DecidableEq, Repr

/-- What a command line asks for: help, or a command, perhaps with everything known about
failures. -/
inductive Invocation where
  | help
  | command (debug : Bool) (command : Command)
deriving DecidableEq, Repr

namespace Command

/-- The option that asks for help. -/
def helpForm : OptionForm := { long := "--help", takesValue := false }

/-- The option that tells the family. -/
def familyForm : OptionForm := { long := "--family" }

/-- The option that tells the directory of the configuration. -/
def directoryForm : OptionForm := { long := "--config-dir" }

/-- The option that names a further module of families. -/
def moduleForm : OptionForm := { long := "--family-module" }

/-- The option that tells where a configuration is written. -/
def outputForm : OptionForm := { long := "--output", letter := some 'o' }

/-- The options of each command, by its name. -/
def forms : List (String × List OptionForm) :=
  [("formats", [familyForm, directoryForm, moduleForm, helpForm]),
   ("probe", [familyForm, helpForm]),
   ("convert",
     [{ long := "--format" }, { long := "--type-name" }, { long := "--crs" }, familyForm,
      directoryForm, { long := "--timeout" }, moduleForm, helpForm]),
   ("default-config", [familyForm, outputForm, helpForm]),
   ("doctor", [directoryForm, helpForm])]

/-- The family, which is that of rasters unless another is given. -/
def familyOf (arguments : Arguments) : String := (arguments.value? "--family").getD "gdal"

/-- The path that a value spells, which holds no null character. -/
def pathOf (name value : String) : Except Misuse Path :=
  if value.toList.contains '\x00' then .error (.noPath name) else .ok (Path.ofString value)

/-- The path that an option gives. Of several values only the last has to be a path. -/
def pathOption (name : String) (arguments : Arguments) : Except Misuse (Option Path) :=
  (arguments.value? name).mapM (pathOf name)

/-- The directory of the configuration, where one is given. -/
def directoryOf (arguments : Arguments) : Except Misuse (Option Path) :=
  pathOption "--config-dir" arguments

/-- The operands, of which there have to be as many as names. -/
def takeOperands (names : List String) (arguments : Arguments) : Except Misuse (List String) :=
  match names.drop arguments.operands.length, arguments.operands.drop names.length with
  | missing :: _, _ => .error (.missingOperand missing)
  | [], [] => .ok arguments.operands
  | [], extra => .error (.extraOperands extra)

/-- The limit of time, where one is given. It is no negative number. -/
def limitOf (arguments : Arguments) : Except Misuse (Option Limit) :=
  match arguments.value? "--timeout" with
  | none => .ok none
  | some text =>
      match Decimal.Binary64.read? text with
      | none => .error (.invalidValue "--timeout" text)
      | some seconds =>
          if seconds.isUndefined || seconds.isBelowZero then
            .error (.invalidValue "--timeout" text)
          else .ok (some (.fractional seconds))

/-- The conversion that arguments ask for. -/
def convertOf (arguments : Arguments) : Except Misuse Command := do
  let limit ← limitOf arguments
  let configuration ← directoryOf arguments
  match arguments.value? "--format" with
  | none => .error (.missingOption "--format")
  | some formatName =>
      match ← takeOperands ["INPUT_PATH", "OUTPUT_DIR"] arguments with
      | [input, directory] =>
          .ok (.convert
            { input := ← pathOf "INPUT_PATH" input
              directory := ← pathOf "OUTPUT_DIR" directory
              formatName, typeName := arguments.value? "--type-name"
              crs := arguments.value? "--crs"
              family := familyOf arguments, configuration, limit
              modules := arguments.values "--family-module" })
      | _ => .error (.missingOperand "INPUT_PATH")

/-- The probe that arguments ask for. -/
def probeOf (arguments : Arguments) : Except Misuse Command := do
  match ← takeOperands ["EXECUTABLE"] arguments with
  | [executable] => .ok (.probe executable (familyOf arguments))
  | _ => .error (.missingOperand "EXECUTABLE")

/-- The command of the given name that arguments ask for. -/
def ofArguments (name : String) (arguments : Arguments) : Except Misuse Command :=
  match name with
  | "formats" => do
      let configuration ← directoryOf arguments
      let _ ← takeOperands [] arguments
      .ok (.formats (familyOf arguments) configuration (arguments.values "--family-module"))
  | "probe" => probeOf arguments
  | "convert" => convertOf arguments
  | "default-config" => do
      let output ← pathOption "--output" arguments
      let _ ← takeOperands [] arguments
      .ok (.defaultConfiguration (familyOf arguments) output)
  | "doctor" => do
      let configuration ← directoryOf arguments
      let _ ← takeOperands [] arguments
      .ok (.doctor configuration)
  | _ => .error (.unknownCommand name)

end Command

namespace Invocation

/-- The options before the command. -/
def forms : List OptionForm := [{ long := "--debug", takesValue := false }, Command.helpForm]

/-- Read the command of the given name. Help is given before anything else is looked at. -/
def readCommand (debug : Bool) (name : String) (texts : List String) :
    Except Misuse Invocation := do
  match Command.forms.lookup name with
  | none => .error (.unknownCommand name)
  | some options =>
      let arguments ← Arguments.divide options true texts
      if arguments.isGiven "--help" then .ok .help
      else
        let command ← Command.ofArguments name arguments
        .ok (.command debug command)

/-- Read a command line. -/
def read (texts : List String) : Except Misuse Invocation := do
  let before ← Arguments.divide forms false texts
  if before.isGiven "--help" then .ok .help
  else
    match before.operands with
    | [] => .error .noCommand
    | name :: rest => readCommand (before.isGiven "--debug") name rest

end Invocation

end GeoBridge.CommandLine
