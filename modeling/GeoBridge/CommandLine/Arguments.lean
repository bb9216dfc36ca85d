/-!
Owns the division of arguments into options and operands.

Owns:
- the forms of options: a long name, perhaps a letter, and whether a value follows;
- what one argument is, and what a list of them amounts to;
- the ways in which a command line is misused.
-/

namespace GeoBridge.CommandLine

/-- How an option is written. A long name includes its hyphens. -/
structure OptionForm where
  long : String
  letter : Option Char := none
  takesValue : Bool := true
deriving DecidableEq, Repr

/-- How a command line is misused. -/
inductive Misuse where
  | noCommand
  | unknownCommand (name : String)
  | unknownOption (written : String)
  | missingValue (option : String)
  | needlessValue (option : String)
  | missingOption (option : String)
  | missingOperand (operand : String)
  | extraOperands (operands : List String)
  | invalidValue (option value : String)
  | noPath (name : String)
  | noSuchPath (operand value : String)
  | familyFault (message : String)
deriving DecidableEq, Repr

/-- The wording. -/
def Misuse.message : Misuse → String
  | .noCommand => "Missing command."
  | .unknownCommand name => "No such command '" ++ name ++ "'."
  | .unknownOption written => "No such option: " ++ written
  | .missingValue option => "Option '" ++ option ++ "' requires an argument."
  | .needlessValue option => "Option '" ++ option ++ "' does not take a value."
  | .missingOption option => "Missing option '" ++ option ++ "'."
  | .missingOperand operand => "Missing argument '" ++ operand ++ "'."
  | .extraOperands operands =>
      "Got unexpected extra arguments (" ++ " ".intercalate operands ++ ")"
  | .invalidValue option value =>
      "Invalid value for '" ++ option ++ "': '" ++ value ++ "' is not in the range."
  | .noPath name => "Invalid value for '" ++ name ++ "': embedded null byte"
  | .noSuchPath operand value =>
      "Invalid value for '" ++ operand ++ "': Path '" ++ value ++ "' does not exist."
  | .familyFault message => "Invalid value: " ++ message

/-- The options that were given, in order and by their long names, and the operands. An option
without a value is given with an empty one. -/
structure Arguments where
  settings : List (String × String) := []
  operands : List String := []
deriving DecidableEq, Repr

/-- What one argument is: an operand, the mark after which everything is one, options with their
values, options of which the last still awaits its value, or a misuse. -/
inductive Argument where
  | operand
  | endOfOptions
  | settings (given : List (String × String))
  | awaiting (given : List (String × String)) (option : String)
  | misused (misuse : Misuse)
deriving DecidableEq, Repr

namespace Argument

/-- What letters after one hyphen are. The letters after an option with a value are its value. -/
def ofLetters (forms : List OptionForm) (given : List (String × String)) : List Char → Argument
  | [] => .settings given
  | letter :: rest =>
      match forms.find? fun form => form.letter == some letter with
      | none => .misused (.unknownOption ("-" ++ letter.toString))
      | some form =>
          if !form.takesValue then ofLetters forms (given ++ [(form.long, "")]) rest
          else if rest.isEmpty then .awaiting given form.long
          else .settings (given ++ [(form.long, String.ofList rest)])

/-- What a long name is, with the value attached to it by an equality sign. -/
def ofLong (forms : List OptionForm) (name : String) (attached : Option String) : Argument :=
  match forms.find? fun form => form.long == name, attached with
  | none, _ => .misused (.unknownOption name)
  | some form, none => if form.takesValue then .awaiting [] name else .settings [(name, "")]
  | some form, some value =>
      if form.takesValue then .settings [(name, value)] else .misused (.needlessValue name)

/-- The characters before the first equality sign, and those after it. -/
def splitEquality (characters : List Char) : String × Option String :=
  (String.ofList (characters.takeWhile (· != '=')),
    match characters.dropWhile (· != '=') with
    | [] => none
    | _ :: value => some (String.ofList value))

/-- What an argument is. A hyphen alone is an operand. -/
def ofText (forms : List OptionForm) (text : String) : Argument :=
  match text.toList with
  | ['-', '-'] => .endOfOptions
  | '-' :: '-' :: rest =>
      let (name, attached) := splitEquality ('-' :: '-' :: rest)
      ofLong forms name attached
  | '-' :: letter :: rest => ofLetters forms [] (letter :: rest)
  | _ => .operand

end Argument

namespace Arguments

/-- Some settings before everything else. -/
def withSettings (given : List (String × String)) (arguments : Arguments) : Arguments :=
  { arguments with settings := given ++ arguments.settings }

/-- An operand before everything else. -/
def withOperand (operand : String) (arguments : Arguments) : Arguments :=
  { arguments with operands := operand :: arguments.operands }

/-- Divide arguments. Unless options may come after operands, the first operand ends them. -/
def divide (forms : List OptionForm) (optionsAnywhere : Bool) : List String →
    Except Misuse Arguments
  | [] => .ok {}
  | text :: rest =>
      match Argument.ofText forms text with
      | .misused misuse => .error misuse
      | .endOfOptions => .ok { operands := rest }
      | .operand =>
          if optionsAnywhere then (divide forms optionsAnywhere rest).map (withOperand text)
          else .ok { operands := text :: rest }
      | .settings given => (divide forms optionsAnywhere rest).map (withSettings given)
      | .awaiting given option =>
          match rest with
          | [] => .error (.missingValue option)
          | value :: further =>
              (divide forms optionsAnywhere further).map (withSettings (given ++ [(option, value)]))

/-- All values of an option, in order. -/
def values (arguments : Arguments) (option : String) : List String :=
  (arguments.settings.filter fun setting => setting.1 == option).map Prod.snd

/-- The value of an option. Of several the last counts. -/
def value? (arguments : Arguments) (option : String) : Option String :=
  (arguments.values option).getLast?

/-- Whether an option is given. -/
def isGiven (arguments : Arguments) (option : String) : Bool := (arguments.value? option).isSome

end Arguments

end GeoBridge.CommandLine
