import GeoBridge.Shell.Number
import GeoBridge.Shell.Task

/-!
Owns the commands of the shell that change its variables, parameters and flags.

Owns:
- names with or without a value, of which lists are exported, kept from changes or made a
  function's own;
- flags and parameters;
- the reading of the options of a script, one with every call.
-/

namespace GeoBridge.Shell

namespace Builtin

/-- A text between quotes. Quotes inside of it stand between double quotes. -/
def quotedText (text : String) : String :=
  let rec pieces (fuel : Nat) (characters : List Char) : List Char :=
    match fuel with
    | 0 => []
    | fuel + 1 =>
        let plain := characters.takeWhile (· != '\'')
        let quotes := (characters.drop plain.length).takeWhile (· == '\'')
        let rest := characters.drop (plain.length + quotes.length)
        (if plain.isEmpty then [] else '\'' :: plain ++ ['\''])
          ++ (if quotes.isEmpty then [] else '"' :: quotes ++ ['"'])
          ++ (if rest.isEmpty then [] else pieces fuel rest)
  if text.isEmpty then "''" else String.ofList (pieces (text.length + 1) text.toList)

/-- An argument as a name and the value assigned to it, if there is one. -/
def splitAssignment (argument : String) : String × Option String :=
  let name := argument.toList.takeWhile (· != '=')
  (String.ofList name,
    match argument.toList.drop name.length with
    | _ :: value => some (String.ofList value)
    | [] => none)

/-- Refuse what is no name of a variable. -/
def requireName (line : Nat) (label name : String) : Run Unit :=
  if isName name.toList then pure ()
  else Run.giveUp line (label ++ name ++ ": bad variable name")

/-- Show variables in ascending order, each with a label before it. -/
def showVariables (label : String) (isShown : State → String → Bool) : Run Nat := do
  let state ← get
  let shown := state.bindings.filter fun entry => isShown state entry.1
  let ordered := shown.mergeSort fun first second => first.1 ≤ second.1
  ordered.forM fun (name, value) => Run.printLine (label ++ name ++ "=" ++ quotedText value)
  pure 0

/-- The arguments behind the options of the given letters, and the last of these letters. -/
def skipOptions (line : Nat) (label : String) (letters : List Char) (last : Option Char) :
    List String → Run (Option Char × List String)
  | [] => pure (last, [])
  | word :: rest =>
      match word.toList with
      | ['-', '-'] => pure (last, rest)
      | '-' :: letter :: further =>
          match (letter :: further).find? fun other => !letters.contains other with
          | some wrong => Run.giveUp line (label ++ "Illegal option -" ++ wrong.toString)
          | none => skipOptions line label letters (letter :: further).getLast? rest
      | _ => pure (last, word :: rest)

/-- Mark variables by a change to the state, with the values assigned to them. -/
def mark (command : String) (change : String → State → State) (isShown : State → String → Bool) :
    Builtin := fun line arguments => do
  let label := command ++ ": "
  let (letter, names) ← skipOptions line label ['p'] none arguments
  if letter.isSome || names.isEmpty then showVariables (command ++ " ") isShown
  else
    names.forM fun argument => do
      let (name, value) := splitAssignment argument
      requireName line label name
      match value with
      | some text => Run.assign line label name text
      | none => pure ()
      modify (change name)
    pure 0

/-- The state with an exported variable. -/
def withExported (name : String) (state : State) : State :=
  { state with exported := name :: state.exported.filter (· != name) }

/-- Export variables. -/
def exportAll : Builtin := mark "export" withExported fun state name => state.exported.contains name

/-- Keep variables from changes. -/
def keepAll : Builtin :=
  mark "readonly" (fun name state => { state with readOnly := name :: state.readOnly })
    fun state name => state.readOnly.contains name

/-- Make variables a function's own. -/
def localize : Builtin := fun line arguments => do
  arguments.forM fun argument => do
    let state ← get
    match state.frames with
    | [] => Run.giveUp line "local: not in a function"
    | frame :: outer => do
        let (name, value) := splitAssignment argument
        requireName line "local: " name
        let saved := if (frame.lookup name).isSome then frame
          else (name, state.bindings.find? name) :: frame
        set { state with frames := saved :: outer }
        match value with
        | some text => Run.assign line "local: " name text
        | none => pure ()
  let state ← get
  if state.frames.isEmpty then Run.giveUp line "local: not in a function"
  pure 0

/-- Forget variables or functions. -/
def unset : Builtin := fun line arguments => do
  let (letter, names) ← skipOptions line "unset: " ['f', 'v'] none arguments
  names.forM fun name => do
    let state ← get
    if letter == some 'f' then set { state with functions := state.functions.erase name }
    else
      requireName line "unset: " name
      if state.readOnly.contains name then Run.giveUp line ("unset: " ++ name ++ ": is read only")
      set { state with
        bindings := state.bindings.erase name
        exported := state.exported.filter (· != name) }
  pure 0

/-- The number that digits spell. -/
def requireNumber (line : Nat) (label text : String) : Run Nat :=
  match (naturalOf? text).filter (· < Decimal.twoTo 31) with
  | some number => pure number
  | none => Run.giveUp line (label ++ "Illegal number: " ++ text)

/-- Leave out parameters at the front. -/
def shift : Builtin := fun line arguments => do
  let count ← match arguments with
    | [] => pure 1
    | text :: _ => requireNumber line "shift: " text
  let state ← get
  if state.parameters.length < count then Run.giveUp line "shift: can't shift that many"
  set { state with parameters := state.parameters.drop count }
  pure 0

/-- Set flags by letters, or take them back. -/
def setFlags (line : Nat) (label : String) (isSet : Bool) (letters : List Char) : Run Unit :=
  letters.forM fun letter => do
    if (flagNames.lookup letter).isNone then
      Run.giveUp line (label ++ "Illegal option " ++ (if isSet then "-" else "+")
        ++ letter.toString)
    modify fun state =>
      let others := state.flags.filter (· != letter)
      { state with flags := if isSet then letter :: others else others }

/-- Set a flag by its name, or take it back. -/
def setNamedFlag (line : Nat) (label : String) (isSet : Bool) (name : String) : Run Unit :=
  match flagNames.find? fun entry => entry.2 == name with
  | some (letter, _) => setFlags line label isSet [letter]
  | none =>
      Run.giveUp line (label ++ "Illegal option " ++ (if isSet then "-o " else "+o ") ++ name)

/-- Set flags by arguments, and give the arguments that are left, if there are any or if a mark says
that there are none. A flag may be awaited by its name. -/
def takeFlags (line : Nat) (label : String) : (awaited : Option Bool) → List String →
    Run (Option (List String))
  | _, [] => pure none
  | some isSet, name :: rest => do
      setNamedFlag line label isSet name
      takeFlags line label none rest
  | none, word :: rest => do
      match word.toList with
      | ['-'] => do
          setFlags line label false ['x', 'v']
          pure (if rest.isEmpty then none else some rest)
      | ['-', '-'] => pure (some rest)
      | sign :: letter :: letters => do
          if sign != '-' && sign != '+' then pure (some (word :: rest))
          else
            let isSet := sign == '-'
            setFlags line label isSet ((letter :: letters).filter (· != 'o'))
            takeFlags line label
              (if (letter :: letters).contains 'o' then some isSet else none) rest
      | _ => pure (some (word :: rest))

/-- Set flags and parameters. -/
def setAll : Builtin := fun line arguments => do
  if arguments.isEmpty then showVariables "" fun _ _ => true
  else
    match ← takeFlags line "set: " none arguments with
    | some parameters => modify fun state => { state with parameters }
    | none => pure ()
    pure 0

end Builtin

end GeoBridge.Shell
