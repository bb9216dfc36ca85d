import GeoBridge.Shell.Expansion
import GeoBridge.Shell.Program
import GeoBridge.Shell.Toolbox

/-!
Owns the carrying out of simple commands.

Owns:
- redirections, which are undone once a command is over;
- what the first word of a command stands for: a function, a command of the shell or a program;
- the commands of the shell that carry out other commands;
- assignments, which last only if nothing, or a special command of the shell, follows them.
-/

namespace GeoBridge.Shell

/-- Set the status of the last command. -/
def setStatus (status : Nat) : Run Unit := modify fun state => { state with status }

/-- Do something, and then what answers the end of the script. -/
def concluding (carry : Carrier) (action : Run Nat) : Run Nat := fun state =>
  let conclude := fun (status : Nat) (after : State) =>
    match after.traps.find? 0 with
    | some answer =>
        (do
          set { after with traps := after.traps.erase 0, status }
          let _ ← carry (.text {} 1 answer.toList)
          pure status : Run Nat) after
    | none => .ok status after
  match action state with
  | .ok status after => conclude status after
  | .error (.exited status) after | .error (.returned status) after => conclude status after
  | .error .failed after => conclude 2 after
  | .error interrupt after => .error interrupt after

/-- What a script inside of a word writes. Its first line has a number. -/
def scriptOutput (carry : Carrier) (line : Nat) (script : List Char) : Run (List UInt8) := do
  let chunks ← Run.captured do
    let nested ← Run.separately false
      (concluding carry (carry (.text { isLast := true } line script)))
    modify fun state => { state with nested }
  pure (Chunk.octetsOf chunks)

/-- How words on a line are expanded. -/
def expanderOf (carry : Carrier) (line : Nat) : Expander :=
  { line, runScript := scriptOutput carry }

/-- How an obstacle to a redirection is told. -/
def redirectionText (what path : String) (obstacle : Obstacle) : String :=
  "cannot " ++ what ++ " " ++ path ++ ": " ++ match obstacle with
    | .missing | .notDirectory => if what == "open" then "No such file" else "Directory nonexistent"
    | other => obstacleText other

/-- Lead a descriptor elsewhere. -/
def lead (descriptor : Nat) (sink : Sink) : Run Bool := do
  modify fun state => { state with sinks := state.sinks.put descriptor sink }
  pure true

/-- Let a descriptor lead where another one leads. Tells whether that is possible. -/
def leadAlike (line descriptor : Nat) (target : String) : Run Bool := do
  let state ← get
  match target.toList with
  | ['-'] => do
      set { state with sinks := Association.erase state.sinks descriptor }
      pure true
  | [digit] =>
      if !digit.isDigit then Run.giveUp line "Syntax error: Bad fd number"
      else
        match state.sinks.find? (digit.toNat - 48) with
        | some sink => lead descriptor sink
        | none => do
            Run.complain line (target ++ ": Bad file descriptor")
            pure false
  | _ => Run.giveUp line "Syntax error: Bad fd number"

/-- Let the input be a document. A fault in it does not end the script. -/
def leadDocument (expander : Expander) (descriptor : Nat) (document : Word) : Run Bool :=
  fun state =>
    let action := do
      let text ← expander.textOf false document
      lead descriptor (← Run.openStream { parts := [(0, octetsOfText text)] })
    match action state with
    | .error .failed after => .ok false after
    | other => other

/-- Carry out one redirection. Tells whether that is possible. -/
def redirect (expander : Expander) (redirection : Redirection) : Run Bool := do
  let output := redirection.descriptor.getD 1
  let input := redirection.descriptor.getD 0
  if redirection.operator.startsWith "<<" then leadDocument expander input redirection.target
  else
    let target ← expander.textOf false redirection.target
    let state ← get
    let opened := fun (descriptor : Nat) (what : String) (found : Except Obstacle Sink) =>
      match found with
      | .ok sink => lead descriptor sink
      | .error obstacle => do
          Run.complain expander.line (redirectionText what target obstacle)
          pure false
    match redirection.operator with
    | ">" =>
        let found ← Run.openOutput (pathOf target) false (!state.hasFlag 'C')
        if target.isEmpty then opened output "create" (.error .missing)
        else opened output "create" found
    | ">|" => opened output "create" (← Run.openOutput (pathOf target) false true)
    | ">>" => opened output "create" (← Run.openOutput (pathOf target) true true)
    | "<>" => do
        let _ ← Run.openOutput (pathOf target) true true
        opened input "create" (← Run.openInput (pathOf target))
    | ">&" => leadAlike expander.line output target
    | "<&" => leadAlike expander.line input target
    | _ => opened input "open" (← Run.openInput (pathOf target))

/-- Carry out redirections up to the first that is not possible. Tells whether all are. -/
def redirectAll (expander : Expander) : List Redirection → Run Bool
  | [] => pure true
  | redirection :: rest => do
      if ← redirect expander redirection then redirectAll expander rest else pure false

/-- Do something after redirections, which are undone then. Where they are not possible that gives a
status. -/
def redirecting (expander : Expander) (redirections : List Redirection) (action : Run Nat) :
    Run Nat := do
  let state ← get
  Run.withSinks state.sinks do
    if ← redirectAll expander redirections then action else pure 2

/-- Do something from which one can return with a status. -/
def returning (action : Run Nat) : Run Nat := fun state =>
  match action state with
  | .error (.returned status) after => .ok status after
  | other => other

/-- Put the values back that variables had before a function made them its own. -/
def restoreFrame (before after : State) : State :=
  let frame := after.frames.headD []
  let bindings := frame.foldl (fun bindings (name, value) =>
    match value with
    | some text => Association.put bindings name text
    | none => Association.erase bindings name) after.bindings
  { after with
    bindings, frames := before.frames, parameters := before.parameters, loops := before.loops }

/-- Do something with parameters of its own, which can make variables its own too. -/
def inFrame (arguments : List String) (action : Run Nat) : Run Nat := fun state =>
  match action { state with
      parameters := arguments, frames := [] :: state.frames, loops := 0 } with
  | .ok status after => .ok status (restoreFrame state after)
  | .error interrupt after => .error interrupt (restoreFrame state after)

/-- Call a function. -/
def callFunction (carry : Carrier) (line : Nat) (mode : Mode) (body : Script)
    (arguments : List String) : Run Nat := do
  let state ← get
  if 1000 ≤ state.frames.length then
    Run.giveUp line "Maximum function recursion depth (1000) reached"
  inFrame arguments (returning (carry (.script { isTested := mode.isTested } body)))

/-- A command of the shell that carries out other commands. -/
abbrev Control := Carrier → Mode → Builtin

namespace Control

/-- Carry out the text that arguments make up. -/
def evaluate : Control := fun carry mode _ arguments =>
  let words := if arguments.head? == some "--" then arguments.tail else arguments
  Run.underHeading "eval: "
    (carry (.text { isTested := mode.isTested } 1 (" ".intercalate words).toList))

/-- Carry out the script in a file. -/
def source : Control := fun carry mode line arguments => do
  match if arguments.head? == some "--" then arguments.tail else arguments with
  | [] => Run.giveUp line ".: Usage: . file"
  | path :: _ => do
      let state ← get
      let listed := ((state.bindings.find? "PATH").getD "").splitOn ":"
      let paths := if path.toList.contains '/' then [path]
        else listed.map fun directory => directory ++ "/" ++ path
      let found := paths.findSome? fun found =>
        (state.workspace.read (pathOf found)).toOption.map fun octets => (found, octets)
      match found with
      | none =>
          Run.giveUp line (if path.toList.contains '/' then
            ".: cannot open " ++ path ++ ": No such file" else ".: " ++ path ++ ": not found")
      | some (found, octets) =>
          Run.underHeading (found ++ ": ") (returning
            (carry (.text { isTested := mode.isTested } 1 (textOfOctets octets).toList)))

/-- Make way for a program. -/
def replace : Control := fun carry _ line arguments => do
  if arguments.isEmpty then pure 0
  else
    let state ← get
    if (state.findProgram (arguments.headD "")).isOk then set { state with traps := [] }
    let status ← carry (.program line "exec: " arguments)
    throw (.exited status)

end Control

/-- The special commands of the shell that carry out others. -/
def specialControls : List (String × Control) :=
  [("eval", Control.evaluate), (".", Control.source), ("exec", Control.replace)]

/-- What the words of a command stand for. -/
inductive Target where
  | nothing
  | function (body : Script) (arguments : List String)
  | special (name : String) (control : Control) (arguments : List String)
  | regular (name : String) (control : Control) (arguments : List String)
  | program (words : List String)

/-- What a name means, for the shell: a word of its own, a function, a command of its own, or a
program, of which the path is told. -/
def meaningOf? (state : State) (name : String) : Option (String × String) :=
  if reservedWords.contains name then some (name, "a shell keyword")
  else if (state.functions.find? name).isSome then some (name, "a shell function")
  else if (specialBuiltins.lookup name).isSome || (specialControls.lookup name).isSome then
    some (name, "a special shell builtin")
  else if (regularBuiltins.lookup name).isSome || name == "command" || name == "type" then
    some (name, "a shell builtin")
  else
    match state.findProgram name with
    | .ok (_, path) =>
        some (path, if name.toList.contains '/' then path else "a tracked alias for " ++ path)
    | .error _ => none

/-- Tell what names mean. -/
def tellMeanings : Builtin := fun _ arguments => do
  let state ← get
  let statuses ← arguments.mapM fun (name : String) => do
    match meaningOf? state name with
    | some (_, text) => do
        Run.printLine (name ++ " is " ++ text)
        pure 0
    | none => do
        Run.printLine (name ++ ": not found")
        pure 127
  pure (statuses.foldl max 0)

/-- Tell how a name is called. -/
def tellPath : Builtin := fun _ arguments => do
  let state ← get
  match arguments with
  | [] => pure 0
  | name :: _ =>
      match meaningOf? state name with
      | some (path, _) => do
          Run.printLine path
          pure 0
      | none => pure 127

/-- A command of the shell that needs nothing but the state. -/
def ofBuiltin (builtin : Builtin) : Control := fun _ _ => builtin

/-- What words stand for, given whether functions count and whether faults of special commands end
the script. Every step uses up a word. -/
def targetOf (state : State) : (isPlain : Bool) → List String → Target
  | isPlain, name :: arguments =>
      match if isPlain then state.functions.find? name else none with
      | some body => .function body arguments
      | none =>
          if name == "command" then
            match arguments with
            | [] => .regular name (ofBuiltin (Builtin.give 0)) []
            | "-v" :: rest => .regular name (ofBuiltin tellPath) rest
            | "-V" :: rest => .regular name (ofBuiltin tellMeanings) rest
            | _ => targetOf state false arguments
          else if !isPlain && (name == "-p" || name == "--") then targetOf state false arguments
          else if name == "type" then .regular name (ofBuiltin tellMeanings) arguments
          else
            let special := (specialControls.lookup name).orElse fun _ =>
              (specialBuiltins.lookup name).map ofBuiltin
            match special, regularBuiltins.lookup name with
            | some control, _ =>
                if isPlain then .special name control arguments else .regular name control arguments
            | none, some builtin => .regular name (ofBuiltin builtin) arguments
            | none, none => .program (name :: arguments)
  | isPlain, [] => if isPlain then .nothing else .regular "command" (ofBuiltin (Builtin.give 0)) []

/-- The fields of the words of a command. Words that assign behind a command for that are not
divided. -/
def commandFields (expander : Expander) (words : List Word) : Run (List String) := do
  let named := words.dropWhile fun word => word.plainText? == some "command".toList
  let assigns := (named.head?.bind Word.plainText?).any fun name =>
    ["export", "readonly", "local"].contains (String.ofList name)
  let fields ← words.mapM fun (word : Word) => do
    match if assigns then Reading.assignment? word else none with
    | some (name, value) => do
        let text ← expander.textOf true value
        pure [name ++ "=" ++ text]
    | none => expander.fieldsOf [word]
  pure fields.flatten

/-- Do something whose faults end the script only if it is a special command. -/
def outliving (isSpecial : Bool) (action : Run Nat) : Run Nat := fun state =>
  match action { state with broken := none } with
  | .error .failed after => if isSpecial then .error .failed after else .ok 2 after
  | other => other

/-- Carry out a command of the shell. Where it could not write, that is told. -/
def runControl (line : Nat) (name : String) (isSpecial : Bool) (action : Run Nat) : Run Nat := do
  let status ← Run.underHeading "" (outliving isSpecial action)
  let state ← get
  if state.broken.isSome then
    set { state with broken := none }
    Run.complain line (name ++ ": " ++ name ++ ": I/O error")
    pure (if status % 2 == 0 then status + 1 else status)
  else pure status

/-- Expand the values of assignments, one after the other, and do something with each. -/
def assignEach (expander : Expander) (assignments : List (String × Word))
    (assign : String → String → Run Unit) : Run (List String) :=
  assignments.mapM fun (name, word) => do
    let value ← expander.textOf true word
    assign name value
    pure (name ++ "=" ++ value)

/-- Show a command before it is carried out, where that is asked for. -/
def trace (sinks : Association Nat Sink) (shown : List String) : Run Unit := do
  let state ← get
  if state.hasFlag 'x' && !shown.isEmpty then
    Run.withSinks sinks
      (Run.warn ((state.bindings.find? "PS4").getD "+ " ++ " ".intercalate shown))

/-- Do something with variables that get their old values back then. -/
def withOwnVariables (names : List String) (action : Run Nat) : Run Nat := do
  let before ← get
  let status ← action
  modify fun after =>
    { after with
      bindings := names.foldl (fun bindings name =>
        match before.bindings.find? name with
        | some text => Association.put bindings name text
        | none => Association.erase bindings name) after.bindings
      exported := after.exported.filter fun name =>
        !names.contains name || before.exported.contains name }
  pure status

/-- Carry out a simple command. -/
def runSimple (carry : Carrier) (mode : Mode) (command : SimpleCommand) : Run Nat := do
  modify fun state => { state with nested := 0 }
  let expander := expanderOf carry command.line
  let fields ← commandFields expander command.words
  let state ← get
  let target := targetOf state true fields
  let keepsSinks := match target with
    | .special "exec" _ _ | .regular "exec" _ _ => true
    | _ => false
  let lasting := fun (name value : String) => Run.assign command.line "" name value
  let own := fun (name value : String) => do
    Run.assign command.line "" name value
    modify (Builtin.withExported name)
  let assigned := assignEach expander command.assignments
  let names := command.assignments.map Prod.fst
  let work : Run Nat := do
    match target with
    | .nothing => do
        trace state.sinks (← assigned lasting)
        let after ← get
        pure after.nested
    | .special name control arguments => do
        let shown ← assigned (if keepsSinks && !arguments.isEmpty then own else lasting)
        trace state.sinks (shown ++ fields)
        runControl command.line name true (control carry mode command.line arguments)
    | .regular name control arguments =>
        withOwnVariables names do
          trace state.sinks ((← assigned own) ++ fields)
          runControl command.line name false (control carry mode command.line arguments)
    | .function body arguments =>
        withOwnVariables names do
          trace state.sinks ((← assigned own) ++ fields)
          callFunction carry command.line mode body arguments
    | .program words =>
        withOwnVariables names do
          trace state.sinks ((← assigned own) ++ fields)
          let current ← get
          Run.separately (mode.isLast && current.traps.isEmpty)
            (carry (.program command.line "" words))
  let redirected : Run Nat := do
    if ← redirectAll expander command.redirections then work
    else
      match target with
      | .special _ _ _ => throw .failed
      | _ => pure 2
  if keepsSinks then redirected
  else Run.withSinks state.sinks redirected

end GeoBridge.Shell
