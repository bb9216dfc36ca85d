import GeoBridge.Shell.Command

/-!
Owns the carrying out of scripts.

Owns:
- composed commands: choices, loops, pipes, shells of their own and jobs beside the script;
- scripts as texts, which are read line by line, and programs, of which the shell is one;
- the carrying out of all tasks, for whose depth there is a bound.
-/

namespace GeoBridge.Shell

/-- Carry out the scripts that answer the signals received so far. The status stays. -/
def answerSignals (carry : Carrier) : Run Unit := do
  let state ← get
  set { state with pending := [] }
  state.pending.forM fun answer => do
    let _ ← carry (.text {} 1 answer.toList)
    setStatus state.status

/-- Do something whose failure ends a script that does not outlive failures. -/
def checked (carry : Carrier) (mode : Mode) (action : Run Nat) : Run Nat := do
  let status ← action
  setStatus status
  answerSignals carry
  let state ← get
  if status != 0 && !mode.isTested && state.hasFlag 'e' then throw (.exited status)
  pure status

/-- A command in a shell of its own. -/
def stage (carry : Carrier) (isTested makesWay : Bool) (script : Script) : Run Nat :=
  Run.separately makesWay (concluding carry (carry (.script ⟨isTested, true⟩ script)))

/-- What is left of the first command of a pipe once the second one is over: the time of its end,
which comes as soon as it writes what nobody reads. -/
def endingOfFirst? (chunks : List Chunk) (ending : Nat) (isEndless : Bool) (second : Nat) :
    Option Nat :=
  match chunks.find? fun chunk => second < chunk.time with
  | some chunk => some (min chunk.time ending)
  | none => if isEndless then none else some ending

/-- Carry out two commands, of which the second reads what the first writes. Both begin at the same
time. -/
def runPipe (carry : Carrier) (isTested : Bool) (first second : Script) : Run Nat := fun state =>
  let number := state.buffers.length
  let settle := fun (status : Nat) (after : State) =>
    (do Run.passTime 0; pure status : Run Nat) (Run.rejoined state after)
  let read := fun (isEndless : Bool) (after : State) =>
    let chunks := Chunk.ordered (after.buffers.getD number [])
    let input : Stream :=
      { parts := chunks.map fun chunk => (chunk.time, chunk.octets), ending := after.clock }
    let reading := { after with
      buffers := after.buffers.take number, streams := after.streams ++ [input]
      sinks := state.sinks.put 0 (.stream after.streams.length)
      clock := state.clock, limit := none }
    match stage carry isTested false second reading with
    | .error interrupt last => .error interrupt (Run.rejoined state last)
    | .ok status last =>
        match endingOfFirst? chunks after.clock isEndless last.clock with
        | none => .error .stopped (Run.rejoined state last)
        | some ending =>
            let clock := max ending last.clock
            let held := if ending < after.clock then max state.held clock else last.held
            settle status { last with clock, held }
  match stage carry isTested false first { state with
      buffers := state.buffers ++ [[]], sinks := state.sinks.put 1 (.buffer number)
      limit := none } with
  | .ok _ after => read false after
  | .error .stopped after => read true { after with sinks := state.sinks }
  | .error interrupt after => .error interrupt (Run.rejoined state after)

/-- Carry out a command beside the script, which goes on at once. -/
def runBeside (carry : Carrier) (script : Script) : Run Nat := fun state =>
  let number := state.jobCount + 1
  let record := fun (status signal ending : Nat) (after : State) =>
    let joined := Run.rejoined state after
    EStateM.Result.ok (ε := Interrupt) 0 { joined with
      clock := state.clock, lastJob := some number
      jobs := ⟨number, ending, status, signal⟩ :: state.jobs }
  let action := concluding carry (carry (.script { isLast := true } script))
  let start := Run.childOf false state
  match action { start with
      clock := state.clock + 1000, process := number, jobCount := number
      streams := state.streams ++ [{}]
      sinks := state.sinks.put 0 (.stream state.streams.length) } with
  | .ok status after => record status 0 after.clock after
  | .error (.exited status) after | .error (.returned status) after =>
      record status 0 after.clock after
  | .error (.died signal) after => record (128 + signal) signal after.clock after
  | .error .failed after => record 2 0 after.clock after
  | .error .stopped after => record 0 0 (horizon + 1) after
  | .error _ after => record 0 0 after.clock after

/-- The number of rounds after which a loop is taken to be without an end. -/
def roundLimit : Nat := 400000

/-- The time that a round of a loop takes at least. -/
def roundTime : Nat := 5

/-- Go through rounds until one of them is the last, and give the status it leaves. Each is given
the status of the one before. -/
def rounds (one : Nat → Run (Bool × Nat)) : (count last : Nat) → Run Nat
  | 0, _ => throw .stopped
  | count + 1, last => do
      let (goesOn, status) ← one last
      if goesOn then rounds one count status else pure status

/-- One round of a loop: whether the loop goes on, and the status. Jumps that concern outer loops
are handed on. -/
def inLoop (action : Run (Bool × Nat)) : Run (Bool × Nat) := fun state =>
  let leave := fun (after : State) => { after with loops := state.loops }
  match action { state with loops := state.loops + 1 } with
  | .ok course after => .ok course (leave after)
  | .error (.left 0) after => .ok (false, 0) (leave after)
  | .error (.left (outer + 1)) after => .error (.left outer) (leave after)
  | .error (.resumed 0) after => .ok (true, 0) (leave after)
  | .error (.resumed (outer + 1)) after => .error (.resumed outer) (leave after)
  | .error interrupt after => .error interrupt after

/-- Carry out a loop. Its status is that of the last round. -/
def runLoop (carry : Carrier) (isTested stopsWhenTrue : Bool) (condition body : Script) :
    Run Nat :=
  rounds (fun last => inLoop do
    Run.passTime roundTime
    let status ← carry (.script { isTested := true } condition)
    if (status == 0) == stopsWhenTrue then pure (false, last)
    else
      let reached ← carry (.script { isTested } body)
      pure (true, reached)) roundLimit 0

/-- Carry out a loop over fields. -/
def runEach (carry : Carrier) (isTested : Bool) (line : Nat) (name : String) (body : Script) :
    (last : Nat) → List String → Run Nat
  | last, [] => pure last
  | _, field :: rest => do
      Run.assign line "" name field
      let (goesOn, status) ← inLoop do
        let reached ← carry (.script { isTested } body)
        pure (true, reached)
      if goesOn then runEach carry isTested line name body status rest else pure status

/-- The body of the first alternative of which a pattern fits a text. -/
def chosenBody? (expander : Expander) (text : String) : Script → Run (Option Script)
  | .alternative patterns body rest => do
      let fits ← patterns.anyM fun (pattern : Word) => do
        let glyphs ← expander.glyphsOf false pattern
        pure ((Pattern.ofGlyphs glyphs).fits text.toList)
      if fits then pure (some body) else chosenBody? expander text rest
  | _ => pure none

/-- Carry out a command. -/
def runScript (carry : Carrier) (mode : Mode) (script : Script) : Run Nat := do
  let plain : Mode := { isTested := mode.isTested }
  let status ← match script with
    | .simple command => checked carry mode (runSimple carry mode command)
    | .sequence first second => do
        let _ ← carry (.script plain first)
        carry (.script mode second)
    | .conjunction first second => do
        let status ← carry (.script { isTested := true } first)
        if status == 0 then carry (.script mode second) else pure status
    | .disjunction first second => do
        let status ← carry (.script { isTested := true } first)
        if status == 0 then pure status else carry (.script mode second)
    | .negation body => do
        let status ← carry (.script { isTested := true } body)
        pure (if status == 0 then 1 else 0)
    | .pipe first second => checked carry mode (runPipe carry mode.isTested first second)
    | .branch condition whenTrue whenFalse => do
        let status ← carry (.script { isTested := true } condition)
        carry (.script mode (if status == 0 then whenTrue else whenFalse))
    | .loop stopsWhenTrue condition body =>
        runLoop carry mode.isTested stopsWhenTrue condition body
    | .each line name items body => do
        let state ← get
        let fields ← match items with
          | some words => (expanderOf carry line).fieldsOf words
          | none => pure state.parameters
        runEach carry mode.isTested line name body 0 fields
    | .choice line subject alternatives => do
        let expander := expanderOf carry line
        let text ← expander.textOf false subject
        match ← chosenBody? expander text alternatives with
        | some body => carry (.script mode body)
        | none => pure 0
    | .define name body => do
        modify fun state => { state with functions := state.functions.put name body }
        pure 0
    | .redirected line body redirections =>
        redirecting (expanderOf carry line) redirections (carry (.script plain body))
    | .separate body => checked carry mode do
        let state ← get
        stage carry mode.isTested (mode.isLast && state.traps.isEmpty) body
    | .background body => runBeside carry body
    | .alternative _ _ _ | .nothing => pure 0
  setStatus status
  pure status

/-- Carry out tokens line by line, up to the first fault. -/
def runTokens (carry : Carrier) (mode : Mode) : (fuel status : Nat) → List Token → Run Nat
  | 0, status, _ => pure status
  | fuel + 1, status, tokens => do
      let begun := tokens.dropWhile fun token => token.kind == .operator "\n"
      match begun with
      | [] | [⟨_, .ending⟩] => pure status
      | _ =>
          match Reading.readLine (8 * (begun.length + 1)) begun with
          | .error located => do
              Run.complain located.line located.fault.message
              throw .failed
          | .ok (script, rest) => do
              let isLast := mode.isLast && rest.all fun token => token.kind == .ending
              let reached ← carry (.script ⟨mode.isTested, isLast⟩ script)
              runTokens carry mode fuel reached rest

/-- Carry out a text whose first line has a number. -/
def runText (carry : Carrier) (mode : Mode) (line : Nat) (characters : List Char) : Run Nat := do
  let tokens := Reading.tokens line characters
  let status ← runTokens carry mode (tokens.length + 1) 0 tokens
  setStatus status
  pure status

/-- What a shell is given: whether its script is an argument or its input, its flags, and what
follows them. -/
structure ShellArguments where
  hasScript : Bool := false
  readsInput : Bool := false
  operands : List String := []
deriving DecidableEq, Repr

/-- Take the flags of a shell from its arguments. A flag may be awaited by its name. -/
def takeShellFlags : (awaited : Option Bool) → ShellArguments → List String → Run ShellArguments
  | _, given, [] => pure given
  | some isSet, given, name :: rest => do
      Builtin.setNamedFlag 0 "" isSet name
      takeShellFlags none given rest
  | none, given, word :: rest => do
      match word.toList with
      | ['-'] | ['-', '-'] => pure { given with operands := rest }
      | sign :: letter :: letters =>
          if sign != '-' && sign != '+' then pure { given with operands := word :: rest }
          else
            let all := letter :: letters
            Builtin.setFlags 0 "" (sign == '-')
              (all.filter fun other => other != 'o' && other != 'c')
            takeShellFlags (if all.contains 'o' then some (sign == '-') else none)
              { given with
                hasScript := given.hasScript || all.contains 'c'
                readsInput := given.readsInput || all.contains 's' } rest
      | _ => pure { given with operands := word :: rest }

/-- Go on as a shell with arguments: the script is one of them, or a file, or the input. -/
def becomeShell (carry : Carrier) (name : String) (arguments : List String) : Run Nat := do
  modify fun state => { state with name }
  let given ← takeShellFlags none {} arguments
  let begin_ := fun (name : String) (parameters : List String) =>
    modify fun state => state.atShellStart name parameters
  match given.hasScript, given.readsInput, given.operands with
  | true, _, [] => Run.giveUp 0 "-c requires an argument"
  | true, _, script :: rest => do
      begin_ (rest.headD name) (rest.drop 1)
      concluding carry (carry (.text { isLast := true } 1 script.toList))
  | false, false, path :: rest => do
      match ← Run.withFile path Run.readInput with
      | .error _ => Run.giveUp 0 ("cannot open " ++ path ++ ": No such file")
      | .ok octets => do
          begin_ path rest
          concluding carry (carry (.text {} 1 (textOfOctets octets).toList))
  | false, _, operands => do
      begin_ name operands
      let octets ← Run.readInput
      concluding carry (carry (.text {} 1 (textOfOctets octets).toList))

/-- Do something as a program, whose end gives the status. A signal to all of it ends its
process. -/
def asProgram (action : Run Nat) : Run Nat := fun state =>
  match action state with
  | .error (.exited status) after | .error (.returned status) after => .ok status after
  | .error .failed after => .ok 2 after
  | .error (.left _) after | .error (.resumed _) after => .ok 0 after
  | .error (.killed signal) after => .error (.died signal) after
  | other => other

/-- Go on as a program of the machine. Where it could not write, that is told. -/
def becomeTool (program name : String) (arguments : List String) : Run Nat := do
  let status ← match tools.lookup program with
    | some tool => tool name arguments
    | none => pure 127
  let state ← get
  match state.broken with
  | some reason => do
      set { state with broken := none }
      Tool.complain name ("write error: " ++ reason)
      pure 1
  | none => pure status

/-- Go on as the program that words name. Complaints about it begin with a label. -/
def becomeProgram (carry : Carrier) (line : Nat) (label : String) (words : List String) :
    Run Nat := do
  let state ← get
  let name := words.headD ""
  match state.findProgram name with
  | .ok (program, _) => do
      set { state.atProgramStart with broken := none }
      asProgram (if shellNames.contains program then becomeShell carry name words.tail
        else becomeTool program name words.tail)
  | .error .denied => do
      Run.complain line (label ++ name ++ ": Permission denied")
      pure 126
  | .error _ => do
      Run.complain line (label ++ name ++ ": not found")
      pure 127

/-- Carry out a task by what carries out the tasks inside of it. -/
def step (carry : Carrier) : Task → Run Nat
  | .script mode script => runScript carry mode script
  | .text mode line characters => runText carry mode line characters
  | .program line label words => becomeProgram carry line label words

/-- Carry out a task. Where tasks are nested too deeply, the script is taken to have called itself
without an end. -/
def perform : (depth : Nat) → Carrier
  | 0, _ => Run.giveUp 1 "Maximum function recursion depth (1000) reached"
  | depth + 1, task => step (perform depth) task

end GeoBridge.Shell
