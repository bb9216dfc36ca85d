import GeoBridge.Association
import GeoBridge.Shell.Octets
import GeoBridge.Shell.Script
import GeoBridge.Workspace

/-!
Owns the state in which shell scripts run, and what can interrupt them.

Owns:
- parameters, variables, functions and the status of the last command;
- descriptors, with the buffers that gather output, each part with its time, and the streams that
  input comes from;
- the time that has gone by, in millionths of a second, its limit, and the jobs that go on beside
  the script.
-/

namespace GeoBridge.Shell

/-- Octets that were written, with the time at which they were, and the number of the job that
wrote them. The script itself has the number zero. -/
structure Chunk where
  time : Nat
  owner : Nat
  octets : List UInt8
deriving DecidableEq, Repr

/-- The chunks of a buffer, which holds them last first, in the order of their times. -/
def Chunk.ordered (buffer : List Chunk) : List Chunk :=
  buffer.reverse.mergeSort fun first second => first.time ≤ second.time

/-- The octets of a buffer. -/
def Chunk.octetsOf (buffer : List Chunk) : List UInt8 := (ordered buffer).flatMap octets

/-- Input that is still to be read, each part with the time at which it comes, the time at which it
ends, and the place of the file that it is the content of, if it is that of one. -/
structure Stream where
  parts : List (Nat × List UInt8) := []
  ending : Nat := 0
  place : Option Place := none
deriving DecidableEq, Repr

/-- Where a descriptor leads: to a buffer, to a file, nowhere, to where nothing more can be written,
or to a stream. A file is written at a position, which has a number, or at its end. -/
inductive Sink where
  | buffer (number : Nat)
  | file (place : Place) (position : Option Nat)
  | nowhere
  | full
  | stream (number : Nat)
deriving DecidableEq, Repr

/-- A job that goes on beside the script: its number, the time of its end, its status, and the
signal that ended it, if there was one. -/
structure Job where
  number : Nat
  ending : Nat
  status : Nat
  signal : Nat := 0
deriving DecidableEq, Repr

/-- The state of a running script. Programs learn of the exported variables only. Beside the status
of the last command stand that of the last script inside of a word, the number of loops under way,
the values that variables had before the functions under way made them their own, what complaints
begin with while a command carries out a text, the scripts that answer signals, those of them that
wait to be carried out, those of the shell that a shell of its own belongs to, of which some may
wait there too, and why nothing could be written last. -/
structure State where
  name : String
  parameters : List String := []
  bindings : Association String String := []
  exported : List String := []
  readOnly : List String := []
  functions : Association String Script := []
  flags : List Char := []
  status : Nat := 0
  nested : Nat := 0
  loops : Nat := 0
  frames : List (Association String (Option String)) := []
  heading : String := ""
  traps : Association Nat String := []
  pending : List String := []
  outerTraps : Option (Association Nat String) := none
  outerPending : List String := []
  broken : Option String := none
  buffers : List (List Chunk) := [[]]
  streams : List Stream := [{}]
  positions : List Nat := []
  sinks : Association Nat Sink := [(0, .stream 0), (1, .buffer 0), (2, .buffer 0)]
  workspace : Workspace
  clock : Nat := 0
  held : Nat := 0
  limit : Option Nat := none
  process : Nat := 0
  jobs : List Job := []
  jobCount : Nat := 0
  lastJob : Option Nat := none

/-- What interrupts a script: its end, a fault, a signal to all of it, the end of one of its
processes by a signal, the limit of its time, a jump out of loops or to their next round, or the
end of a function. -/
inductive Interrupt where
  | exited (status : Nat)
  | failed
  | killed (signal : Nat)
  | died (signal : Nat)
  | stopped
  | left (loops : Nat)
  | resumed (loops : Nat)
  | returned (status : Nat)
deriving DecidableEq, Repr

/-- An action of a script. -/
abbrev Run := EStateM Interrupt State

/-- The time after which nothing is waited for: an hour. -/
def horizon : Nat := 3600000000

/-- The path that a text of octets spells. -/
def pathOf (text : String) : Path := Path.ofString (ofOctetText text)

/-- The flags of the shell, with their names. -/
def flagNames : List (Char × String) :=
  [('e', "errexit"), ('f', "noglob"), ('I', "ignoreeof"), ('i', "interactive"), ('m', "monitor"),
   ('n', "noexec"), ('s', "stdin"), ('x', "xtrace"), ('v', "verbose"), ('V', "vi"), ('E', "emacs"),
   ('C', "noclobber"), ('a', "allexport"), ('b', "notify"), ('u', "nounset"), ('p', "privileged")]

/-- Whether a flag of the shell is set. -/
def State.hasFlag (state : State) (flag : Char) : Bool := state.flags.contains flag

/-- Whether a state has its output or its faults gathered in the first buffer. -/
def State.holdsOutput (state : State) : Bool :=
  state.sinks.any fun entry => entry.2 == .buffer 0

/-- Octets over those of a content from a position on. What lies before it is filled with zeros. -/
def written (content octets : List UInt8) (position : Nat) : List UInt8 :=
  content.take position ++ List.replicate (position - content.length) 0 ++ octets
    ++ content.drop (position + octets.length)

namespace Run

/-- Write octets to a descriptor. -/
def emit (descriptor : Nat) (octets : List UInt8) : Run Unit := do
  let state ← get
  match state.sinks.find? descriptor with
  | some (.buffer number) =>
      let chunk : Chunk := ⟨state.clock, state.process, octets⟩
      set { state with buffers := state.buffers.modify number fun chunks => chunk :: chunks }
  | some (.file place position) =>
      match state.workspace.entryAt? place with
      | some (.file earlier) =>
          let start :=
            (position.map fun number => state.positions.getD number 0).getD earlier.length
          let content := written earlier octets start
          set { state with
            workspace := state.workspace.put place (.file content)
            positions := (position.map fun number =>
              state.positions.set number (start + octets.length)).getD state.positions }
      | _ => pure ()
  | some .full =>
      if descriptor == 1 then set { state with broken := some "No space left on device" }
  | some (.stream _) | none =>
      if descriptor == 1 then set { state with broken := some "Bad file descriptor" }
  | some .nowhere => pure ()

/-- Print text. -/
def print (text : String) : Run Unit := emit 1 (octetsOfText text)

/-- Print a line. -/
def printLine (text : String) : Run Unit := print (text ++ "\n")

/-- Print a line where faults are shown. -/
def warn (text : String) : Run Unit := emit 2 (octetsOfText (text ++ "\n"))

/-- Complain about a line of the script. -/
def complain (line : Nat) (text : String) : Run Unit := do
  let state ← get
  warn (state.name ++ ": " ++ toString line ++ ": " ++ state.heading ++ text)

/-- Complain, and end the script. -/
def giveUp {α : Type} (line : Nat) (text : String) : Run α := do
  complain line text
  throw .failed

/-- Do something in which complaints have a heading. -/
def underHeading {α : Type} (heading : String) (action : Run α) : Run α := fun state =>
  match action { state with heading } with
  | .ok value after => .ok value { after with heading := state.heading }
  | .error interrupt after => .error interrupt { after with heading := state.heading }

/-- Assign a variable, unless it is only to be read. Complaints begin with a label. -/
def assign (line : Nat) (label name value : String) : Run Unit := do
  let state ← get
  if state.readOnly.contains name then giveUp line (label ++ name ++ ": is read only")
  else
    set { state with
      bindings := state.bindings.put name value
      exported :=
        if state.hasFlag 'a' && !state.exported.contains name then name :: state.exported
        else state.exported }

/-- Let time go by. A script does not live to see its limit. -/
def passTime (duration : Nat) : Run Unit := do
  let state ← get
  let clock := state.clock + duration
  let held := if state.holdsOutput then max state.held clock else state.held
  set { state with clock, held }
  if state.limit.any (· ≤ clock) || horizon < clock then throw .stopped

/-- Wait for a time, unless it has gone by. -/
def awaitTime (time : Nat) : Run Unit := do
  let state ← get
  passTime (time - state.clock)

/-- Do something with other descriptors, and put the old ones back. -/
def withSinks {α : Type} (sinks : Association Nat Sink) (action : Run α) : Run α := fun state =>
  match action { state with sinks } with
  | .ok value after => .ok value { after with sinks := state.sinks }
  | .error interrupt after => .error interrupt { after with sinks := state.sinks }

/-- What an action writes to a buffer of its own. -/
def captured (action : Run Unit) : Run (List Chunk) := do
  let state ← get
  let number := state.buffers.length
  set { state with buffers := state.buffers ++ [[]] }
  withSinks (state.sinks.put 1 (.buffer number)) action
  let after ← get
  set { after with buffers := after.buffers.take number }
  pure ((after.buffers[number]?).getD [])

/-- A new stream of the given content, as something a descriptor can lead to. -/
def openStream (stream : Stream) : Run Sink := do
  let state ← get
  set { state with streams := state.streams ++ [stream] }
  pure (.stream state.streams.length)

/-- The stream of the input, with its number. -/
def inputStream : Run (Option (Nat × Stream)) := do
  let state ← get
  match state.sinks.find? 0 with
  | some (.stream number) => pure ((state.streams[number]?).map fun stream => (number, stream))
  | _ => pure none

/-- Leave less of a stream to be read. -/
def leaveInput (number : Nat) (parts : List (Nat × List UInt8)) : Run Unit :=
  modify fun state =>
    { state with streams := state.streams.modify number fun stream => { stream with parts } }

/-- Read all that is left of the input, which takes until it ends. -/
def readInput : Run (List UInt8) := do
  match ← inputStream with
  | none => pure []
  | some (number, stream) => do
      leaveInput number []
      awaitTime stream.ending
      pure (stream.parts.flatMap Prod.snd)

/-- The octets of a stream up to the first line feed, the time at which they have come, and what is
left, if there is a whole line. -/
def splitParts (time : Nat) : List (Nat × List UInt8) →
    List UInt8 × Nat × Option (List (Nat × List UInt8))
  | [] => ([], time, none)
  | (came, octets) :: rest =>
      match octets.dropWhile (· != 10) with
      | [] =>
          let (further, last, left) := splitParts (max time came) rest
          (octets ++ further, last, left)
      | _ :: behind => (octets.takeWhile (· != 10), max time came, some ((came, behind) :: rest))

/-- Read a line of the input, and tell whether it is a whole one. -/
def readLine : Run (List UInt8 × Bool) := do
  match ← inputStream with
  | none => pure ([], false)
  | some (number, stream) => do
      let (octets, time, left) := splitParts 0 stream.parts
      leaveInput number (left.getD [])
      awaitTime (if left.isSome then time else stream.ending)
      pure (octets, left.isSome)

/-- The state of a script after one of its children: only files, output, input, time and what waits
to answer signals are kept of the child. -/
def rejoined (state child : State) : State :=
  let isOuter := state.outerTraps.isNone
  { state with
    pending := state.pending ++ if isOuter then child.outerPending else []
    outerPending := state.outerPending ++ if isOuter then [] else child.outerPending
    buffers := child.buffers, streams := child.streams, positions := child.positions
    clock := child.clock, held := child.held
    jobCount := child.jobCount
    workspace := { child.workspace with here := state.workspace.here } }

/-- How the end of a process by a signal is told. -/
def signalTexts : List (Nat × String) :=
  [(1, "Hangup"), (3, "Quit"), (4, "Illegal instruction"), (5, "Trace/breakpoint trap"),
   (6, "Aborted"), (7, "Bus error"), (8, "Floating point exception"), (9, "Killed"),
   (10, "User defined signal 1"), (11, "Segmentation fault"), (12, "User defined signal 2"),
   (14, "Alarm clock"), (15, "Terminated")]

/-- Tell of the end by a signal, and give the status that stands for it. -/
def reportSignal (signal : Nat) : Run Nat := do
  match signalTexts.lookup signal with
  | some text => warn text
  | none => pure ()
  pure (128 + signal)

/-- What a shell of its own starts with. The limit is that of the script alone, unless nothing comes
after the child and the script makes way for it. -/
def childOf (makesWay : Bool) (state : State) : State :=
  { state with
    traps := state.traps.filter fun entry => entry.2.isEmpty
    outerTraps := some (state.outerTraps.getD state.traps), outerPending := []
    limit := if makesWay then state.limit else none
    jobs := [] }

/-- Do something in a shell of its own. Its end gives the status. A signal to the script goes to all
of it. -/
def separately (makesWay : Bool) (action : Run Nat) : Run Nat := fun state =>
  let settle := fun (ending : Run Nat) (child : State) =>
    (do passTime 0; ending : Run Nat) (rejoined state child)
  match action (childOf makesWay state) with
  | .ok status child => settle (pure status) child
  | .error (.exited status) child | .error (.returned status) child => settle (pure status) child
  | .error .failed child => settle (pure 2) child
  | .error (.left _) child | .error (.resumed _) child => settle (pure 0) child
  | .error (.died signal) child =>
      settle (if makesWay then throw (.died signal) else reportSignal signal) child
  | .error interrupt child => .error interrupt (rejoined state child)

end Run

/-- The number of the process, as scripts see it. -/
def processNumber : String := "4242"

/-- The number that stands for a job. -/
def jobNumber (job : Nat) : String := toString (4242 + job)

/-- The value of a parameter, if it has one. -/
def State.parameter? (state : State) (name : String) : Option String :=
  match name with
  | "#" => some (toString state.parameters.length)
  | "?" => some (toString state.status)
  | "$" => some processNumber
  | "-" => some (String.ofList ((flagNames.map Prod.fst).reverse.filter state.hasFlag))
  | "!" => state.lastJob.map jobNumber
  | "0" => some state.name
  | "@" | "*" => if state.parameters.isEmpty then none else some (" ".intercalate state.parameters)
  | _ =>
      match name.toNat? with
      | some position => state.parameters[position - 1]?
      | none => state.bindings.find? name

/-- The characters that divide fields: blanks, of which many count as one, and marks. -/
structure Separators where
  blanks : List Char
  marks : List Char
deriving DecidableEq, Repr

/-- The separators of a script. -/
def State.separators (state : State) : Separators :=
  let all := (((state.bindings.find? "IFS").getD " \t\n").toList)
  let isBlank := fun (character : Char) => " \t\n".toList.contains character
  ⟨all.filter isBlank, all.filter (!isBlank ·)⟩

/-- What stands between parameters that are taken together: the first of the separators. -/
def State.joint (state : State) : String :=
  match state.bindings.find? "IFS" with
  | none => " "
  | some separators => String.ofList (separators.toList.take 1)

end GeoBridge.Shell
