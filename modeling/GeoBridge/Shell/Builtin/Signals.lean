import GeoBridge.Fault
import GeoBridge.Shell.Builtin.Variables

/-!
Owns the commands of the shell about signals and jobs.

Owns:
- the numbers and names of signals;
- the sending of signals to the script and to its jobs;
- the scripts that answer signals;
- the waiting for jobs.
-/

namespace GeoBridge.Shell

namespace Builtin

/-- The name of a signal without the letters that all names begin with. -/
def signalName? (number : Nat) : Option String :=
  (signalNames.lookup number).map fun name => String.ofList (name.toList.drop 3)

/-- The number of a signal, from its number or its name. -/
def signal? (text : String) : Option Nat :=
  match naturalOf? text with
  | some number => if number ≤ 64 then some number else none
  | none => (signalNames.find? fun entry => entry.2 == "SIG" ++ text.toUpper).map Prod.fst

/-- The number of a condition that a script can answer: a signal, or zero for its own end. -/
def condition? (text : String) : Option Nat :=
  if text.toUpper == "EXIT" then some 0 else signal? text

/-- The signals that a process takes no notice of. -/
def harmlessSignals : List Nat := [0, 17, 18, 23, 28]

/-- How signals are sent. -/
def showUsage (line : Nat) : Run Nat := do
  Run.complain line "kill: Usage: kill [-s sigspec | -signum | -sigspec] [pid | job]... or"
  Run.warn "kill -l [exitstatus]"
  throw .failed

/-- Send a signal to the script itself, which a script of its own may answer. Zero is none. -/
def receive (signal : Nat) : Run Nat := do
  let state ← get
  match if signal == 0 then none else (state.outerTraps.getD state.traps).find? signal with
  | some answer =>
      if signal == 9 || signal == 19 then throw (.killed signal)
      else
        set (if state.outerTraps.isSome then
          { state with outerPending := state.outerPending ++ [answer] }
        else { state with pending := state.pending ++ [answer] })
        pure 0
  | none => if harmlessSignals.contains signal then pure 0 else throw (.killed signal)

/-- The job that a text stands for: by the number of its process, or by its place behind a percent
sign. -/
def job? (state : State) (text : String) : Option Job :=
  match text.toList with
  | '%' :: digits =>
      match String.toNat? (String.ofList digits) with
      | some number => state.jobs.find? fun job => job.number == number
      | none => state.jobs.head?
  | _ => state.jobs.find? fun job => jobNumber job.number == text

/-- End a job by a signal. What it would have written later is never written. -/
def endJob (job : Job) (signal : Nat) : Run Unit :=
  modify fun state =>
    { state with
      jobs := state.jobs.map fun other =>
        if other.number == job.number then
          { other with ending := state.clock, status := 128 + signal, signal }
        else other
      buffers := state.buffers.map fun chunks => chunks.filter fun chunk =>
        chunk.owner != job.number || chunk.time ≤ state.clock }

/-- Send a signal to a process. -/
def sendTo (line signal : Nat) (target : String) : Run Nat := do
  let state ← get
  if target == processNumber || target == "0" then receive signal
  else
    match (job? state target).filter fun job => state.clock < job.ending with
    | some job => do
        if !harmlessSignals.contains signal then endJob job signal
        pure 0
    | none => do
        if !target.startsWith "%" && !target.startsWith "-" then
          let _ ← requireNumber line "kill: " target
        Run.complain line (if target.startsWith "%" then "kill: No such job: " ++ target
          else "kill: No such process\n")
        if target.startsWith "%" then throw .failed else pure 1

/-- Send a signal to processes. -/
def sendAll (line signal : Nat) : List String → Run Nat
  | [] => showUsage line
  | targets => do
      let statuses ← targets.mapM (sendTo line signal)
      pure (statuses.foldl max 0)

/-- List the names of signals, or give the one that a status stands for. -/
def listSignals (line : Nat) : List String → Run Nat
  | [] => do
      Run.printLine "0"
      signalNames.forM fun (number, _) => Run.printLine ((signalName? number).getD "")
      pure 0
  | text :: _ => do
      let status ← requireNumber line "kill: " text
      match signalName? (if 128 < status then status - 128 else status) with
      | some name => do
          Run.printLine name
          pure 0
      | none => Run.giveUp line ("kill: invalid signal number or exit status: " ++ text)

/-- Send a signal, which is that of termination unless another is given. -/
def kill : Builtin := fun line arguments =>
  match arguments with
  | [] => showUsage line
  | first :: rest =>
      match first.toList, rest with
      | ['-', '-'], _ => sendAll line 15 rest
      | ['-', 'l'], _ => listSignals line rest
      | ['-', 's'], name :: targets =>
          match signal? name with
          | some number => sendAll line number targets
          | none => Run.giveUp line ("kill: invalid signal number or name: " ++ name)
      | '-' :: name, _ =>
          match signal? (String.ofList name) with
          | some number => sendAll line number rest
          | none => Run.giveUp line ("kill: Illegal option -" ++ String.ofList (name.take 1))
      | _, _ => sendAll line 15 arguments

/-- Show the scripts that answer conditions. -/
def showTraps : Run Nat := do
  let state ← get
  let ordered := state.traps.mergeSort fun first second => first.1 ≤ second.1
  ordered.forM fun (number, answer) =>
    let name := if number == 0 then "EXIT" else (signalName? number).getD ""
    Run.printLine ("trap -- " ++ quotedText answer ++ " " ++ name)
  pure 0

/-- Answer conditions with a script, or stop answering them. A single argument is a condition. -/
def trap : Builtin := fun _ arguments => do
  match if arguments.head? == some "--" then arguments.tail else arguments with
  | [] => showTraps
  | action :: conditions =>
      let resets := conditions.isEmpty || (naturalOf? action).isSome
      let rec answer : List String → Run Nat
        | [] => pure 0
        | text :: rest => do
            match condition? text with
            | none => do
                Run.warn ("trap: " ++ text ++ ": bad trap")
                pure 1
            | some number => do
                modify fun state =>
                  { state with
                    traps :=
                      if resets || action == "-" then state.traps.erase number
                      else state.traps.put number action }
                answer rest
      answer (if resets then action :: conditions else conditions)

/-- Wait for jobs, and give the status of the last one. -/
def wait : Builtin := fun line arguments => do
  if arguments.isEmpty then
    let state ← get
    Run.awaitTime ((state.jobs.map Job.ending).foldl max 0)
    pure 0
  else
    let statuses ← arguments.mapM fun (target : String) => do
      let state ← get
      match job? state target with
      | some job => do
          Run.awaitTime job.ending
          if job.signal == 0 then pure job.status else Run.reportSignal job.signal
      | none => do
          if target.startsWith "%" then Run.giveUp line ("wait: No such job: " ++ target)
          let _ ← requireNumber line "wait: " target
          pure 127
    pure (statuses.getLast?.getD 0)

end Builtin

end GeoBridge.Shell
