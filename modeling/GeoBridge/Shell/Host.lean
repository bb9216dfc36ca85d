import GeoBridge.ChildProcess
import GeoBridge.Shell.Interpreter

/-!
Owns the machine as a place where child processes run.

Owns:
- the limit of time of a child, and the state in which it starts;
- what a child did: how it ended, and what it wrote within its time.
-/

namespace GeoBridge.Shell

/-- A limit in millionths of a second. What is not finite limits nothing, and what lies below zero
is over at once. -/
def microseconds : Limit → Option Nat
  | .whole seconds => some (seconds.toNat * 1000000)
  | .fractional seconds =>
      if !seconds.isFinite then (if seconds.isBelowZero then some 0 else none)
      else if seconds.isBelowZero then some 0
      else
        some (seconds.significand * Decimal.twoTo seconds.power.toNat * 1000000
          / Decimal.twoTo (-seconds.power).toNat)

/-- The depth to which the tasks of a script can be nested. -/
def taskDepth : Nat := 6000

/-- The fault of a command that cannot be started. -/
def startFault (name : String) : Condition → SystemFault
  | .denied => .ofFile 13 "Permission denied" name
  | .notDirectory => .notADirectory name
  | .general => .nameTooLong name
  | _ => .noSuchFile name

/-- The state in which a child starts. -/
def initialState (workspace : Workspace) (environment : Environment) (call : CommandCall) :
    State where
  name := toOctetText (call.argv.headD "")
  bindings := environment.map fun (name, value) =>
    (toOctetText name, toOctetText value)
  exported := environment.keys.map toOctetText
  workspace := withMachine workspace
  limit := call.limit.bind microseconds

/-- The machine: its programs are the shell and the tools that scripts call. -/
def host : ChildProcess.Machine := fun workspace environment call =>
  let start := initialState workspace environment call
  let name := call.argv.headD ""
  let path := (environment.find? "PATH").map toOctetText
  match findProgram start path (toOctetText name) with
  | .error condition => .error (startFault name condition)
  | .ok _ =>
      let action : Run Nat := do
        Run.passTime 0
        perform taskDepth (.program 1 "" (call.argv.map toOctetText))
      let (ending, last) := match action start with
        | .ok status after => (Interrupt.exited status, after)
        | .error interrupt after => (interrupt, after)
      let left := withoutMachine workspace last.workspace
      let written := last.buffers.headD []
      let outlives := start.limit.any (· ≤ last.held)
      match ending, outlives with
      | .exited status, false => .ok ⟨.exited status, Chunk.octetsOf written, left⟩
      | .died signal, false | .killed signal, false =>
          .ok ⟨.died signal, Chunk.octetsOf written, left⟩
      | _, _ =>
          let inTime := written.filter fun chunk => start.limit.all (chunk.time < ·)
          .ok ⟨.outlasted, Chunk.octetsOf inTime, left⟩

end GeoBridge.Shell
