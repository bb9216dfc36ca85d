import GeoBridge.Site

/-!
Owns the running of child processes.

Owns:
- the environment of a child: that of its parent with the variables of the call put over it;
- the text of what a child wrote, in which every line break is the same;
- the ends of a child: by an exit code, by a signal, which counts as a negative one, or at the limit
  of its time.

Does not own: what a child does, which is up to the machine that it runs on.
-/

namespace GeoBridge.ChildProcess

/-- The environment of a child. -/
def mergedEnvironment (ambient : Environment) (overrides : Option Environment) : Environment :=
  Association.putAll ambient (overrides.getD [])

/-- Characters in which every line break is a line feed. -/
def unifyLineBreaks : List Char → List Char
  | '\r' :: '\n' :: rest => '\n' :: unifyLineBreaks rest
  | character :: rest => (if character == '\r' then '\n' else character) :: unifyLineBreaks rest
  | [] => []

/-- The text of what a child wrote. -/
def textOfOutput (octets : List UInt8) : String :=
  String.ofList (unifyLineBreaks (Text.Utf8.decode octets).toList)

/-- A command as it is shown where its time is over. -/
def shownCommand (argv : List String) : String :=
  "[" ++ ", ".intercalate (argv.map Text.quoted) ++ "]"

/-- Whether a text holds a null character, which ends texts where processes are started. -/
def holdsNull (text : String) : Bool := text.toList.contains '\x00'

/-- How a child ended: by itself, by a signal, or not before the limit of its time. -/
inductive Ending where
  | exited (status : Nat)
  | died (signal : Nat)
  | outlasted
deriving DecidableEq, Repr

/-- What a child did: how it ended, what it wrote until then, and the files that it left. -/
structure Conduct where
  ending : Ending
  written : List UInt8
  workspace : Workspace

/-- A machine on which children run: it tells what a child does with the files, given its
environment and its call, or why it cannot be started. -/
abbrev Machine := Workspace → Environment → CommandCall → Except SystemFault Conduct

/-- Why a call is refused before anything is started. -/
def refusal? (argv : List String) (environment : Environment) : Option Fault :=
  if argv.isEmpty then some .emptyCommand
  else if environment.any fun entry => entry.1.toList.contains '=' then some .illegalVariable
  else if (argv ++ environment.flatMap fun entry => [entry.1, entry.2]).any holdsNull then
    some .nullCharacter
  else none

/-- The outcome of a call on which a child was started. -/
def outcomeOf (call : CommandCall) (child : Conduct) : Except Failure CommandOutcome :=
  let output := textOfOutput child.written
  match child.ending with
  | .exited status => .ok ⟨status, output⟩
  | .died signal => .ok ⟨-(signal : Int), output⟩
  | .outlasted =>
      .error (.outside (.timedOut (shownCommand call.argv) (ConversionFault.limitText call.limit)
        (.text output)))

/-- Run a command on a machine, in an environment that is given. -/
def run (machine : Machine) (ambient : Environment) (call : CommandCall) :
    Action CommandOutcome := do
  Action.record .debug .process ("running: " ++ Text.shellLine call.argv)
  let environment := mergedEnvironment ambient call.environment
  match refusal? call.argv environment with
  | some fault => throw (.outside fault)
  | none =>
      let site ← get
      match machine site.workspace environment call with
      | .error fault => throw (.system fault)
      | .ok child =>
          set { site with workspace := child.workspace }
          Action.ofExcept (outcomeOf call child)

end GeoBridge.ChildProcess
