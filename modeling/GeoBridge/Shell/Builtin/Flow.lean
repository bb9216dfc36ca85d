import GeoBridge.Shell.Builtin.Variables
import GeoBridge.Shell.Condition

/-!
Owns the commands of the shell that direct the flow of a script.

Owns:
- conditions;
- the ends of scripts and functions, and the jumps out of loops;
- the working directory.
-/

namespace GeoBridge.Shell

namespace Builtin

/-- Do nothing but give a status. -/
def give (status : Nat) : Builtin := fun _ _ => pure status

/-- Test a condition. -/
def test (name : String) : Builtin := fun line arguments => do
  match Condition.judge (← get) false arguments with
  | .ok holds => pure (if holds then 0 else 1)
  | .error text => do
      Run.complain line (name ++ ": " ++ text)
      pure 2

/-- Test the condition before a closing bracket. -/
def bracket : Builtin := fun line arguments =>
  if arguments.getLast? == some "]" then test "[" line arguments.dropLast
  else do
    Run.complain line "[: missing ]"
    pure 2

/-- The status that an end is given, or that of the last command. -/
def givenStatus (line : Nat) (label : String) : List String → Run Nat
  | [] => do
      let state ← get
      pure state.status
  | text :: _ => requireNumber line label text

/-- End the script. -/
def exit : Builtin := fun line arguments => do
  let status ← givenStatus line "exit: " arguments
  throw (.exited (status % 256))

/-- End the function. -/
def leaveFunction : Builtin := fun line arguments => do
  let status ← givenStatus line "return: " arguments
  throw (.returned (status % 256))

/-- Jump out of loops, or to their next round. There is nowhere to jump to outside of loops, and
no more loops than there are can be left. -/
def jump (name : String) (interrupt : Nat → Interrupt) : Builtin := fun line arguments => do
  let count ← match arguments with
    | [] => pure 1
    | text :: _ => requireNumber line (name ++ ": ") text
  if count == 0 then Run.giveUp line (name ++ ": Illegal number: 0")
  let state ← get
  if state.loops == 0 then pure 0 else throw (interrupt (min count state.loops - 1))

/-- Show the working directory. -/
def showDirectory : Builtin := fun _ _ => do
  let state ← get
  Run.printLine (toOctetText state.workspace.herePath.text)
  pure 0

/-- The directory that is asked for, and whether its path is to be shown. -/
def askedDirectory (state : State) (arguments : List String) : String × Bool :=
  let isOption := fun (word : String) => ["-L", "-P", "--"].contains word
  match arguments.dropWhile isOption with
  | [] => ((state.bindings.find? "HOME").getD "", false)
  | "-" :: _ => ((state.bindings.find? "OLDPWD").getD "", true)
  | path :: _ => (path, false)

/-- Change the working directory. -/
def changeDirectory : Builtin := fun line arguments => do
  let state ← get
  let (path, isShown) := askedDirectory state arguments
  if path.isEmpty then pure 0
  else
    match state.workspace.locate (pathOf path), state.workspace.inspect (pathOf path) with
    | .ok place, .ok .directory => do
        let left := toOctetText state.workspace.herePath.text
        let reached := toOctetText (Path.mk .single place).text
        set (withExported "OLDPWD" (withExported "PWD" { state with
          workspace := { state.workspace with here := place }
          bindings := (state.bindings.put "OLDPWD" left).put "PWD" reached }))
        if isShown then Run.printLine reached
        pure 0
    | _, _ => Run.giveUp line ("cd: can't cd to " ++ path)

end Builtin

end GeoBridge.Shell
