import GeoBridge.Shell.Machine
import GeoBridge.Shell.State

/-!
Owns the opening of files for input and output.

Owns:
- the devices of the machine, which have no content of their own;
- where a descriptor leads once a file is opened for it, and what stands in the way;
- the reading of whole files, of which the input of the script is one.
-/

namespace GeoBridge.Shell

/-- A device: one that takes everything and gives nothing, one that gives zeros, one that takes
nothing, or one that stands for a descriptor. -/
inductive Device where
  | null
  | zero
  | full
  | descriptor (number : Nat)
deriving DecidableEq, Repr

/-- The devices by their names. -/
def devices : List (String × Device) :=
  [("null", .null), ("zero", .zero), ("full", .full), ("stdin", .descriptor 0),
   ("stdout", .descriptor 1), ("stderr", .descriptor 2)]

/-- The device at a path, if there is one. -/
def deviceAt? (workspace : Workspace) (path : Path) : Option Device :=
  match workspace.locate path with
  | .ok ["dev", name] => devices.lookup name
  | .ok ["dev", "fd", number] => number.toNat?.map .descriptor
  | _ => none

/-- The zeros that are read of the device that gives them, which are many enough for every use. -/
def zeros : Stream :=
  let block := List.replicate 4096 (0 : UInt8)
  { parts := List.replicate 2048 (0, block) }

namespace Run

/-- Open a file for output, whose content is kept if that is asked for. Where no file may be
replaced, the one that is there stands in the way. -/
def openOutput (path : Path) (keeps replaces : Bool) : Run (Except Obstacle Sink) := do
  let state ← get
  match deviceAt? state.workspace path with
  | some (.descriptor number) =>
      pure (match state.sinks.find? number with
        | some sink => .ok sink
        | none => .error .missing)
  | some .full => pure (.ok .full)
  | some _ => pure (.ok .nowhere)
  | none =>
      let earlier := state.workspace.read path
      if !keeps && !replaces && earlier.isOk then pure (.error .exists)
      else
        match state.workspace.writable path with
        | .ok place => do
            let content := if keeps then earlier.toOption.getD [] else []
            set { state with
              workspace := state.workspace.put place (.file content)
              positions := if keeps then state.positions else state.positions ++ [0] }
            pure (.ok (.file place (if keeps then none else some state.positions.length)))
        | .error obstacle => pure (.error obstacle)

/-- Open a file for input. -/
def openInput (path : Path) : Run (Except Obstacle Sink) := do
  let state ← get
  match deviceAt? state.workspace path with
  | some (.descriptor number) =>
      pure (match state.sinks.find? number with
        | some sink => .ok sink
        | none => .error .missing)
  | some .null => return .ok (← openStream {})
  | some _ => return .ok (← openStream zeros)
  | none =>
      match state.workspace.read path with
      | .ok octets =>
          let place := (state.workspace.locate path).toOption
          return .ok (← openStream { parts := [(0, octets)], place })
      | .error obstacle => pure (.error obstacle)

/-- Whether the input is the content of the very file that the output is written to. -/
def feedsItself : Run Bool := do
  let state ← get
  match ← inputStream, state.sinks.find? 1 with
  | some (_, stream), some (.file place _) =>
      pure (stream.place == some place && state.workspace.entryAt? place != some (.file []))
  | _, _ => pure false

/-- Do something with the input that a sink stands for. -/
def withInput {α : Type} (sink : Sink) (action : Run α) : Run α := do
  let state ← get
  withSinks (state.sinks.put 0 sink) action

/-- Do something with the input that a file is, of which a hyphen stands for the input at hand. -/
def withFile {α : Type} (name : String) (action : Run α) : Run (Except Obstacle α) := do
  if name == "-" then return .ok (← action)
  else
    match ← openInput (pathOf name) with
    | .error obstacle => pure (.error obstacle)
    | .ok sink => do
        let state ← get
        match state.workspace.inspect (pathOf name) with
        | .ok .directory => pure (.error .isDirectory)
        | _ => return .ok (← withInput sink action)

end Run

/-- How an obstacle is told. -/
def obstacleText : Obstacle → String
  | .missing => "No such file or directory"
  | .notDirectory => "Not a directory"
  | .nameTooLong => "File name too long"
  | .isDirectory => "Is a directory"
  | .exists => "File exists"
  | .nullCharacter => "Invalid argument"
  | .deviceFull => "No space left on device"

end GeoBridge.Shell
