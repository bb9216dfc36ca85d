import GeoBridge.Crs.SideFile
import GeoBridge.Probe

/-!
Owns single conversions: the request, the command that carries it out, and its outcome.

Owns:
- requests and the paths they lead to;
- hooks before and after a run;
- the phases of a run: staging the coordinate system, running the command, removing the side file,
  judging the outcome.
-/

namespace GeoBridge

/-- What is to be converted, and into what. -/
structure Request where
  input : Path
  directory : Path
  typeName : String
  format : Format
  crs : Option Crs := none

namespace Request

/-- The name of the output: the type name and the extension of the format. -/
def filename (request : Request) : String :=
  request.typeName ++ request.format.extension.getD ""

/-- The absolute path of the output. -/
def outputPath (request : Request) (here : Path) : Path :=
  (request.directory.joinText request.filename).absolute here

end Request

/-- What a hook before a run sees: the command so far, the request, and the side file. -/
structure CommandContext where
  command : List String
  request : Request
  sideFile : Option Path := none

/-- What a tool family does around a run. The hook before it may change the command, to which the
paths are still to be added. The hook after it learns the exit code, -1 if the command did not run
to its end. -/
structure Hooks where
  before : CommandContext → Action (List String) := fun context => pure context.command
  after : Int → Action Unit := fun _ => pure ()

/-- A tool bound to an executable and an environment, with the library of coordinate systems that it
asks. -/
structure Tool where
  executable : String
  environment : Environment
  profile : Profile
  hooks : Hooks := {}
  runner : Runner
  limit : Option Limit := none
  systems : CrsLibrary
  naming : Crs.Naming := .numbered

/-- What a successful conversion produced. -/
structure Conversion where
  outputPath : Path
  formatName : String
  command : List String
  output : String
deriving DecidableEq, Repr

namespace Tool

/-- The probe of the tool. -/
def probe (tool : Tool) : Probe := { profile := tool.profile, runner := tool.runner }

/-- The codes of the formats that the tool supports. -/
def supportedFormats (tool : Tool) : Action (List String) :=
  tool.probe.supportedFormats tool.executable (some tool.environment)

/-- Whether the tool can be run. -/
def isAvailable (tool : Tool) : Action Bool :=
  tool.probe.isAvailable tool.executable (some tool.environment)

/-- The start of the command: the executable, the choice of the format, and its options. -/
def baseCommand (tool : Tool) (request : Request) : List String :=
  let choice := match tool.profile.formatFlag with
    | some flag => [flag, request.format.toolCode]
    | none => []
  tool.executable :: choice ++ request.format.options

/-- The part of the command that names the side file. -/
def crsArguments (tool : Tool) (sideFile : Option Path) : List String :=
  match sideFile, tool.profile.crsFlag with
  | some path, some flag => [flag, path.text]
  | _, _ => []

/-- The end of the command: the input and the output, in the order the tool expects. -/
def pathArguments (tool : Tool) (request : Request) (here : Path) : List String :=
  let input := (request.input.absolute here).text
  let output := (request.outputPath here).text
  if tool.profile.inputFirst then [input, output] else [output, input]

/-- Stage the coordinate system of a request beside its input. -/
def stage (tool : Tool) (request : Request) : Action (Option Path) := do
  match request.crs with
  | none => pure none
  | some crs =>
      match tool.profile.crsFlag with
      | none =>
          Action.record .warning .conversion
            (tool.profile.name ++ " takes no CRS argument, ignoring the requested CRS")
          pure none
      | some _ =>
          let here ← Action.here
          let directory := (request.input.absolute here).parent
          match ← (crs.stage tool.systems directory tool.naming).outcome with
          | .ok path => pure (some path)
          | .error (.outside (.system cause)) =>
              throw (.conversion
                (.sideFile tool.executable directory.text cause (tool.baseCommand request)))
          | .error failure => throw failure

/-- Run a command. The faults of running it are those of the conversion. -/
def execute (tool : Tool) (command : List String) : Action CommandOutcome := do
  match ← (Action.call tool.runner ⟨command, some tool.environment, tool.limit⟩).outcome with
  | .ok outcome => pure outcome
  | .error (.outside (.timedOut _ _ captured)) =>
      throw (.conversion (.timedOut tool.executable tool.limit command captured.content))
  | .error (.outside (.system cause)) =>
      throw (.conversion (.notStarted tool.executable cause command))
  | .error failure => throw failure

/-- Let the hook complete the command, and run it. -/
def attempt (tool : Tool) (request : Request) (sideFile : Option Path) :
    Action (List String × CommandOutcome) := do
  let prepared := tool.baseCommand request ++ tool.crsArguments sideFile
  Action.enter (.beforeRun prepared request.typeName sideFile)
  let adjusted ← tool.hooks.before { command := prepared, request, sideFile }
  let here ← Action.here
  let command := adjusted ++ tool.pathArguments request here
  let outcome ← tool.execute command
  pure (command, outcome)

/-- Tell the hook that the run is over. -/
def notifyAfter (tool : Tool) (exitCode : Int) : Action Unit := do
  Action.enter (.afterRun exitCode)
  tool.hooks.after exitCode

/-- Remove the side file, where there is one. -/
def discard (sideFile : Option Path) : Action Unit :=
  match sideFile with
  | some path => Action.removeFile path
  | none => pure ()

/-- Tell the hook that the run is over, and remove the side file even if the hook fails. -/
def conclude (tool : Tool) (sideFile : Option Path) (exitCode : Int) : Action Unit :=
  (tool.notifyAfter exitCode).finally_ (discard sideFile)

/-- The exit code that the hook after a run learns. -/
def reportedExitCode (ended : Except Failure (List String × CommandOutcome)) : Int :=
  match ended with
  | .ok (_, outcome) => outcome.exitCode
  | .error _ => -1

/-- The file that a run produced. Some tools write a directory that holds a file of its name. -/
def produced (request : Request) (path : Path) : Action Path := do
  if ← Action.isDirectory path then pure (path.joinText request.filename) else pure path

/-- The conversion that the end of a run amounts to. -/
def judge (tool : Tool) (request : Request) (command : List String) (outcome : CommandOutcome) :
    Action Conversion := do
  if outcome.exitCode != 0 then
    throw (.conversion
      (.unsuccessful tool.executable outcome.exitCode command outcome.output))
  let here ← Action.here
  let outputPath ← produced request (request.outputPath here)
  pure { outputPath, formatName := request.format.publicName, command, output := outcome.output }

/-- Stage the coordinate system and run the command. Without the side file nothing is run. -/
def stageAndAttempt (tool : Tool) (request : Request) :
    Action (Option Path × Except Failure (List String × CommandOutcome)) := do
  match ← (tool.stage request).outcome with
  | .error failure => pure (none, .error failure)
  | .ok sideFile =>
      let ended ← (tool.attempt request sideFile).outcome
      pure (sideFile, ended)

/-- Carry out a request. -/
def run (tool : Tool) (request : Request) : Action Conversion := do
  let (sideFile, ended) ← tool.stageAndAttempt request
  tool.conclude sideFile (reportedExitCode ended)
  let (command, outcome) ← Action.ofExcept ended
  tool.judge request command outcome

/-- Carry out a request and tell where its output is. -/
def convert (tool : Tool) (request : Request) : Action Path := do
  let conversion ← tool.run request
  pure conversion.outputPath

end Tool

end GeoBridge
