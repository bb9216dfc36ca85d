import GeoBridge.Profile
import GeoBridge.Site

/-!
Owns the questions that are put to a tool: which formats it supports, and whether it is there.

Faults of running the tool are answered by an empty list or a denial. All other failures of a
runner pass through.
-/

namespace GeoBridge

/-- How a tool is asked: its profile, what runs it, and the limit of each run. -/
structure Probe where
  profile : Profile
  runner : Runner
  limit : Option Limit := none

namespace Probe

/-- Run the tool with some arguments. -/
def ask (probe : Probe) (executable : String) (environment : Option Environment)
    (arguments : List String) : Action (Except Failure CommandOutcome) :=
  (Action.call probe.runner ⟨executable :: arguments, environment, probe.limit⟩).outcome

/-- The codes of the formats that a tool announces. The exit code does not matter. -/
def listFormats (probe : Probe) (executable : String) (environment : Option Environment) :
    Action (List String) := do
  match ← probe.ask executable environment probe.profile.probeArguments with
  | .ok outcome => pure (probe.profile.announced outcome.output)
  | .error (.outside fault) =>
      if fault.concernsProcess then throw (.unprobed executable fault)
      else throw (.outside fault)
  | .error failure => throw failure

/-- The codes of the formats that a tool supports, none if it cannot be run. -/
def supportedFormats (probe : Probe) (executable : String) (environment : Option Environment) :
    Action (List String) := do
  match ← (probe.listFormats executable environment).outcome with
  | .ok codes =>
      Action.record .debug .probe
        (executable ++ " supports " ++ toString codes.length ++ " formats")
      pure codes
  | .error (.unprobed name cause) =>
      Action.record .error .probe
        ("Could not get the list of output formats supported by " ++ executable)
        (some (.unprobed name cause))
      pure []
  | .error failure => throw failure

/-- Whether a tool answers the question for its version with success. -/
def isAvailable (probe : Probe) (executable : String) (environment : Option Environment) :
    Action Bool := do
  match ← probe.ask executable environment probe.profile.versionArguments with
  | .ok outcome => pure (outcome.exitCode == 0)
  | .error (.outside fault) =>
      if fault.concernsProcess then
        Action.record .warning .probe (executable ++ " is not available: " ++ fault.message)
        pure false
      else throw (.outside fault)
  | .error failure => throw failure

end Probe

end GeoBridge
