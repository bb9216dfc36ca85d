import GeoBridge.Registry
import GeoBridge.Workspace

/-!
Owns the site at which the library works, and the actions that change it.

Owns:
- records of what happens, with the part of the library they come from;
- calls of commands and their outcomes;
- the site: files, the configured directory, the registry, the watch over the configuration, and
  the journal of everything that was done, in order;
- actions, which end with a value or a failure and leave the site as they changed it in both cases.
-/

namespace GeoBridge

/-- How grave a record is. -/
inductive Level where
  | debug
  | info
  | warning
  | error
deriving DecidableEq, Repr

/-- The name of a level. -/
def Level.name : Level → String
  | .debug => "DEBUG"
  | .info => "INFO"
  | .warning => "WARNING"
  | .error => "ERROR"

/-- The part of the library that a record comes from. -/
inductive Area where
  | crs
  | loader
  | service
  | source
  | probe
  | process
  | conversion
deriving DecidableEq, Repr

/-- The name under which the records of a part are kept. -/
def Area.name : Area → String
  | .crs => "crs"
  | .loader => "application.loader"
  | .service => "application.service"
  | .source => "infrastructure.config_source"
  | .probe => "infrastructure.probe"
  | .process => "infrastructure.process"
  | .conversion => "infrastructure.wrapper"

/-- A record of something that happened, with the failure that was the reason for it. -/
structure Record where
  level : Level
  area : Area
  message : String
  cause : Option Failure := none
deriving DecidableEq, Repr

/-- A command to be run: its words, the variables to set, and the limit of its time. -/
structure CommandCall where
  argv : List String
  environment : Option Environment := none
  limit : Option Limit := none
deriving DecidableEq, Repr

/-- The end of a command: its exit code and everything it wrote. -/
structure CommandOutcome where
  exitCode : Int
  output : String
deriving DecidableEq, Repr

/-- What is done with an observer of a directory. -/
inductive ObserverAction where
  | schedule (directory : String) (recursive : Bool)
  | start
  | stop
  | join (seconds : Nat)
deriving DecidableEq, Repr

/-- Where something is printed: among the output, or apart from it. -/
inductive Channel where
  | output
  | errors
deriving DecidableEq, Repr

/-- One entry of the journal. A call is entered with the files as they are when it is made. -/
inductive Event where
  | recorded (record : Record)
  | called (call : CommandCall) (workspace : Workspace)
  | asked (executable : String) (environment : Environment)
  | beforeRun (command : List String) (typeName : String) (sideFile : Option Path)
  | afterRun (exitCode : Int)
  | observed (action : ObserverAction)
  | subscribed
  | unsubscribed
  | printed (channel : Channel) (text : String)
deriving Repr

/-- A subscription to changes: one that an observer serves, by its number, or one that nothing
serves. -/
inductive Subscription where
  | observer (number : Nat)
  | idle
deriving DecidableEq, Repr

/-- The watch over a configuration: the subscription, while there is one, and whether the watch was
closed. -/
structure Watch where
  subscription : Option Subscription := none
  closed : Bool := false
deriving DecidableEq, Repr

/-- Whether a watch counts as watching, which it does while it has a subscription. -/
def Watch.isWatching (watch : Watch) : Bool := watch.subscription.isSome

/-- An observer of the directory of a file: the watched file, and whether it is running. -/
structure Observer where
  file : Path
  directory : Path
  running : Bool
deriving DecidableEq, Repr

/-- The site at which the library works. -/
structure Site where
  workspace : Workspace
  configuredDirectory : Option String := none
  registry : Registry := {}
  watch : Watch := {}
  observers : List Observer := []
  journal : List Event := []
deriving Repr

namespace Site

/-- The records in the journal. -/
def records (site : Site) : List Record :=
  site.journal.filterMap fun event => match event with
    | .recorded record => some record
    | _ => none

/-- The calls in the journal, each with the files as they were. -/
def calls (site : Site) : List (CommandCall × Workspace) :=
  site.journal.filterMap fun event => match event with
    | .called call workspace => some (call, workspace)
    | _ => none

/-- The questions that were put to the probe, in order: the executable and its environment. -/
def questions (site : Site) : List (String × Environment) :=
  site.journal.filterMap fun event => match event with
    | .asked executable environment => some (executable, environment)
    | _ => none

/-- What the journal tells of observers. -/
def observations (site : Site) : List ObserverAction :=
  site.journal.filterMap fun event => match event with
    | .observed action => some action
    | _ => none

/-- Everything that was printed to a channel. -/
def printed (site : Site) (channel : Channel) : String :=
  String.join (site.journal.filterMap fun event => match event with
    | .printed found text => if found = channel then some text else none
    | _ => none)

end Site

/-- An action at a site. A failure leaves behind what was done before it. -/
abbrev Action := EStateM Failure Site

/-- Runs commands. -/
abbrev Runner := CommandCall → Action CommandOutcome

namespace Action

/-- Enter something into the journal. -/
def enter (event : Event) : Action Unit :=
  modify fun site => { site with journal := site.journal ++ [event] }

/-- Record something. -/
def record (level : Level) (area : Area) (message : String) (cause : Option Failure := none) :
    Action Unit :=
  enter (.recorded { level, area, message, cause })

/-- Go on with a value, or end with a failure. -/
def ofExcept {α : Type} : Except Failure α → Action α
  | .ok value => pure value
  | .error failure => throw failure

/-- The value or the failure that an action ends with. -/
def outcome {α : Type} (action : Action α) : Action (Except Failure α) := fun site =>
  match action site with
  | .ok value changed => .ok (.ok value) changed
  | .error failure changed => .ok (.error failure) changed

/-- Do something last, however an action ends. A failure of what is done last takes the place of
the end. -/
def finally_ {α : Type} (action : Action α) (last : Action Unit) : Action α := do
  let ended ← action.outcome
  last
  ofExcept ended

/-- Run a command after entering the call into the journal. -/
def call (runner : Runner) (command : CommandCall) : Action CommandOutcome := do
  let site ← get
  enter (.called command site.workspace)
  runner command

/-- An answer about the file that a path leads to. -/
def inspecting {α : Type} (path : Path) (answer : Workspace → Except Obstacle α) : Action α := do
  let site ← get
  match answer site.workspace with
  | .ok value => pure value
  | .error obstacle => throw (obstacle.failure path.text)

/-- Change the files. -/
def changing (path : Path) (change : Workspace → Except Obstacle Workspace) : Action Unit := do
  let workspace ← inspecting path change
  modify fun site => { site with workspace }

/-- The working directory as a path. -/
def here : Action Path := do
  let site ← get
  pure site.workspace.herePath

/-- The snapshot that is current. -/
def snapshot : Action Snapshot := do
  let site ← get
  pure site.registry.snapshot

/-- Whether a path leads to a directory. -/
def isDirectory (path : Path) : Action Bool := do
  let entry ← inspecting path (·.probe path)
  pure (entry == some .directory)

/-- Whether a path leads to anything. -/
def isThere (path : Path) : Action Bool := do
  let entry ← inspecting path (·.probe path)
  pure entry.isSome

/-- The content of the file that a path leads to. -/
def readFile (path : Path) : Action (List UInt8) := inspecting path (·.read path)

/-- Write a file. -/
def writeFile (path : Path) (octets : List UInt8) : Action Unit :=
  changing path (·.write path octets)

/-- Remove a file, unless there is none. -/
def removeFile (path : Path) : Action Unit := do
  let site ← get
  match site.workspace.unlink path with
  | .ok workspace => set { site with workspace }
  | .error .missing => pure ()
  | .error obstacle => throw (obstacle.failure path.text)

/-- Create a directory and those around it, as far as they do not exist. -/
def makeDirectories (path : Path) : Action Unit := do
  let site ← get
  match site.workspace.makeDirectories path.root path.parts path.parts.length with
  | .ok workspace => set { site with workspace }
  | .error (obstacle, blocked) => throw (obstacle.failure blocked.text)

end Action

end GeoBridge
