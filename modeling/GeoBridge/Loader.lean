import GeoBridge.Probe

/-!
Owns the loading of configurations and the life of the watch over them.

Owns:
- sources of configurations;
- the phases of a reload: reading with its fallback, probing, selecting, publishing;
- starting and closing the watch, and the answer to a notice of change.
-/

namespace GeoBridge

/-- A source of a configuration: its label, its content, and how to subscribe to its changes. -/
structure Source where
  name : String
  read : Action Xml.Document
  subscribe : Action Subscription
  unsubscribe : Subscription → Action Unit

/-- A source whose content does not change. -/
def Source.still (name : String) (content : Except Failure Xml.Document) : Source where
  name := name
  read := Action.ofExcept content
  subscribe := pure .idle
  unsubscribe := fun _ => pure ()

/-- What loads the configuration of one tool: the source, the configuration that takes its place
when it is of no use, the reader of its content, the probe of the tool and how it is asked, and the
variable that receives the data path. -/
structure Loader where
  source : Source
  default : Configuration
  read : Xml.Document → Except Failure Configuration := fun document =>
    (Configuration.read document).mapError .ofUnreadable
  probe : Probe
  ask : String → Environment → Action (List String) := fun executable environment =>
    probe.supportedFormats executable (some environment)
  dataVariable : Option String := none

namespace Loader

/-- The record of a source whose content is of no use. -/
def recordUseless (loader : Loader) (activity : String) (failure : Failure) : Action Unit :=
  Action.record .error .loader
    ("Error " ++ activity ++ " the " ++ loader.source.name
      ++ " configuration file, using internal defaults")
    (some failure)

/-- Record why the default takes the place of a source that failed. Failures of any other kind are
passed on. -/
def excuse (loader : Loader) : Failure → Action Unit
  | .outside (.system fault) =>
      if fault.condition = .missing then
        Action.record .info .loader
          ("Could not find the " ++ loader.source.name
            ++ " configuration file, using internal defaults")
      else loader.recordUseless "reading" (.system fault)
  | .irregularSource message =>
      Action.record .warning .loader (message ++ ", using internal defaults")
  | failure => throw failure

/-- The content of the source, or nothing where the default has to take its place. -/
def content (loader : Loader) : Action (Option Xml.Document) := do
  match ← loader.source.read.outcome with
  | .ok document => pure (some document)
  | .error failure =>
      loader.excuse failure
      pure none

/-- The configuration that a document is read as, or the default where it is rejected. -/
def parse (loader : Loader) (document : Xml.Document) : Action Configuration :=
  match loader.read document with
  | .ok configuration => pure configuration
  | .error failure =>
      if failure.rejectsConfiguration then do
        loader.recordUseless "parsing" failure
        pure loader.default
      else throw failure

/-- The configuration of the source, or the default where the source is of no use. -/
def readConfiguration (loader : Loader) : Action Configuration := do
  match ← loader.content with
  | none => pure loader.default
  | some document => loader.parse document

/-- The record of a declared format that the tool does not support. -/
def recordSkipped (executable : String) (format : Format) : Action Unit :=
  Action.record .error .loader
    ("Skipping '" ++ format.publicName ++ "' as its tool format '" ++ format.toolCode
      ++ "' is not among the ones supported by " ++ executable)

/-- The declared formats that are supported. Every other one is recorded. -/
def select (configuration : Configuration) (supported : List String) : Action (List Format) := do
  for format in configuration.formats do
    if !format.isSupported supported then recordSkipped configuration.executable format
  pure (configuration.supportedFormats supported)

/-- Replace the current snapshot. -/
def publish (snapshot : Snapshot) : Action Unit :=
  modify fun site => { site with registry := site.registry.publish snapshot }

/-- Ask the probe what the tool supports, after entering the question into the journal. -/
def askProbe (loader : Loader) (executable : String) (environment : Environment) :
    Action (List String) := do
  Action.enter (.asked executable environment)
  loader.ask executable environment

/-- Probe the tool of a configuration, and publish what it supports. -/
def activate (loader : Loader) (configuration : Configuration) : Action Snapshot := do
  let environment := configuration.effectiveEnvironment loader.dataVariable
  let supported ← loader.askProbe configuration.executable environment
  let accepted ← select configuration supported
  let snapshot := Snapshot.build configuration.executable environment accepted
  publish snapshot
  Action.record .info .loader
    ("Loaded " ++ toString accepted.length ++ " of " ++ toString configuration.formats.length
      ++ " formats for " ++ configuration.executable)
  pure snapshot

/-- Read the configuration, probe its tool, and publish what it supports. -/
def reload (loader : Loader) : Action Snapshot := do
  let configuration ← loader.readConfiguration
  loader.activate configuration

/-- Subscribe to changes, unless there is a subscription already or the watch was closed. -/
def subscribe (loader : Loader) : Action Unit := do
  let site ← get
  if site.watch.subscription.isNone && !site.watch.closed then
    let subscription ← loader.source.subscribe
    Action.enter .subscribed
    modify fun site => { site with watch := { site.watch with subscription := some subscription } }

/-- Load once and subscribe to changes. -/
def start (loader : Loader) : Action Snapshot := do
  let snapshot ← loader.reload
  loader.subscribe
  pure snapshot

/-- End the watch for good. -/
def close (loader : Loader) : Action Unit := do
  let site ← get
  set { site with watch := { subscription := none, closed := true } }
  match site.watch.subscription with
  | none => pure ()
  | some subscription =>
      Action.enter .unsubscribed
      loader.source.unsubscribe subscription

/-- Answer a notice of change. Nothing happens once the watch is closed, and no failure reaches
whoever gives the notice. -/
def noticeChange (loader : Loader) : Action Unit := do
  let site ← get
  if !site.watch.closed then
    match ← loader.reload.outcome with
    | .ok _ => pure ()
    | .error failure =>
        Action.record .error .loader ("Reloading " ++ loader.source.name ++ " failed")
          (some failure)

end Loader

end GeoBridge
