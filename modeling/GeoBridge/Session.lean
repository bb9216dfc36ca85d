import GeoBridge.Family
import GeoBridge.FileSource
import GeoBridge.Configuration.Writer

/-!
Owns sessions: a family with the loader and the service that were set up for it, and the one-shot
uses of them.

Owns:
- the directory of the configuration file;
- starting a session, which loads the configuration once, and closing it;
- conversions, lists and probes that need no session of their own.
-/

namespace GeoBridge

/-- What a session runs commands with, the coordinate systems it knows, where further families come
from, and the hooks that such families bring along in place of those of their policy. -/
structure Surroundings where
  runner : Runner
  systems : CrsLibrary
  modules : ModuleLibrary := {}
  ownHooks : Family → Option Hooks := fun _ => none

/-- The hooks that run around the conversions of a family. -/
def Surroundings.hooksOf (surroundings : Surroundings) (family : Family) : Hooks :=
  (surroundings.ownHooks family).getD family.hooks.hooks

/-- How a session is started. -/
structure SessionOptions where
  directory : Option Path := none
  watch : Bool := true
  limit : Option Limit := none
  registry : Option Registry := none

/-- A family with its loader and its service. -/
structure Session where
  family : Family
  loader : Loader
  service : Service
  file : Path

/-- The directory of configuration files: the given one, else the one that the environment names,
else the working directory. -/
def configurationDirectory (site : Site) : Option Path → Path
  | some directory => directory
  | none =>
      let named := Text.trim (site.configuredDirectory.getD "")
      if named.isEmpty then site.workspace.herePath else Path.ofString named

namespace Session

/-- The session of a family, before anything is loaded. -/
def prepare (surroundings : Surroundings) (family : Family) (limit : Option Limit) (file : Path) :
    Session where
  family := family
  loader :=
    { source := FileSource.source file
      default := family.default
      probe := family.probe surroundings.runner
      dataVariable := family.profile.dataVariable }
  service := ⟨fun executable environment =>
    { family.tool surroundings.runner limit surroundings.systems executable environment with
      hooks := surroundings.hooksOf family }⟩
  file := file

/-- The site that a session starts with. Its registry holds everything the family declares, unless
one is given, and nothing is watched. -/
def seeded (family : Family) (options : SessionOptions) (site : Site) : Site :=
  let declared := Registry.ofConfiguration family.default family.profile.dataVariable
  { site with registry := options.registry.getD declared, watch := {} }

/-- Start a session. -/
def start (surroundings : Surroundings) (family : Family) (options : SessionOptions) :
    Action Session := do
  let site ← get
  set (seeded family options site)
  let directory := configurationDirectory site options.directory
  let session := prepare surroundings family options.limit
    (directory.joinText family.configurationFile)
  let _ ← if options.watch then session.loader.start else session.loader.reload
  pure session

/-- Start a session of the family of the given name. -/
def startNamed (surroundings : Surroundings) (modules : List String) (name : String)
    (options : SessionOptions) : Action Session := do
  let family ← FamilyRegistry.resolve surroundings.modules modules name
  start surroundings family options

/-- End the watch of a session. -/
def close (session : Session) : Action Unit := session.loader.close

/-- Use a session, and close it however the use ends. -/
def during {α : Type} (session : Session) (use : Session → Action α) : Action α :=
  (use session).finally_ session.close

/-- Pass an event on to the loader, if it changes the configuration file that the last observer
watches. -/
def noticeEvent (session : Session) (event : FileEvent) : Action Unit := do
  let site ← get
  match site.observers.getLast? with
  | none => pure ()
  | some observer =>
      let _ ← FileSource.handle observer.file event session.loader.noticeChange

end Session

/-- A conversion by a session of its own. -/
def convertDataset (surroundings : Surroundings) (familyName : String)
    (directory : Option Path) (limit : Option Limit) (request : ServiceRequest) : Action Path := do
  let session ← Session.startNamed surroundings [] familyName { directory, watch := false, limit }
  session.during fun opened => opened.service.convert request

/-- The formats that the installed tool of a family can produce. -/
def listActiveFormats (surroundings : Surroundings) (familyName : String)
    (directory : Option Path) : Action (List Format) := do
  let session ← Session.startNamed surroundings [] familyName { directory, watch := false }
  session.during fun _ => do
    let site ← get
    pure site.registry.formats

/-- Whether an executable is available, and the codes of the formats it supports. -/
def probeExecutable (surroundings : Surroundings) (executable familyName : String) :
    Action (Bool × List String) := do
  let family ← FamilyRegistry.resolve surroundings.modules [] familyName
  let probe := family.probe surroundings.runner
  let available ← probe.isAvailable executable none
  let codes ← probe.supportedFormats executable none
  pure (available, codes)

/-- The document of the configuration that is compiled in for a family. -/
def defaultDocument (surroundings : Surroundings) (familyName : String) : Action String := do
  let family ← FamilyRegistry.resolve surroundings.modules [] familyName
  pure family.default.write

end GeoBridge
