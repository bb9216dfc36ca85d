import GeoBridge.Loader
import GeoBridge.WidePath

/-!
Owns configuration files as sources, and the recognition of their changes.

Owns:
- events of a file system and the paths they name, as text or octets;
- the test whether an event touches a configuration file;
- reading and watching a configuration file.
-/

namespace GeoBridge

open Text (WideText)

/-- A path as an event names it. -/
inductive EventPath where
  | text (content : WideText)
  | octets (content : List UInt8)
deriving DecidableEq, Repr

/-- What an event tells of a file or directory. -/
inductive EventKind where
  | modified
  | created
  | deleted
  | moved
  | opened
  | closed
  | closedUnwritten
deriving DecidableEq, Repr

/-- The kind that an event's name stands for. Events of directories count as those of files, and
whatever has no kind of its own changes something. -/
def EventKind.ofName : String → EventKind
  | "created" => .created
  | "deleted" => .deleted
  | "moved" | "dir_moved" => .moved
  | "opened" => .opened
  | "closed" => .closed
  | "closed_no_write" => .closedUnwritten
  | _ => .modified

/-- An event of a file system. Only moves have a destination. -/
structure FileEvent where
  kind : EventKind
  source : EventPath
  destination : Option EventPath := none
deriving DecidableEq, Repr

namespace EventPath

/-- The text of a path. -/
def toText : EventPath → WideText
  | .text content => content
  | .octets content => .ofOctets content

/-- The form in which a record shows a path. -/
def shown : EventPath → String
  | .text content => content.shown
  | .octets content => Text.quotedOctets content

end EventPath

namespace FileEvent

/-- Whether an event can be a change. Opening a file, or closing one that was not written, is
none. -/
def canChange (event : FileEvent) : Bool :=
  event.kind != .opened && event.kind != .closedUnwritten

/-- The paths that an event names. -/
def paths (event : FileEvent) : List EventPath := event.source :: event.destination.toList

/-- Whether a path of an event, in lexical normal form, is the given absolute path. An empty path
never is. -/
def names (target here : Path) (candidate : EventPath) : Bool :=
  !candidate.toText.isEmpty && WidePath.resolve candidate.toText here == .ofPath target

/-- Whether an event touches the file at the given absolute path. -/
def touches (target here : Path) (event : FileEvent) : Bool :=
  event.paths.any (names target here)

end FileEvent

namespace FileSource

/-- Answer an event: a change of the watched file is recorded and passed on. The answer tells
whether it was one. -/
def handle (target : Path) (event : FileEvent) (onChange : Action Unit) : Action Bool := do
  let here ← Action.here
  if event.canChange && event.touches target here then
    Action.record .debug .source ("configuration change detected: " ++ event.source.shown)
    onChange
    pure true
  else pure false

/-- The content of a configuration file, which must be a regular file. -/
def read (path : Path) : Action (List UInt8) := do
  match ← Action.inspecting path (·.probe path) with
  | none => throw (.system ⟨.missing, .plain path.text⟩)
  | some .directory => throw (.irregularSource (path.text ++ " is not a regular file"))
  | some (.file octets) => pure octets

/-- Watch the directory of a configuration file, if there is one. -/
def subscribe (path : Path) : Action Subscription := do
  let site ← get
  let file := path.absolute site.workspace.herePath
  let directory := file.parent
  if ← Action.isDirectory directory then
    Action.enter (.observed (.schedule directory.text false))
    Action.enter (.observed .start)
    modify fun site =>
      { site with observers := site.observers ++ [{ file, directory, running := true }] }
    pure (.observer site.observers.length)
  else
    Action.record .warning .source
      ("Not watching " ++ path.text ++ ": directory " ++ directory.text ++ " does not exist")
    pure .idle

/-- The observers once one of them is stopped. -/
def stopped (observers : List Observer) (number : Nat) : List Observer :=
  observers.modify number fun observer => { observer with running := false }

/-- End a subscription. To end it again does nothing. -/
def unsubscribe : Subscription → Action Unit
  | .idle => pure ()
  | .observer number => do
      let site ← get
      match site.observers[number]? with
      | some observer =>
          if observer.running then
            set { site with observers := stopped site.observers number }
            Action.enter (.observed .stop)
            Action.enter (.observed (.join 5))
      | none => pure ()

/-- Whether a subscription is being served. -/
def isActive (site : Site) : Subscription → Bool
  | .idle => false
  | .observer number => ((site.observers[number]?).map (·.running)).getD false

/-- A configuration file as a source. -/
def source (path : Path) : Source where
  name := path.text
  read := .octets <$> read path
  subscribe := subscribe path
  unsubscribe := unsubscribe

end FileSource

end GeoBridge
