import GeoBridge.Configuration

/-!
Owns the store of the formats that are active at present.

Owns:
- snapshots: an executable, the environment it was asked in, and the formats it can produce;
- the registry, whose snapshot is only ever replaced as a whole;
- the selection of the declared formats that a tool supports.
-/

namespace GeoBridge

/-- An executable, its environment and its active formats by their public names. -/
structure Snapshot where
  executable : String
  environment : Environment
  formats : Association String Format
deriving DecidableEq, Repr

namespace Snapshot

/-- The snapshot of some formats. Of several under one name the last is taken, in the place of the
first. -/
def build (executable : String) (environment : Environment) (formats : List Format) : Snapshot where
  executable := executable
  environment := environment
  formats := Association.ofEntries (formats.map fun format => (format.publicName, format))

/-- The active public names, in the order of the configuration. -/
def names (snapshot : Snapshot) : List String := snapshot.formats.keys

/-- The active formats, in the order of the configuration. -/
def active (snapshot : Snapshot) : List Format := snapshot.formats.map Prod.snd

/-- Whether two snapshots hold the same, whatever the order of variables and formats. -/
def agrees (snapshot other : Snapshot) : Bool :=
  snapshot.executable == other.executable
    && Association.agrees snapshot.environment other.environment
    && Association.agrees snapshot.formats other.formats

/-- The snapshot before anything is configured. -/
def empty : Snapshot := build "" [] []

end Snapshot

/-- The snapshot that is current, and the count of those published so far. -/
structure Registry where
  snapshot : Snapshot := .empty
  generation : Nat := 0
deriving DecidableEq, Repr

namespace Registry

/-- A registry of everything that a configuration declares. -/
def ofConfiguration (configuration : Configuration) (dataVariable : Option String) : Registry where
  snapshot :=
    .build configuration.executable (configuration.effectiveEnvironment dataVariable)
      configuration.formats

/-- Replace the current snapshot. -/
def publish (registry : Registry) (snapshot : Snapshot) : Registry :=
  { snapshot, generation := registry.generation + 1 }

/-- The active format of the given name. -/
def get? (registry : Registry) (publicName : String) : Option Format :=
  registry.snapshot.formats.find? publicName

/-- The active formats. -/
def formats (registry : Registry) : List Format := registry.snapshot.active

end Registry

/-- Whether a format is among those a tool supports. -/
def Format.isSupported (supported : List String) (format : Format) : Bool :=
  supported.contains format.toolCode

/-- The declared formats that are among the supported ones. -/
def Configuration.supportedFormats (configuration : Configuration) (supported : List String) :
    List Format :=
  configuration.formats.filter (·.isSupported supported)

end GeoBridge
