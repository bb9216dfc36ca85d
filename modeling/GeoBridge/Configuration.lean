import GeoBridge.Association
import GeoBridge.ContentKind

/-!
Owns the description of a conversion tool: its executable, its environment and the formats it is
declared to produce.

Owns:
- the format and the configuration;
- the environment in which a configuration's tool runs;
- the look-up of a format by its public name.
-/

namespace GeoBridge

/-- Variables and their values, in the order in which they were set. -/
abbrev Environment := Association String String

/-- One format that a tool can produce. Callers ask for it by the public name; the tool knows it
by the tool code. -/
structure Format where
  toolCode : String
  publicName : String
  extension : Option String := none
  singleFile : Bool := false
  mimeType : Option String := none
  kind : ContentKind := .binary
  options : List String := []
deriving DecidableEq, Repr

/-- What is declared about one tool. -/
structure Configuration where
  executable : String
  dataPath : Option String := none
  environment : Environment := []
  formats : List Format := []
deriving DecidableEq, Repr

/-- The environment with the data path under the given variable, where there are both. -/
def Configuration.effectiveEnvironment (configuration : Configuration)
    (dataVariable : Option String) : Environment :=
  match configuration.dataPath, dataVariable with
  | some path, some name =>
      if path.isEmpty || name.isEmpty then configuration.environment
      else configuration.environment.put name path
  | _, _ => configuration.environment

/-- The first of some formats that has the given public name. -/
def findFormat? (formats : List Format) (publicName : String) : Option Format :=
  formats.find? (·.publicName == publicName)

end GeoBridge
