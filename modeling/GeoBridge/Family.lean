import GeoBridge.Catalog
import GeoBridge.ModuleFile
import GeoBridge.Service
import GeoBridge.Text.Ascending

/-!
Owns tool families and the registry of them.

Owns:
- families: everything needed to drive one kind of tool, with the two that are built in;
- registration, in which a later family replaces an earlier one of the same trimmed name;
- modules that expose families, and where they are loaded from.
-/

namespace GeoBridge

/-- What the hooks of a family do: nothing, or name the output layer after the type. -/
inductive HookPolicy where
  | nothing
  | layerName
deriving DecidableEq, Repr

/-- The command with the layer named after the type, unless the options of the format name it. -/
def namedLayer (context : CommandContext) : List String :=
  if context.request.format.options.contains "-nln" then context.command
  else context.command ++ ["-nln", context.request.typeName]

/-- The hooks of a policy. -/
def HookPolicy.hooks : HookPolicy → Hooks
  | .nothing => {}
  | .layerName => { before := fun context => pure (namedLayer context) }

/-- Everything needed to drive one kind of tool. -/
structure Family where
  name : String
  profile : Profile
  configurationFile : String
  default : Configuration
  hooks : HookPolicy := .nothing
deriving DecidableEq, Repr

namespace Family

/-- The family of the raster tool. -/
def gdal : Family where
  name := "gdal"
  profile := .gdalTranslate
  configurationFile := "gdal_translate.xml"
  default := Catalog.gdal

/-- The family of the vector tool. -/
def ogr : Family where
  name := "ogr"
  profile := .ogr2ogr
  configurationFile := "ogr2ogr.xml"
  default := Catalog.ogr
  hooks := .layerName

/-- The probe of a family's tool. -/
def probe (family : Family) (runner : Runner) : Probe := { profile := family.profile, runner }

/-- The tool of a family, bound to an executable and an environment. -/
def tool (family : Family) (runner : Runner) (limit : Option Limit) (systems : CrsLibrary)
    (executable : String) (environment : Environment) : Tool where
  executable := executable
  environment := environment
  profile := family.profile
  hooks := family.hooks.hooks
  runner := runner
  limit := limit
  systems := systems

end Family

/-- Something offered for registration: a family, something without a name, or something whose name
cannot be trimmed, with the failure that comes of it. -/
inductive FamilyCandidate where
  | family (family : Family)
  | unnamed
  | misnamed (failure : Failure)
deriving DecidableEq, Repr

/-- Something whose name is null. -/
def FamilyCandidate.nullNamed : FamilyCandidate := .misnamed (.lacksOperation "NoneType" "strip")

/-- The registered families by their trimmed names. -/
structure FamilyRegistry where
  families : Association String Family := []
deriving DecidableEq, Repr

/-- What code does with a registry that it is given: it looks at it, or offers a candidate and goes
on by how that ended, until it returns or fails. -/
inductive Registration where
  | returns
  | fails (failure : Failure)
  | looks (next : FamilyRegistry → Registration)
  | offers (candidate : FamilyCandidate) (next : Option Failure → Registration)

/-- Offer candidates one after the other, up to the first that is refused, and go on after the last
of them. -/
def Registration.ofCandidates (last : Registration) : List FamilyCandidate → Registration
  | [] => last
  | candidate :: rest => .offers candidate fun refusal =>
      match refusal with
      | none => ofCandidates last rest
      | some failure => .fails failure

/-- The candidates that a module lists, and what ends the list if it cannot be gone through. -/
structure FamilySeries where
  candidates : List FamilyCandidate
  failure : Option Failure := none

/-- Offer what a list holds. -/
def FamilySeries.registration (series : FamilySeries) : Registration :=
  .ofCandidates (match series.failure with
    | none => .returns
    | some failure => .fails failure) series.candidates

/-- What a module does when it is loaded: it fails, or it exposes families in up to three ways, by
code of its own that registers them, as a list, or singly. -/
inductive FamilyModule where
  | failing (failure : Failure)
  | exposing (own : Option Registration) (families : Option FamilySeries)
      (family : Option FamilyCandidate)

namespace FamilyModule

/-- A module whose own code, if it has any, does no more than offer what it lists. -/
def listing (own families : Option (List FamilyCandidate)) (family : Option FamilyCandidate) :
    FamilyModule :=
  .exposing (own.map (.ofCandidates .returns)) (families.map fun candidates => { candidates })
    family

/-- What a module does with a registry: what its own code does, else it offers its list, else its
single family. -/
def registration : FamilyModule → Registration
  | .failing failure => .fails failure
  | .exposing (some own) _ _ => own
  | .exposing none (some series) _ => series.registration
  | .exposing none none (some candidate) => .ofCandidates .returns [candidate]
  | .exposing none none none => .fails (.family .exposesNothing)

end FamilyModule

/-- The modules there are: those in files, by their places, and those that can be imported by name;
and what the octets of a file lead to before anything of the module runs, told its form, the name
of the module and the absolute path. -/
structure ModuleLibrary where
  files : List (Place × FamilyModule) := []
  importable : List (String × FamilyModule) := []
  fault? : ModuleForm → (name absolute : String) → List UInt8 → Option Fault :=
    ModuleFile.fault? ModuleFile.compiledMark

namespace FamilyRegistry

/-- The names of the registered families, in ascending order. -/
def names (registry : FamilyRegistry) : List String :=
  Text.ascending registry.families.keys

/-- Register a family under its trimmed name. -/
def register (registry : FamilyRegistry) : FamilyCandidate → Except Failure FamilyRegistry
  | .unnamed => .error (.family .blankName)
  | .misnamed failure => .error failure
  | .family family =>
      let name := Text.trim family.name
      if name.isEmpty then .error (.family .blankName)
      else .ok { registry with families := registry.families.put name family }

/-- The family registered under a name. -/
def get (registry : FamilyRegistry) (name : String) : Except Failure Family :=
  match registry.families.find? name with
  | some family => .ok family
  | none => .error (.family (.unknown name registry.names))

/-- Carry out a registration. What was registered before a failure stays registered. -/
def carryOut (registry : FamilyRegistry) : Registration → FamilyRegistry × Option Failure
  | .returns => (registry, none)
  | .fails failure => (registry, some failure)
  | .looks next => registry.carryOut (next registry)
  | .offers candidate next =>
      match registry.register candidate with
      | .ok extended => extended.carryOut (next none)
      | .error failure => registry.carryOut (next (some failure))

/-- Register what a module contributes. -/
def registerModule (registry : FamilyRegistry) (content : FamilyModule) :
    FamilyRegistry × Option Failure :=
  registry.carryOut content.registration

end FamilyRegistry

namespace ModuleLibrary

/-- The name up to each of its points, and the whole of it. -/
def importSteps (name : String) : List String :=
  let letters := name.toList
  let points := (List.range letters.length).filter fun place => letters[place]? == some '.'
  points.map (fun place => String.ofList (letters.take place)) ++ [name]

/-- Why one step of an import goes no further: there is no such module, or it fails. -/
def stepFault? (library : ModuleLibrary) (step : String) : Option String :=
  match library.importable.lookup step with
  | none => some ("No module named " ++ Text.quoted step)
  | some (.failing failure) => some failure.message
  | some (.exposing _ _ _) => none

/-- The module of an import name. The first step that goes no further is the one reported. -/
def importByName (library : ModuleLibrary) (name : String) : Except Failure FamilyModule :=
  let refuse := fun (reason : String) => Except.error (Failure.family (.notImported name reason))
  if name.startsWith "." then
    refuse ("the 'package' argument is required to perform a relative import for "
      ++ Text.quoted name)
  else
    match (importSteps name).findSome? library.stepFault? with
    | some reason => refuse reason
    | none =>
        match library.importable.lookup name with
        | some content => .ok content
        | none => refuse ("No module named " ++ Text.quoted name)

/-- The module in a file. Only files with the endings of modules are any. -/
def loadFile (library : ModuleLibrary) (path : Path) : Action FamilyModule := do
  match ModuleForm.ofName? path.name with
  | none => throw (.family (.unloadable path.text))
  | some form =>
      let site ← get
      let absolute := (path.absolute site.workspace.herePath).text
      match site.workspace.locate path with
      | .error obstacle => throw (obstacle.failure absolute)
      | .ok place =>
          match site.workspace.entryAt? place with
          | some .directory => throw (directoryFailure form absolute)
          | some (.file octets) =>
              match library.fault? form path.stem absolute octets with
              | some fault => throw (.outside fault)
              | none => pure ((library.files.lookup place).getD (.exposing none none none))
          | none => pure (.exposing none none none)
where
  /-- The failure of loading a directory. -/
  directoryFailure (form : ModuleForm) (absolute : String) : Failure :=
    if form = .shared then
      .outside (.flawedModule .unusable
        (absolute ++ ": cannot read file data: Is a directory"))
    else Obstacle.isDirectory.failure absolute

/-- The module that a text names, by its path if that leads to anything, else by its import
name. -/
def find (library : ModuleLibrary) (named : String) : Action FamilyModule := do
  let path := Path.ofString named
  if ← Action.isThere path then library.loadFile path
  else Action.ofExcept (library.importByName named)

end ModuleLibrary

namespace FamilyRegistry

/-- Register what the module that a text names contributes. A failing module contributes what it
registered before it failed. -/
def load (registry : FamilyRegistry) (library : ModuleLibrary) (named : String) :
    Action (FamilyRegistry × Option Failure) := do
  match ← (library.find named).outcome with
  | .ok content => pure (registry.registerModule content)
  | .error failure => pure (registry, some failure)

/-- The registry of the built-in families. -/
def builtin : FamilyRegistry where
  families := [("gdal", Family.gdal), ("ogr", Family.ogr)]

/-- Register what all the named modules contribute. -/
def loadAll (library : ModuleLibrary) : FamilyRegistry → List String → Action FamilyRegistry
  | registry, [] => pure registry
  | registry, named :: rest => do
      match ← registry.load library named with
      | (extended, none) => loadAll library extended rest
      | (_, some failure) => throw failure

/-- The family of the given name among the built-in ones and those of the named modules. -/
def resolve (library : ModuleLibrary) (modules : List String) (name : String) :
    Action Family := do
  let registry ← loadAll library builtin modules
  Action.ofExcept (registry.get name)

end FamilyRegistry

end GeoBridge
