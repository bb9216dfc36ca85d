import GeoBridge.Conversion
import GeoBridge.Output

/-!
Owns what a service answers about the active formats, and the conversions it runs.

A conversion looks at the registry once, at its beginning, so that nothing published later changes
it.
-/

namespace GeoBridge

/-- A service, by the tool it binds to the executable and environment of a snapshot. -/
structure Service where
  tool : String → Environment → Tool

/-- How a service goes about a conversion: how it looks at the registry, and how it has a tool carry
out a request. -/
structure Course where
  look : Action Snapshot := Action.snapshot
  carryOut : Tool → Request → Action Conversion := Tool.run

/-- A conversion that a service is asked for. -/
structure ServiceRequest where
  input : Path
  directory : Path
  typeName : String
  formatName : String
  crs : Option Crs := none

namespace Registry

/-- Whether a format of the given name is active. -/
def canProduce (registry : Registry) (publicName : String) : Bool :=
  (registry.get? publicName).isSome

/-- The mime type of responses in an active format. -/
def mimeTypeOf (registry : Registry) (publicName : String) : Option String :=
  (registry.get? publicName).bind Format.responseMimeType

/-- The extension of responses in an active format. -/
def extensionOf (registry : Registry) (publicName : String) : Option String :=
  (registry.get? publicName).bind Format.responseExtension

/-- The descriptions of the active formats. -/
def describeOutputs (registry : Registry) : List Output := registry.formats.map Output.described

end Registry

namespace Service

/-- Carry out a request in the format that is active under its name. -/
def execute (service : Service) (request : ServiceRequest) (course : Course := {}) :
    Action (Format × Conversion) := do
  let snapshot ← course.look
  match snapshot.formats.find? request.formatName with
  | none => throw (.unsupportedFormat request.formatName snapshot.names)
  | some format =>
      let tool := service.tool snapshot.executable snapshot.environment
      Action.record .debug .service
        ("converting " ++ request.input.text ++ " to " ++ request.formatName)
      let conversion ← course.carryOut tool
        { input := request.input, directory := request.directory, typeName := request.typeName,
          format, crs := request.crs }
      pure (format, conversion)

/-- Carry out a request. -/
def run (service : Service) (request : ServiceRequest) (course : Course := {}) :
    Action Conversion := do
  let (_, conversion) ← service.execute request course
  pure conversion

/-- Carry out a request and tell where its output is. -/
def convert (service : Service) (request : ServiceRequest) (course : Course := {}) :
    Action Path := do
  let conversion ← service.run request course
  pure conversion.outputPath

/-- Carry out a request and tag its output with the kind of its content. -/
def convertOutput (service : Service) (request : ServiceRequest) (course : Course := {}) :
    Action Output := do
  let (format, conversion) ← service.execute request course
  pure (.produced format conversion.outputPath)

end Service

end GeoBridge
