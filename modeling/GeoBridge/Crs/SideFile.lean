import GeoBridge.Crs
import GeoBridge.Crs.Naming
import GeoBridge.Site

/-!
Owns the side files in which coordinate systems are handed to the tools.

Owns:
- the recognition of their names;
- devices, which can interrupt the making of a file at every step of it;
- the writing of a side file, which leaves no file behind when the system stops it.
-/

namespace GeoBridge.Crs

open Text (WideText)

/-- The characters that can stand between the beginning and the ending of a side file's name. -/
def isSideFileCharacter (character : Char) : Bool :=
  character.isLower || character.isDigit || character == '_'

/-- What is behind the name of a side file that characters begin with. -/
def behindSideFileName? (characters : List Char) : Option (List Char) :=
  let drawn := (characters.drop 3).take 8
  if "srs".toList.isPrefixOf characters && drawn.length == 8 && drawn.all isSideFileCharacter
      && ".wkt".toList.isPrefixOf (characters.drop 11) then
    some (characters.drop 15)
  else none

/-- Whether the text of a path ends in the name of a side file. -/
def isSideFile (path : String) : Bool :=
  behindSideFileName? (Path.ofString path).name.toList == some []

/-- The name that is tried in a directory in lexical normal form. -/
def nameIn (naming : Naming) (workspace : Workspace) (absolute : Path) : String :=
  match workspace.follow [] absolute.parts with
  | .ok place => naming.choose workspace place
  | .error _ => sideFileName 0

/-- The octets of a text that has a UTF-8 form. -/
def sideFileContent (text : WideText) : Except Failure (List UInt8) :=
  match WideText.toCharacters? text with
  | some characters => .ok (characters.flatMap Text.Utf8.encodeCharacter)
  | none => .error .unencodable

/-- What interrupts the making of a file, given the files as they are: its creation, its opening,
the writing of octets, some of which may have reached the file, or its closing. -/
structure Device where
  creating : Workspace → Option Fault := fun _ => none
  opening : Workspace → Option Fault := fun _ => none
  writing : Workspace → List UInt8 → Option (List UInt8 × Fault) := fun _ _ => none
  closing : Workspace → Option Fault := fun _ => none

namespace Device

/-- The device of a workspace takes nothing once it is full, and is never interrupted otherwise. -/
def plain : Device where
  writing workspace _ :=
    if workspace.deviceFull then some ([], .system .deviceFull) else none

/-- The octets of a text that reach an open file, and what kept the others from it. -/
def transfer (device : Device) (workspace : Workspace) (text : WideText) :
    List UInt8 × Option Failure :=
  match sideFileContent text with
  | .error failure => ([], some failure)
  | .ok octets =>
      match device.writing workspace octets with
      | some (taken, fault) => (taken, some (.outside fault))
      | none => (octets, none)

/-- The octets of a text that reach an empty file, and what interrupted the way from its opening to
its closing. The last interruption counts. -/
def write (device : Device) (workspace : Workspace) (text : WideText) :
    List UInt8 × Option Failure :=
  match device.opening workspace with
  | some fault => ([], some (.outside fault))
  | none =>
      let (taken, interruption) := device.transfer workspace text
      (taken, ((device.closing workspace).map .outside).or interruption)

end Device

/-- Create an empty file of a new name in a directory. Its path is absolute and in lexical normal
form. -/
def createSideFile (device : Device) (naming : Naming) (directory : Path) : Action Path := do
  let site ← get
  match device.creating site.workspace with
  | some fault => throw (.outside fault)
  | none =>
      let absolute := directory.resolveLexically site.workspace.herePath
      let path := absolute.joinText (nameIn naming site.workspace absolute)
      Action.writeFile path []
      pure path

/-- Write a text into an empty file, as far as the device takes it. -/
def writeSideFile (device : Device) (path : Path) (text : WideText) : Action Unit := do
  let site ← get
  let (taken, interruption) := device.write site.workspace text
  Action.writeFile path taken
  match interruption with
  | some failure => throw failure
  | none => pure ()

/-- Write a text into the file that was created for it. The file is removed if the system stops
this. -/
def fillSideFile (device : Device) (path : Path) (text : WideText) : Action Unit := do
  match ← (writeSideFile device path text).outcome with
  | .ok _ => pure ()
  | .error (.outside (.system fault)) =>
      Action.removeFile path
      throw (.system fault)
  | .error failure => throw failure

/-- Write the text of a coordinate system into a new file, given a library and a device. The caller
removes it. -/
def stageIn (library : CrsLibrary) (device : Device) (directory : Path) (crs : Crs)
    (naming : Naming := .numbered) : Action Path := do
  let text ← Action.ofExcept (crs.wellKnownTextIn library)
  let path ← createSideFile device naming directory
  fillSideFile device path text
  Action.record .debug .crs ("staged CRS definition in " ++ path.text)
  pure path

/-- Write the text of a coordinate system into a new file of the workspace, given a library. -/
def stage (library : CrsLibrary) (directory : Path) (crs : Crs) (naming : Naming := .numbered) :
    Action Path :=
  stageIn library .plain directory crs naming

end GeoBridge.Crs
