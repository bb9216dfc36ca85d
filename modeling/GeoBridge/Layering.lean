import GeoBridge.Site
import GeoBridge.Text.Ascending

/-!
Owns the check of the layers of a source tree: which texts must not occur in the files of each
layer.

Owns:
- the texts that each layer bans, and the file that is exempt from one of them;
- the order in which a directory lists its names;
- the check, which ends at the first violation.
-/

namespace GeoBridge.Layering

/-- Imports that the application layer must not make. -/
def applicationBans : List String :=
  ["import typer", "from typer", "import watchdog", "from watchdog", "import subprocess"]

/-- The package of the outermost layer. -/
def infrastructurePackage : String := "geotool_converter.infrastructure"

/-- The package of the application layer. -/
def applicationPackage : String := "geotool_converter.application"

/-- The file of the application layer that puts the layers together. -/
def wiringFile : String := "use_cases.py"

/-- The files of the innermost layer. -/
def coreFiles : List String := ["schemas.py", "catalog.py", "types.py", "errors.py"]

/-- The outcome of a check: everything is in order, or a file holds a text that its layer bans. -/
inductive Verdict where
  | passed
  | violation (file text : String)
deriving DecidableEq, Repr

/-- The report of a check. -/
def Verdict.message : Verdict → String
  | .passed => "Architecture checks passed.\n"
  | .violation file text => "Architecture violation in " ++ file ++ ": found '" ++ text ++ "'"

/-- Whether a text occurs in another. -/
def occursIn (part : List Char) : List Char → Bool
  | [] => part.isEmpty
  | character :: rest => part.isPrefixOf (character :: rest) || occursIn part rest

/-- The first of the banned texts that occurs in some text. -/
def firstBanned? (bans : List String) (content : List Char) : Option String :=
  bans.find? fun ban => occursIn ban.toList content

/-- The texts that a file of the application layer must not hold. -/
def applicationBansOf (name : String) : List String :=
  if name == wiringFile then applicationBans else applicationBans ++ [infrastructurePackage]

/-- Check one file for the texts that it must not hold. -/
def checkFile (file : Path) (bans : List String) : Action (Option Verdict) := do
  let octets ← Action.readFile file
  match Text.Utf8.decodeExactly? octets with
  | none => throw .undecodable
  | some content =>
      pure ((firstBanned? bans (Text.unifyLineEnds content)).map (Verdict.violation file.text))

/-- Check files one after the other, up to the first violation. -/
def checkFiles : List (Path × List String) → Action Verdict
  | [] => pure .passed
  | (file, bans) :: rest => do
      match ← checkFile file bans with
      | some verdict => pure verdict
      | none => checkFiles rest

/-- An order in which directories list their names. It is up to the device, which keeps no rule but
that it lists every name as often as it is there. -/
structure Listing where
  arrange : Path → List String → List String
  perm : ∀ directory names, (arrange directory names).Perm names

/-- All directories list their names in ascending order. -/
def Listing.ascending : Listing where
  arrange _ := Text.ascending
  perm _ := Text.ascending_perm

/-- The names of the modules directly inside a directory, as they are listed. -/
def moduleNames (listing : Listing) (directory : Path) : Action (List String) := do
  let site ← get
  match site.workspace.locate directory with
  | .ok place =>
      let names := (site.workspace.children place).filter fun name => name.endsWith ".py"
      pure (listing.arrange directory names)
  | .error _ => pure []

/-- Check the layers of the package in a directory. -/
def check (package : Path) (listing : Listing := Listing.ascending) : Action Verdict := do
  let application := package.joinText "application"
  let infrastructure := package.joinText "infrastructure"
  let applicationNames ← moduleNames listing application
  let infrastructureNames ← moduleNames listing infrastructure
  checkFiles
    (applicationNames.map (fun name => (application.joinText name, applicationBansOf name))
      ++ coreFiles.map (fun name =>
          (package.joinText name, [applicationPackage, infrastructurePackage]))
      ++ infrastructureNames.map (fun name =>
          (infrastructure.joinText name, ["import typer", "from typer"])))

end GeoBridge.Layering
