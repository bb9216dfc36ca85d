import GeoBridge.ChildProcess
import GeoBridge.CommandLine
import GeoBridge.Crs.Geodesy
import GeoBridge.Shell.Host

/-!
Owns the program: it takes in the files it may be asked about, carries out its command line on
them, puts back what has changed, and prints.

Does not own: any decision about the command line, which is made by `GeoBridge.CommandLine`.
-/

namespace GeoBridge.Program

/-- The text of a place as the root of the machine sees it. -/
def pathText (place : Place) : String := "/" ++ "/".intercalate place

/-- Take in everything below directories whose entries are given. What cannot be read is left
out. -/
partial def takeIn (entries : List IO.FS.DirEntry) (taken : Workspace) : IO Workspace :=
  entries.foldlM (fun workspace entry => do
    let place := (Path.ofString entry.path.toString).parts
    try
      if ← entry.path.isDir then
        let inside ← entry.path.readDir
        takeIn inside.toList (workspace.plant place .directory)
      else
        let octets ← IO.FS.readBinFile entry.path
        pure (workspace.plant place (.file octets.toList))
    catch _ => pure workspace) taken

/-- Take in a directory and everything below it. -/
def takeInDirectory (directory : String) (taken : Workspace) : IO Workspace := do
  try
    let found ← IO.FS.realPath directory
    let inside ← found.readDir
    takeIn inside.toList (taken.plant (Path.ofString found.toString).parts .directory)
  catch _ => pure taken

/-- Put back a file or directory that was made or changed. -/
def putBack (before : Workspace) (made : Place × Entry) : IO Unit := do
  if before.entryAt? made.1 != some made.2 then
    match made.2 with
    | .directory => IO.FS.createDirAll (pathText made.1)
    | .file octets => IO.FS.writeBinFile (pathText made.1) ⟨octets.toArray⟩

/-- Remove the files that are no longer there. -/
def clearAway (before after : Workspace) : IO Unit :=
  before.entries.forM fun (place, entry) => do
    if entry != .directory && (after.entryAt? place).isNone then IO.FS.removeFile (pathText place)

/-- Put back everything that has changed, directories before what is in them. -/
def restore (before after : Workspace) : IO Unit := do
  clearAway before after
  (after.entries.mergeSort fun first second => first.1.length ≤ second.1.length).forM
    (putBack before)

/-- Print what the journal holds, in order. -/
def printJournal (journal : List Event) : IO Unit :=
  journal.forM fun event => match event with
    | .printed .output text => IO.print text
    | .printed .errors text => IO.eprint text
    | .recorded record =>
        if record.level == .warning || record.level == .error then
          IO.eprintln (record.level.name ++ " " ++ record.area.name ++ ": " ++ record.message)
        else pure ()
    | _ => pure ()

/-- Print what happened, and put back what has changed. -/
def conclude (before : Workspace) (after : Site) : IO Unit := do
  printJournal after.journal
  restore before after.workspace

/-- The variables that children are told about, where they are set. -/
def ambientVariables : List String := ["PATH", "HOME", "GDAL_DATA"]

end GeoBridge.Program

open GeoBridge in
/-- Carry out the command line. -/
def main (arguments : List String) : IO UInt32 := do
  let here := (← IO.currentDir).toString
  let configured ← IO.getEnv "GEOTOOL_CONFIG_DIR"
  let ambient ← Program.ambientVariables.filterMapM fun name => do
    pure ((← IO.getEnv name).map fun value => (name, value))
  let start : Workspace := ⟨(Path.ofString here).parts, [], false⟩
  let before ← (here :: configured.toList ++ arguments).foldlM
    (fun taken directory => Program.takeInDirectory directory taken) start
  let surroundings : Surroundings :=
    { runner := ChildProcess.run Shell.host ambient
      systems := (Geodesy.builtin "the coordinate system is not known").library }
  let site : Site := { workspace := before, configuredDirectory := configured }
  match CommandLine.run surroundings arguments site with
  | .ok ending after => do
      Program.conclude before after
      match ending with
      | .misused misuse => IO.eprintln misuse.message
      | _ => pure ()
      pure ending.exitCode.toNat.toUInt32
  | .error failure after => do
      Program.conclude before after
      IO.eprintln failure.message
      pure 1
