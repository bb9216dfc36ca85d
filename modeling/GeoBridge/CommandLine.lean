import GeoBridge.CommandLine.Command
import GeoBridge.CommandLine.Report
import GeoBridge.Session
import GeoBridge.Text.ControlSequence

/-!
Owns the carrying out of command lines.

Owns:
- what each command prints, and the exit code it ends with;
- the failures that are reported to the user, while all others are handed on;
- unknown families, which are a misuse of the command line.
-/

namespace GeoBridge.CommandLine

/-- How a command line ends: with an exit code, with help, or as a misuse. -/
inductive Ending where
  | exited (code : Int)
  | helped
  | misused (misuse : Misuse)
deriving DecidableEq, Repr

/-- The exit code that goes with an ending. -/
def Ending.exitCode : Ending → Int
  | .exited code => code
  | .helped => 0
  | .misused _ => 2

/-- Print text. Nothing that is printed controls the terminal. -/
def print (channel : Channel) (text : String) : Action Unit :=
  Action.enter (.printed channel (Text.withoutControl text))

/-- Print one line. -/
def printLine (line : String) : Action Unit := print .output (line ++ "\n")

/-- Print one line for the user to see apart from the output. -/
def complainLine (line : String) : Action Unit := print .errors (line ++ "\n")

/-- Go on with what an action is about. An unknown family is a misuse. -/
def withFamily {α : Type} (action : Action α) (use : α → Action Ending) : Action Ending := do
  match ← action.outcome with
  | .ok value => use value
  | .error (.family cause) => pure (.misused (.familyFault cause.message))
  | .error failure => throw failure

/-- A text, or a hyphen where there is none. -/
def orHyphen (text : Option String) : String :=
  match text with
  | some found => if found.isEmpty then "-" else found
  | none => "-"

/-- The line of an active format. -/
def formatLine (format : Format) : String :=
  "\t".intercalate
    [format.publicName, format.toolCode, orHyphen format.responseMimeType,
     orHyphen format.responseExtension, format.kind.name]

/-- List the active formats of a family. -/
def listFormats (surroundings : Surroundings) (family : String) (configuration : Option Path)
    (modules : List String) : Action Ending :=
  withFamily (Session.startNamed surroundings modules family
      { directory := configuration, watch := false }) fun session =>
    session.during fun _ => do
      let site ← get
      let snapshot := site.registry.snapshot
      printLine ("executable: " ++ snapshot.executable)
      if snapshot.active.isEmpty then printLine "no formats available"
      else snapshot.active.forM fun format => printLine (formatLine format)
      pure (.exited 0)

/-- Report on an executable. -/
def reportProbe (surroundings : Surroundings) (executable family : String) : Action Ending :=
  withFamily (probeExecutable surroundings executable family) fun (available, codes) => do
    printLine ("available: " ++ (if available then "yes" else "no"))
    printLine ("formats: " ++ listedOrNone (Text.ascending codes))
    pure (.exited (if available then 0 else 1))

/-- Whether a path leads to anything that can be taken as input. -/
def leadsSomewhere (path : Path) : Action Bool := do
  let site ← get
  pure (site.workspace.inspect path).isOk

/-- The type name of a conversion: the given one, else the stem of the input. -/
def typeNameOf (request : ConvertCommand) : String :=
  match request.typeName with
  | some given => if given.isEmpty then request.input.stem else given
  | none => request.input.stem

/-- The heading of everything else that is known about a failure. Whoever shows the report adds
what that is. -/
def traceHeading : String := "\n[dim]Traceback:[/dim]"

/-- Report a failure to the user, or hand it on. -/
def reportFailure (debug : Bool) (failure : Failure) : Action Ending := do
  match Report.ofFailure? failure with
  | none => throw failure
  | some report =>
      complainLine report.text
      if debug then print .errors traceHeading
      pure (.exited report.exitCode)

/-- Convert a dataset. The directory is created before anything is known of the family. -/
def convert (surroundings : Surroundings) (debug : Bool) (request : ConvertCommand) :
    Action Ending := do
  if !(← leadsSomewhere request.input) then
    pure (.misused (.noSuchPath "INPUT_PATH" request.input.text))
  else
    Action.makeDirectories request.directory
    withFamily (Session.startNamed surroundings request.modules request.family
        { directory := request.configuration, watch := false, limit := request.limit })
      fun session =>
        session.during fun opened => do
          match ← (opened.service.convert
              { input := request.input, directory := request.directory
                typeName := typeNameOf request
                formatName := request.formatName, crs := request.crs.map Crs.text }).outcome with
          | .ok path => do
              printLine ("[green]✓ Saved:[/green] " ++ path.text)
              pure (.exited 0)
          | .error failure => reportFailure debug failure

/-- Show the configuration that is compiled in for a family, or write it to a file. -/
def showDefault (surroundings : Surroundings) (family : String) (output : Option Path) :
    Action Ending :=
  withFamily (defaultDocument surroundings family) fun document => do
    match output with
    | none => print .output document
    | some path =>
        Action.writeFile path (Text.Utf8.encode document)
        printLine ("[green]✓ Saved:[/green] " ++ path.text)
    pure (.exited 0)

/-- Examine one family: its executable and what it can produce here. -/
def examine (surroundings : Surroundings) (configuration : Option Path) (family : Family) :
    Action Unit := do
  let session ← Session.start surroundings family { directory := configuration, watch := false }
  session.during fun _ => do
    let site ← get
    let snapshot := site.registry.snapshot
    let available ← (family.probe surroundings.runner).isAvailable snapshot.executable
      (some snapshot.environment)
    printLine
      (family.name ++ ": " ++ snapshot.executable ++ " ("
        ++ (if available then "available" else "<not available>") ++ "), formats: "
        ++ listedOrNone snapshot.names)

/-- Show the state of every built-in family. -/
def diagnose (surroundings : Surroundings) (configuration : Option Path) : Action Ending := do
  let site ← get
  let names := FamilyRegistry.builtin.names
  printLine ("config dir: " ++ (configurationDirectory site configuration).text)
  printLine ("families: " ++ ", ".intercalate names)
  names.forM fun name => do
    let family ← Action.ofExcept (FamilyRegistry.builtin.get name)
    examine surroundings configuration family
  pure (.exited 0)

/-- Carry out a command. -/
def execute (surroundings : Surroundings) (debug : Bool) : Command → Action Ending
  | .formats family configuration modules =>
      listFormats surroundings family configuration modules
  | .probe executable family => reportProbe surroundings executable family
  | .convert request => convert surroundings debug request
  | .defaultConfiguration family output => showDefault surroundings family output
  | .doctor configuration => diagnose surroundings configuration

/-- Carry out a command line. -/
def run (surroundings : Surroundings) (texts : List String) : Action Ending :=
  match Invocation.read texts with
  | .error misuse => pure (.misused misuse)
  | .ok .help => pure .helped
  | .ok (.command debug command) => execute surroundings debug command

end GeoBridge.CommandLine
