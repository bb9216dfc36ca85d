import GeoBridge.Fault
import GeoBridge.Shell.Opening

/-!
Owns the programs of the machine and the places where they are found.

Owns:
- the search for a program by its path or by its name, which only leads to those of the machine;
- the state in which a program starts, which knows the exported variables only.
-/

namespace GeoBridge.Shell

/-- The program that a path leads to, or what stands in the way of it. What is there but no program
is refused. -/
def programAt (state : State) (written : String) : Except Condition String :=
  let path := pathOf written
  let ending := (Path.divide '/' [] written.toList).getLast?.getD []
  match state.workspace.locate path, state.workspace.inspect path with
  | .ok place, .ok (.file _) =>
      let name := place.getLastD ""
      if !Path.counts '.' ending then .error .notDirectory
      else if programDirectories.contains place.dropLast && programNames.contains name then
        .ok name
      else .error .denied
  | _, .ok .directory => .error .denied
  | _, .error .notDirectory => .error .notDirectory
  | _, .error .nameTooLong => .error .general
  | _, _ => .error .missing

/-- The directories that are searched for programs, which are those of the machine unless others
are listed. -/
def searchedDirectories : Option String → List String
  | none => programDirectories.map fun place => "/" ++ "/".intercalate place
  | some listed => listed.splitOn ":"

/-- The better of two results of a search: a program before every fault, and what stands in the way
before what is missing. -/
def preferred {α : Type} (first second : Except Condition α) : Except Condition α :=
  match first, second with
  | .ok program, _ => .ok program
  | .error .missing, _ | .error .notDirectory, _ | .error _, .ok _ => second
  | .error fault, .error _ => .error fault

/-- The program of the given name, with its path: the one that it leads to if it is a path, else the
first one of the name in the searched directories. -/
def findProgram (state : State) (listed : Option String) (name : String) :
    Except Condition (String × String) :=
  let at_ := fun (path : String) => (programAt state path).map fun program => (program, path)
  if name.toList.contains '/' then at_ name
  else if name.isEmpty then .error .missing
  else
    (searchedDirectories listed).foldr (fun directory later =>
      preferred (at_ (if directory.isEmpty then name else directory ++ "/" ++ name)) later)
      (.error .missing)

/-- The program of the given name, as the variables of a script say where to search. -/
def State.findProgram (state : State) (name : String) : Except Condition (String × String) :=
  Shell.findProgram state (state.bindings.find? "PATH") name

/-- The state in which a program starts. -/
def State.atProgramStart (state : State) : State :=
  { state with
    bindings := state.bindings.filter fun entry => state.exported.contains entry.1
    parameters := [], readOnly := [], functions := [], flags := [], status := 0, nested := 0
    loops := 0, frames := [], heading := "", pending := []
    traps := state.traps.filter fun entry => entry.2.isEmpty
    outerTraps := none, outerPending := []
    jobs := [], lastJob := none }

/-- The state in which a shell starts: with the variables that every shell has. -/
def State.atShellStart (state : State) (name : String) (parameters : List String) : State :=
  let path := (state.bindings.find? "PATH").getD
    "/usr/local/sbin:/usr/local/bin:/usr/sbin:/usr/bin:/sbin:/bin"
  let given := [("IFS", " \t\n"), ("OPTIND", "1"), ("PATH", path), ("PS4", "+ "),
    ("PWD", toOctetText state.workspace.herePath.text)]
  { state with
    name, parameters
    bindings := Association.putAll state.bindings given }

end GeoBridge.Shell
