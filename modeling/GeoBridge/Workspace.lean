import GeoBridge.Failure
import GeoBridge.Path
import GeoBridge.Text.Ascending

/-!
Owns the files that the library reads, writes and removes.

Owns:
- the places of files and directories, and what is at each of them;
- the way from a path to a place, step by step through directories, and what can stand in it;
- the operations on files, each of which changes nothing when it fails.
-/

namespace GeoBridge

/-- The place of a file or directory: the names on the way from the root. -/
abbrev Place := List String

/-- What is at a place. -/
inductive Entry where
  | file (octets : List UInt8)
  | directory
deriving DecidableEq, Repr

/-- What can stand in the way of an operation on a file. -/
inductive Obstacle where
  | missing
  | notDirectory
  | nameTooLong
  | isDirectory
  | exists
  | nullCharacter
  | deviceFull
deriving DecidableEq, Repr

/-- The failure of an operation on a file of the given name. -/
def Obstacle.failure (file : String) : Obstacle → Failure
  | .missing => .system (.noSuchFile file)
  | .notDirectory => .system (.notADirectory file)
  | .nameTooLong => .system (.nameTooLong file)
  | .isDirectory => .system (.isADirectory file)
  | .exists => .system (.alreadyExists file)
  | .nullCharacter => .outside .nullCharacter
  | .deviceFull => .system .deviceFull

/-- Files and directories, and the working directory. The root is always a directory. -/
structure Workspace where
  here : Place
  entries : List (Place × Entry)
  deviceFull : Bool := false
deriving Repr

namespace Workspace

/-- The working directory as a path. -/
def herePath (workspace : Workspace) : Path := ⟨.single, workspace.here⟩

/-- What is at a place. -/
def entryAt? (workspace : Workspace) (place : Place) : Option Entry :=
  if place.isEmpty then some .directory else workspace.entries.lookup place

/-- Whether a name is longer than file systems allow. -/
def isLongName (name : String) : Bool := 255 < name.utf8ByteSize

/-- Follow names from a place, through directories only. The last of them need not exist. -/
def follow (workspace : Workspace) : Place → List String → Except Obstacle Place
  | place, [] => .ok place
  | place, name :: rest =>
      match workspace.entryAt? place with
      | none => .error .missing
      | some (.file _) => .error .notDirectory
      | some .directory =>
          if name == ".." then workspace.follow place.dropLast rest
          else if isLongName name then .error .nameTooLong
          else workspace.follow (place ++ [name]) rest

/-- The place that a path leads to. -/
def locate (workspace : Workspace) (path : Path) : Except Obstacle Place :=
  if path.text.toList.contains '\x00' then .error .nullCharacter
  else if 4095 < path.text.utf8ByteSize then .error .nameTooLong
  else workspace.follow (if path.isAbsolute then [] else workspace.here) path.parts

/-- What a path leads to. -/
def inspect (workspace : Workspace) (path : Path) : Except Obstacle Entry :=
  match workspace.locate path with
  | .error obstacle => .error obstacle
  | .ok place =>
      match workspace.entryAt? place with
      | none => .error .missing
      | some entry => .ok entry

/-- What a path leads to, where nothing is an answer too. Only names that are too long are faults
then. -/
def probe (workspace : Workspace) (path : Path) : Except Obstacle (Option Entry) :=
  match workspace.inspect path with
  | .ok entry => .ok (some entry)
  | .error .nameTooLong => .error .nameTooLong
  | .error _ => .ok none

/-- The workspace with an entry at a place. -/
def put (workspace : Workspace) (place : Place) (entry : Entry) : Workspace :=
  { workspace with
    entries := (place, entry) :: workspace.entries.filter fun other => other.1 ≠ place }

/-- The workspace without the entry at a place. -/
def remove (workspace : Workspace) (place : Place) : Workspace :=
  { workspace with entries := workspace.entries.filter fun other => other.1 ≠ place }

/-- The content of the file that a path leads to. -/
def read (workspace : Workspace) (path : Path) : Except Obstacle (List UInt8) :=
  match workspace.inspect path with
  | .error obstacle => .error obstacle
  | .ok .directory => .error .isDirectory
  | .ok (.file octets) => .ok octets

/-- The place at which a path allows a file to be written. -/
def writable (workspace : Workspace) (path : Path) : Except Obstacle Place :=
  match workspace.locate path with
  | .error obstacle => .error obstacle
  | .ok place =>
      match workspace.entryAt? place, workspace.entryAt? place.dropLast with
      | some .directory, _ => .error .isDirectory
      | some (.file _), _ => .ok place
      | none, some .directory => .ok place
      | none, some (.file _) => .error .notDirectory
      | none, none => .error .missing

/-- Write a file. -/
def write (workspace : Workspace) (path : Path) (octets : List UInt8) :
    Except Obstacle Workspace :=
  (workspace.writable path).map fun place => workspace.put place (.file octets)

/-- Remove a file. -/
def unlink (workspace : Workspace) (path : Path) : Except Obstacle Workspace :=
  match workspace.locate path with
  | .error obstacle => .error obstacle
  | .ok place =>
      match workspace.entryAt? place with
      | none => .error .missing
      | some .directory => .error .isDirectory
      | some (.file _) => .ok (workspace.remove place)

/-- Create a directory inside an existing one. -/
def makeDirectory (workspace : Workspace) (path : Path) : Except Obstacle Workspace :=
  match workspace.locate path with
  | .error obstacle => .error obstacle
  | .ok place =>
      match workspace.entryAt? place, workspace.entryAt? place.dropLast with
      | some _, _ => .error .exists
      | none, some .directory => .ok (workspace.put place .directory)
      | none, some (.file _) => .error .notDirectory
      | none, none => .error .missing

/-- Create a directory and those around it, as far as they do not exist. The fault of a directory
that cannot be created is told with its path. -/
def makeDirectories (workspace : Workspace) (root : PathRoot) : (parts : List String) →
    (depth : Nat) → Except (Obstacle × Path) Workspace
  | parts, depth =>
      let path : Path := ⟨root, parts⟩
      match workspace.makeDirectory path with
      | .ok made => .ok made
      | .error .missing =>
          match depth with
          | 0 => .error (.missing, path)
          | depth + 1 =>
              if parts.isEmpty then .error (.missing, path)
              else
                match workspace.makeDirectories root parts.dropLast depth with
                | .error fault => .error fault
                | .ok prepared =>
                    match prepared.makeDirectory path with
                    | .ok made => .ok made
                    | .error .missing => .error (.missing, path)
                    | .error obstacle => unlessDirectory prepared path obstacle
      | .error obstacle => unlessDirectory workspace path obstacle
  termination_by _ depth => depth
where
  /-- An obstacle does not count if the directory is there. -/
  unlessDirectory (workspace : Workspace) (path : Path) (obstacle : Obstacle) :
      Except (Obstacle × Path) Workspace :=
    match workspace.probe path with
    | .ok (some .directory) => .ok workspace
    | .ok _ => .error (obstacle, path)
    | .error further => .error (further, path)

/-- The workspace with directories on the whole way to a place. -/
def plantDirectories (workspace : Workspace) (place : Place) : Workspace :=
  (List.range place.length).foldl (fun made count =>
    let part := place.take (count + 1)
    if (made.entryAt? part).isSome then made else made.put part .directory) workspace

/-- The workspace with an entry at a place, and directories on the way to it. -/
def plant (workspace : Workspace) (place : Place) (entry : Entry) : Workspace :=
  match entry with
  | .directory => workspace.plantDirectories place
  | .file _ => (workspace.plantDirectories place.dropLast).put place entry

/-- The workspace without a place and everything below it. -/
def uproot (workspace : Workspace) (place : Place) : Workspace :=
  { workspace with entries := workspace.entries.filter fun other => !place.isPrefixOf other.1 }

/-- The text of everything below a place, in ascending order. Directories end in a slash. -/
def listing (workspace : Workspace) (place : Place) : List String :=
  Text.ascending (workspace.entries.filterMap fun (other, entry) =>
    if place.isPrefixOf other && place.length < other.length then
      let path := "/".intercalate (other.drop place.length)
      some (if entry = .directory then path ++ "/" else path)
    else none)

/-- The names directly inside the directory at a place. -/
def children (workspace : Workspace) (place : Place) : List String :=
  workspace.entries.filterMap fun (other, _) =>
    if other.dropLast = place then other.getLast? else none

end Workspace

end GeoBridge
