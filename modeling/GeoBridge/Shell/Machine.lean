import GeoBridge.Workspace

/-!
Owns the machine on which scripts run: its files and directories beside those of the workspace.

Owns:
- the names of its programs, and the directories that hold them;
- the variables of its environment;
- a workspace with everything of the machine in it.
-/

namespace GeoBridge.Shell

/-- The names of the shell. -/
def shellNames : List String := ["sh", "dash"]

/-- The names of all other programs. -/
def toolNames : List String :=
  ["[", "basename", "cat", "cut", "dirname", "echo", "false", "grep", "head", "printenv", "printf",
   "sed", "seq", "sleep", "sort", "tail", "test", "tr", "true", "uniq", "wc", "yes"]

/-- The names of all programs. -/
def programNames : List String := shellNames ++ toolNames

/-- The directories that hold programs, in the order in which they are searched. -/
def programDirectories : List Place := [["usr", "bin"], ["bin"]]

/-- The variables that programs of the machine know. -/
def machineVariables : List (String × String) :=
  [("HOME", "/root"),
   ("PATH", "/usr/local/sbin:/usr/local/bin:/usr/sbin:/usr/bin:/sbin:/bin")]

/-- The directories of the machine. -/
def machineDirectories : List Place :=
  [["bin"], ["boot"], ["dev"], ["dev", "fd"], ["etc"], ["home"], ["lib"], ["media"], ["mnt"],
   ["opt"], ["proc"], ["root"], ["run"], ["sbin"], ["srv"], ["sys"], ["tmp"], ["usr"],
   ["usr", "bin"], ["usr", "lib"], ["usr", "local"], ["usr", "local", "bin"], ["usr", "sbin"],
   ["usr", "share"], ["var"]]

/-- The files of the machine: its programs, and some that are none. -/
def machineFiles : List Place :=
  ["null", "zero", "full", "stdin", "stdout", "stderr"].map (fun name => ["dev", name])
    ++ (List.range 10).map (fun number => ["dev", "fd", toString number])
    ++ [["etc", "passwd"], ["etc", "hosts"]]
    ++ programDirectories.flatMap fun directory =>
        programNames.map fun name => directory ++ [name]

/-- Whether the machine has something at a place. -/
def isOfMachine (place : Place) : Bool :=
  machineDirectories.contains place || machineFiles.contains place

/-- A workspace with the files and directories of the machine, as far as there is nothing else in
their places. -/
def withMachine (workspace : Workspace) : Workspace :=
  { workspace with
    entries := workspace.entries
      ++ machineDirectories.map (fun place => (place, Entry.directory))
      ++ machineFiles.map fun place => (place, Entry.file []) }

/-- A workspace without the files and directories of the machine, unless they were there before. -/
def withoutMachine (before workspace : Workspace) : Workspace :=
  { workspace with
    here := before.here
    entries := workspace.entries.filter fun entry =>
      !isOfMachine entry.1 || (before.entryAt? entry.1).isSome }

end GeoBridge.Shell
