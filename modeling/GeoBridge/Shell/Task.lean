import GeoBridge.Shell.Opening

/-!
Owns the tasks that scripts give to one another, and what answers them.

Owns:
- how a command stands in its script;
- the tasks: a command that was read, a text that is still to be read, and a program;
- the forms of commands that the shell knows itself, and of programs.
-/

namespace GeoBridge.Shell

/-- How a command stands in its script: whether its failure is looked at, so that it does not end
the script, and whether nothing comes after it, so that the shell makes way for it. -/
structure Mode where
  isTested : Bool := false
  isLast : Bool := false
deriving DecidableEq, Repr

/-- A task: a command, a text of commands whose first line has a number, or a program with its
arguments, complaints about which begin with a label. -/
inductive Task where
  | script (mode : Mode) (script : Script)
  | text (mode : Mode) (line : Nat) (characters : List Char)
  | program (line : Nat) (label : String) (words : List String)
deriving Repr

/-- What carries out tasks. -/
abbrev Carrier := Task → Run Nat

/-- A command of the shell: from the line and the arguments to the status. -/
abbrev Builtin := Nat → List String → Run Nat

/-- A program: from its name and the arguments to the status. -/
abbrev Tool := String → List String → Run Nat

end GeoBridge.Shell
