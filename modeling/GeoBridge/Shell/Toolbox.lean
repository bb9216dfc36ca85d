import GeoBridge.Shell.Builtin.Flow
import GeoBridge.Shell.Builtin.Input
import GeoBridge.Shell.Builtin.Output
import GeoBridge.Shell.Builtin.Signals
import GeoBridge.Shell.Tool.Characters
import GeoBridge.Shell.Tool.Edit
import GeoBridge.Shell.Tool.Order
import GeoBridge.Shell.Tool.Parts
import GeoBridge.Shell.Tool.Search
import GeoBridge.Shell.Tool.Values

/-!
Owns the tables of commands.

Owns:
- the programs of the machine, by their names;
- the commands of the shell that need nothing but the state, by their names.
-/

namespace GeoBridge.Shell

/-- The programs of the machine but the shell. -/
def tools : List (String × Tool) :=
  [("[", Tool.bracket), ("basename", Tool.basename), ("cat", Tool.cat), ("cut", Tool.cut),
   ("dirname", Tool.dirname), ("echo", Tool.echo), ("false", Tool.give 1), ("grep", Tool.search),
   ("head", Tool.head), ("printenv", Tool.printVariables), ("printf", Tool.printFormat),
   ("sed", Tool.edit), ("seq", Tool.series), ("sleep", Tool.sleep), ("sort", Tool.sort),
   ("tail", Tool.tail), ("test", Tool.test), ("tr", Tool.exchange), ("true", Tool.give 0),
   ("uniq", Tool.uniq), ("wc", Tool.wc), ("yes", Tool.repeatLine)]

/-- The commands of the shell whose faults end a script. -/
def specialBuiltins : List (String × Builtin) :=
  [(":", Builtin.give 0), ("break", Builtin.jump "break" .left),
   ("continue", Builtin.jump "continue" .resumed), ("exit", Builtin.exit),
   ("export", Builtin.exportAll), ("local", Builtin.localize), ("readonly", Builtin.keepAll),
   ("return", Builtin.leaveFunction), ("set", Builtin.setAll), ("shift", Builtin.shift),
   ("trap", Builtin.trap), ("unset", Builtin.unset)]

/-- The other commands of the shell. -/
def regularBuiltins : List (String × Builtin) :=
  [("true", Builtin.give 0), ("false", Builtin.give 1), ("echo", Builtin.echo),
   ("printf", Builtin.printFormat), ("read", Builtin.read), ("test", Builtin.test "test"),
   ("[", Builtin.bracket), ("kill", Builtin.kill), ("wait", Builtin.wait),
   ("pwd", Builtin.showDirectory), ("cd", Builtin.changeDirectory),
   ("chdir", Builtin.changeDirectory)]

end GeoBridge.Shell
