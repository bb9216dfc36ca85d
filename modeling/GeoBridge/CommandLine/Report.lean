import GeoBridge.Failure

/-!
Owns the reports by which users of the command line learn of failures.

Owns:
- what is reported of a failure, and its wording;
- the exit code that goes with it, which is never zero.
-/

namespace GeoBridge.CommandLine

/-- A report of a failure. -/
structure Report where
  label : String
  message : String
  exitCode? : Option Int := none
deriving DecidableEq, Repr

namespace Report

/-- The report of a failure, if it is one that users are told about. -/
def ofFailure? (failure : Failure) : Option Report :=
  failure.label?.map fun label =>
    { label, message := failure.message, exitCode? := failure.exitCode? }

/-- The wording. -/
def text (report : Report) : String :=
  "[red]✗ " ++ report.label ++ ":[/red] " ++ report.message

/-- The exit code. That of a tool is handed on unless it is zero or a signal. -/
def exitCode (report : Report) : Int :=
  match report.exitCode? with
  | some code => if 0 < code then code else 1
  | none => 1

end Report

end GeoBridge.CommandLine
