import GeoBridge.ChildProcess
import GeoBridge.Proofs.LoaderRecords
import GeoBridge.Proofs.SnapshotIsolation

/-!
Owns what can be relied on when commands are run as child processes, whatever the machine does.

Owns:
- the variables that a child sees, and the line breaks of the text that is kept of it;
- what a run leaves at the site: one record, and the files as the child left them;
- the faults that a run can end with;
- the promises about runners that the theorems on loaders, conversions and snapshots ask for.
-/

namespace GeoBridge.ChildProcess

/-! ### Variables and texts -/

/-- Variables of the call hide those of the surroundings. -/
theorem find?_mergedEnvironment (ambient overrides : Environment) (name : String) :
    (mergedEnvironment ambient (some overrides)).find? name =
      (Association.find? overrides.reverse name).or (ambient.find? name) :=
  Association.find?_putAll ambient overrides name

theorem not_mem_unifyLineBreaks (characters : List Char) :
    '\r' ∉ unifyLineBreaks characters := by
  fun_induction unifyLineBreaks characters with
  | case1 rest inductionHypothesis =>
      rw [List.mem_cons, not_or]
      exact ⟨by decide, inductionHypothesis⟩
  | case2 character rest _ inductionHypothesis =>
      rw [List.mem_cons, not_or]
      refine ⟨?_, inductionHypothesis⟩
      split
      · decide
      · next other => exact fun same => other (beq_iff_eq.mpr same.symm)
  | case3 => exact List.not_mem_nil

theorem not_mem_textOfOutput (octets : List UInt8) : '\r' ∉ (textOfOutput octets).toList := by
  rw [textOfOutput, String.toList_ofList]
  exact not_mem_unifyLineBreaks _

/-! ### What a run leaves -/

section Run

variable (machine : Machine) (ambient : Environment) (call : CommandCall) (site : Site)

/-- The record with which every run begins. -/
def startRecord : Record :=
  { level := .debug, area := .process, message := "running: " ++ Text.shellLine call.argv }

/-- What a child does, if one can be started. -/
def attempt : Except Failure Conduct :=
  match refusal? call.argv (mergedEnvironment ambient call.environment) with
  | some fault => .error (.outside fault)
  | none =>
      (machine site.workspace (mergedEnvironment ambient call.environment) call).mapError
        Failure.system

/-- A run is recorded, whether a child is started or not. A child leaves its files, and its end
gives the outcome. -/
theorem run_eq : run machine ambient call site =
    match attempt machine ambient call site with
    | .error failure => .error failure (site.entered (.recorded (startRecord call)))
    | .ok child =>
        Action.ofExcept (outcomeOf call child)
          { site.entered (.recorded (startRecord call)) with workspace := child.workspace } := by
  have recorded : (Action.record .debug .process ("running: " ++ Text.shellLine call.argv)) site =
      .ok () (site.entered (.recorded (startRecord call))) := rfl
  rw [run, Action.bind_of_ok recorded, attempt]
  cases refused : refusal? call.argv (mergedEnvironment ambient call.environment) with
  | some fault => rfl
  | none =>
      simp only
      rw [Action.get_bind]
      rw [Site.entered_workspace]
      cases machine site.workspace (mergedEnvironment ambient call.environment) call <;> rfl

/-- The files that a run leaves: those of the child, or the ones that were there. -/
def filesLeft : Workspace :=
  match attempt machine ambient call site with
  | .error _ => site.workspace
  | .ok child => child.workspace

/-- A run makes its record, and the files are as the child left them. -/
theorem after_run : (run machine ambient call).after site =
    { site.entered (.recorded (startRecord call)) with
      workspace := filesLeft machine ambient call site } := by
  have whole := run_eq machine ambient call site
  rw [filesLeft]
  cases tried : attempt machine ambient call site with
  | error failure =>
      rw [tried] at whole
      exact Action.after_of_error whole
  | ok child =>
      rw [tried] at whole
      exact (Action.after_congr whole).trans (Action.after_ofExcept _ _)

theorem ending_run : (run machine ambient call).ending site =
    (attempt machine ambient call site).bind (outcomeOf call) := by
  have whole := run_eq machine ambient call site
  cases tried : attempt machine ambient call site with
  | error failure =>
      rw [tried] at whole
      exact Action.ending_of_error whole
  | ok child =>
      rw [tried] at whole
      exact (Action.ending_congr whole).trans (Action.ending_ofExcept _ _)

/-- The text of an outcome knows no line break but the line feed. -/
theorem not_mem_output {outcome : CommandOutcome}
    (ended : (run machine ambient call).ending site = .ok outcome) :
    '\r' ∉ outcome.output.toList := by
  rw [ending_run] at ended
  cases tried : attempt machine ambient call site with
  | error failure =>
      rw [tried] at ended
      cases ended
  | ok child =>
      rw [tried] at ended
      change outcomeOf call child = .ok outcome at ended
      rw [outcomeOf] at ended
      cases closed : child.ending <;> rw [closed] at ended <;> cases ended <;>
        exact not_mem_textOfOutput child.written

/-- A run that fails does so by a fault from outside of the library, which concerns the process
unless the call was refused. -/
theorem fault_of_run {failure : Failure}
    (ended : (run machine ambient call).ending site = .error failure) :
    ∃ fault, failure = .outside fault ∧ (fault.concernsProcess = true ∨
      refusal? call.argv (mergedEnvironment ambient call.environment) = some fault) := by
  rw [ending_run, attempt] at ended
  cases refused : refusal? call.argv (mergedEnvironment ambient call.environment) with
  | some fault =>
      rw [refused] at ended
      cases ended
      exact ⟨fault, rfl, .inr rfl⟩
  | none =>
      rw [refused] at ended
      simp only at ended
      cases started : machine site.workspace (mergedEnvironment ambient call.environment) call with
      | error fault =>
          rw [started] at ended
          cases ended
          exact ⟨.system fault, rfl, .inl rfl⟩
      | ok child =>
          rw [started] at ended
          change outcomeOf call child = .error failure at ended
          rw [outcomeOf] at ended
          cases outlasted : child.ending <;> rw [outlasted] at ended <;> cases ended
          exact ⟨_, rfl, .inl rfl⟩

end Run

/-! ### Promises about runners -/

section Promises

variable (machine : Machine) (ambient : Environment) (call : CommandCall)

/-- A run is within every frame that its record and changes to the files are within. -/
theorem respects_run {frame : Frame}
    (recorded : ∀ site : Site, frame.allows site (site.entered (.recorded (startRecord call))))
    (files : ∀ (site : Site) (workspace : Workspace),
      frame.allows site { site with workspace }) :
    (run machine ambient call).Respects frame := by
  intro site
  rw [after_run]
  exact frame.chain (recorded site) (files _ _)

/-- A run neither looks at the registry nor changes it. -/
theorem ignoresRegistry_run : (run machine ambient call).IgnoresRegistry := by
  refine Action.repeats_of_same fun site registry => ?_
  have sameAttempt : attempt machine ambient call { site with registry } =
      attempt machine ambient call site := rfl
  constructor
  · rw [ending_run, ending_run, sameAttempt]
  · rw [after_run, after_run, filesLeft, filesLeft, sameAttempt]
    rfl

/-- Whatever the machine does, a run of a child keeps the promises that are asked of runners: it
leaves the registry alone, takes nothing back from the journal, makes no further call and no record
in the name of the loader. -/
theorem run_keepsPromises :
    (run machine ambient call).IgnoresRegistry ∧ (run machine ambient call).Respects .later ∧
      (run machine ambient call).Respects .sameCalls ∧
      (run machine ambient call).Respects .sameLoaderRecords := by
  refine ⟨ignoresRegistry_run machine ambient call, ?_, ?_, ?_⟩
  · exact respects_run machine ambient call (fun site => Frame.later_entered site _)
      Frame.later_ignoresWork.files
  · exact respects_run machine ambient call (fun site => Frame.sameCalls_ignoresWork.records site _)
      Frame.sameCalls_ignoresWork.files
  · refine respects_run machine ambient call (fun site => ?_) fun _ _ => rfl
    refine site.loaderRecords_entered fun record same => ?_
    cases same
    change Area.process ≠ Area.loader
    decide

end Promises

end GeoBridge.ChildProcess
