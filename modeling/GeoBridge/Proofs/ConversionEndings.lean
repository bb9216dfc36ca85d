import GeoBridge.Proofs.ConversionFailures
import GeoBridge.Proofs.Services

/-!
Owns how a run of a tool ends, by the call that it comes to.

Owns:
- the exit status of a failure, and the actions whose failures carry no exit code;
- the judgement of a command that has ended, by its exit code and the path of the output;
- runs that come to their call: the call, its end, and what can be in the way after it;
- the calls and the status of a run that comes to its call, and of one that does not.
-/

namespace GeoBridge

/-! ### Exit statuses -/

namespace Failure

/-- The exit status that a failure is answered with: the exit code of the tool if it is positive,
and else 1. -/
def status (failure : Failure) : Int :=
  match failure.exitCode? with
  | some code => if 0 < code then code else 1
  | none => 1

theorem status_positive (failure : Failure) : 0 < failure.status := by
  unfold status
  cases failure.exitCode? with
  | none => decide
  | some code =>
      by_cases positive : 0 < code
      · simpa only [if_pos positive] using positive
      · simp only [if_neg positive]
        decide

theorem status_of_codeless {failure : Failure} (codeless : failure.exitCode? = none) :
    failure.status = 1 := by
  rw [status, codeless]

end Failure

/-- The exit status that the end of a conversion is answered with. -/
def statusOf {α : Type} : Except Failure α → Int
  | .ok _ => 0
  | .error failure => failure.status

/-- The exit status of a call: 0 and every positive exit code as they are, and 1 for a signal or for
a command that did not run to its end. -/
def callStatus : Except Failure CommandOutcome → Int
  | .ok outcome => if outcome.exitCode < 0 then 1 else outcome.exitCode
  | .error _ => 1

/-! ### Failures without an exit code -/

namespace Action

variable {α : Type}

/-- An action whose failures carry no exit code. -/
def Codeless (action : Action α) : Prop :=
  ∀ site failure, action.ending site = .error failure → failure.exitCode? = none

/-- The failures of staging carry none. -/
theorem FailsOnly.codeless {action : Action α}
    (fails : action.FailsOnly (·.concernsStaging = true)) : action.Codeless :=
  fun site failure ended => Failure.exitCode?_of_concernsStaging (fails site failure ended)

end Action

/-! ### Hooks that return -/

/-- Hooks that end with a value, wherever they run. -/
structure Hooks.Return (hooks : Hooks) : Prop where
  before : ∀ context site, ∃ command left, hooks.before context site = .ok command left
  after : ∀ exitCode site, ∃ left, hooks.after exitCode site = .ok () left

theorem HookPolicy.hooks_return (policy : HookPolicy) : policy.hooks.Return where
  before context site := by cases policy <;> exact ⟨_, site, rfl⟩
  after exitCode site := by cases policy <;> exact ⟨site, rfl⟩

namespace Tool

variable {tool : Tool} {request : Request} {begun : Site}

/-- A command is what the hook before the run returned, with the paths. -/
theorem prepare_eq_ok {sideFile : Option Path} {site left : Site} {command : List String} :
    tool.prepare request sideFile site = .ok command left ↔
      ∃ adjusted, tool.hooks.before (tool.contextOf request sideFile)
          (tool.atHook request sideFile site) = .ok adjusted left ∧
        command = adjusted ++ tool.pathArguments request left.workspace.herePath := by
  have whole : tool.prepare request sideFile site =
      (tool.hooks.before (tool.contextOf request sideFile) >>= fun adjusted =>
        Action.here >>= fun here => pure (adjusted ++ tool.pathArguments request here))
          (tool.atHook request sideFile site) := rfl
  rw [whole, Action.bind_eq_ok]
  constructor
  · rintro ⟨adjusted, middle, hooked, completed⟩
    cases completed
    exact ⟨adjusted, hooked, rfl⟩
  · rintro ⟨adjusted, hooked, rfl⟩
    exact ⟨adjusted, left, hooked, rfl⟩

theorem prepare_of_return (returns : tool.hooks.Return) (sideFile : Option Path) (site : Site) :
    ∃ command left, tool.prepare request sideFile site = .ok command left := by
  obtain ⟨adjusted, left, hooked⟩ := returns.before (tool.contextOf request sideFile)
    (tool.atHook request sideFile site)
  exact ⟨_, left, prepare_eq_ok.mpr ⟨adjusted, hooked, rfl⟩⟩

theorem codeless_conclude (returns : tool.hooks.Return) (sideFile : Option Path) (exitCode : Int) :
    (tool.conclude sideFile exitCode).Codeless := by
  have notifies : (tool.notifyAfter exitCode).FailsOnly (·.concernsStaging = true) := by
    intro site failure ended
    obtain ⟨left, hooked⟩ := returns.after exitCode (site.entered (.afterRun exitCode))
    have told : (tool.notifyAfter exitCode).ending site = .ok () := Action.ending_of_ok hooked
    rw [told] at ended
    cases ended
  exact (notifies.finally_ (failsOnly_discard sideFile)).codeless

/-! ### The end of a run -/

/-- The file that a successful run produced: at the path of the output, or under it where a
directory is found there. -/
def producedIn (request : Request) (workspace : Workspace) : Path :=
  let path := request.outputPath workspace.herePath
  match workspace.probe path with
  | .ok (some .directory) => path.joinText request.filename
  | _ => path

section Judgement

variable {command : List String} {outcome : CommandOutcome} {site : Site}

theorem judge_of_unsuccessful (unsuccessful : outcome.exitCode ≠ 0) :
    tool.judge request command outcome site = .error (.conversion
      (.unsuccessful tool.executable outcome.exitCode command outcome.output)) site := by
  unfold judge
  rw [if_pos (by simpa using unsuccessful)]
  rfl

theorem judge_of_probed {found : Option Entry} (succeeded : outcome.exitCode = 0)
    (probed : site.workspace.probe (request.outputPath site.workspace.herePath) = .ok found) :
    tool.judge request command outcome site = .ok
      { outputPath := producedIn request site.workspace, formatName := request.format.publicName
        command, output := outcome.output } site := by
  have here : Action.here site = .ok site.workspace.herePath site := rfl
  have inspected : Action.isDirectory (request.outputPath site.workspace.herePath) site =
      .ok (found == some .directory) site :=
    Action.bind_of_ok (Action.inspecting_of_ok probed)
  have looked : produced request (request.outputPath site.workspace.herePath) site =
      .ok (producedIn request site.workspace) site := by
    unfold produced producedIn
    rw [Action.bind_of_ok inspected]
    simp only [probed]
    rcases found with - | (content | -) <;> rfl
  unfold judge
  rw [if_neg (by simpa using succeeded)]
  exact (Action.bind_of_ok here).trans (Action.bind_of_ok looked)

theorem judge_of_blocked {obstacle : Obstacle} (succeeded : outcome.exitCode = 0)
    (blocked : site.workspace.probe (request.outputPath site.workspace.herePath) =
      .error obstacle) :
    tool.judge request command outcome site =
      .error (obstacle.failure (request.outputPath site.workspace.herePath).text) site := by
  have here : Action.here site = .ok site.workspace.herePath site := rfl
  have unlooked : produced request (request.outputPath site.workspace.herePath) site =
      .error (obstacle.failure (request.outputPath site.workspace.herePath).text) site :=
    Action.bind_of_error (Action.bind_of_error (Action.inspecting_of_error blocked))
  unfold judge
  rw [if_neg (by simpa using succeeded)]
  exact (Action.bind_of_ok here).trans (Action.bind_of_error unlooked)

/-- A conversion is judged to be one by its exit code alone. -/
theorem conversion_of_judge {conversion : Conversion}
    (judged : (tool.judge request command outcome).ending site = .ok conversion) :
    outcome.exitCode = 0 ∧ conversion =
      { outputPath := producedIn request site.workspace, formatName := request.format.publicName
        command, output := outcome.output } := by
  by_cases succeeded : outcome.exitCode = 0
  · cases probed : site.workspace.probe (request.outputPath site.workspace.herePath) with
    | ok found =>
        rw [Action.ending_of_ok (judge_of_probed succeeded probed)] at judged
        exact ⟨succeeded, (Except.ok.inj judged).symm⟩
    | error obstacle =>
        rw [Action.ending_of_error (judge_of_blocked succeeded probed)] at judged
        cases judged
  · rw [Action.ending_of_error (judge_of_unsuccessful succeeded)] at judged
    cases judged

end Judgement

theorem isOk_probe_iff {workspace : Workspace} {path : Path} :
    (workspace.probe path).isOk = true ↔ workspace.probe path ≠ .error .nameTooLong := by
  unfold Workspace.probe
  split <;> simp [Except.isOk, Except.toBool]

/-- The judgement of a command that has ended: a positive exit code is handed on, a signal counts as
1, and after a success the path of the output must not be too long. -/
theorem statusOf_judge (command : List String) (outcome : CommandOutcome) (site : Site) :
    statusOf ((tool.judge request command outcome).ending site) =
      if outcome.exitCode = 0 then
        if (site.workspace.probe (request.outputPath site.workspace.herePath)).isOk then 0 else 1
      else callStatus (.ok outcome) := by
  by_cases succeeded : outcome.exitCode = 0
  · rw [if_pos succeeded]
    cases probed : site.workspace.probe (request.outputPath site.workspace.herePath) with
    | ok found =>
        rw [Action.ending_of_ok (judge_of_probed succeeded probed)]
        rfl
    | error obstacle =>
        rw [Action.ending_of_error (judge_of_blocked succeeded probed)]
        exact Failure.status_of_codeless
          (Failure.exitCode?_of_concernsStaging (obstacle.concernsStaging_failure _))
  · have judged : statusOf (.error (.conversion (.unsuccessful tool.executable outcome.exitCode
        command outcome.output)) : Except Failure Conversion) =
          if 0 < outcome.exitCode then outcome.exitCode else 1 := rfl
    rw [if_neg succeeded, Action.ending_of_error (judge_of_unsuccessful succeeded), judged,
      callStatus]
    split <;> split <;> omega

/-! ### Runs that come to their call -/

/-- A run that begins at a site and comes to its call: the request is staged, and the hook before
the run returns the command. -/
structure Calling (tool : Tool) (request : Request) (begun : Site) where
  sideFile : Option Path
  staged : Site
  command : List String
  prepared : Site
  staging : tool.stage request begun = .ok sideFile staged
  preparing : tool.prepare request sideFile staged = .ok command prepared

namespace Calling

variable (calling : tool.Calling request begun)

def call : CommandCall := tool.callFor calling.command

/-- The files as the call finds them. -/
def found : Workspace := calling.prepared.workspace

/-- The site at which the call has been entered into the journal. -/
def entered : Site := calling.prepared.entered (.called calling.call calling.found)

/-- What the call ends with. -/
def ended : Except Failure CommandOutcome := (tool.runner calling.call).ending calling.entered

/-- The site that the call leaves behind. -/
def left : Site := (tool.runner calling.call).after calling.entered

/-- What is done once the call has ended: the hook after the run, and the removal of the side
file. -/
def concluding : Action Unit :=
  tool.conclude calling.sideFile (reportedExitCode (tool.endOf calling.command calling.ended))

/-- The site that the run leaves behind. -/
def rest : Site := calling.concluding.after calling.left

/-- Nothing is in the way once the call has ended: the hook after the run returns, the side file can
be removed, and after a success no name on the way to the output is too long. -/
structure Unhindered : Prop where
  concluded : calling.concluding.ending calling.left = .ok ()
  legible : ∀ outcome, calling.ended = .ok outcome → outcome.exitCode = 0 →
    calling.rest.workspace.probe (request.outputPath calling.rest.workspace.herePath) ≠
      .error .nameTooLong

/-- The output is looked for after a success only. -/
theorem unhindered_of_failed {failure : Failure}
    (concluded : calling.concluding.ending calling.left = .ok ())
    (ended : calling.ended = .error failure) : calling.Unhindered where
  concluded := concluded
  legible outcome succeeded := by
    rw [ended] at succeeded
    cases succeeded

theorem unhindered_of_ended {outcome : CommandOutcome}
    (concluded : calling.concluding.ending calling.left = .ok ())
    (ended : calling.ended = .ok outcome)
    (legible : outcome.exitCode = 0 →
      calling.rest.workspace.probe (request.outputPath calling.rest.workspace.herePath) ≠
        .error .nameTooLong) : calling.Unhindered where
  concluded := concluded
  legible other same := by
    rw [ended] at same
    cases same
    exact legible

/-- The run is its call, what is done after it, and the judgement of its end. -/
theorem run_eq :
    tool.run request begun =
      tool.settle request (tool.endOf calling.command calling.ended)
        (calling.concluding.ending calling.left) calling.rest := by
  obtain ⟨ending, after⟩ := attempt_of_prepared calling.preparing
  have attempted := stageAndAttempt_of_ok calling.staging
  rw [ending, after] at attempted
  rw [run_of_begun attempted, finish_eq]
  rfl

/-- A run fails as what is done after its call, or else as its call, or is judged by the outcome of
its call. -/
theorem ending_run_cases :
    (∃ failure, calling.concluding.ending calling.left = .error failure ∧
      (tool.run request).ending begun = .error failure) ∨
    (∃ failure, calling.concluding.ending calling.left = .ok () ∧
      calling.ended = .error failure ∧
      (tool.run request).ending begun =
        .error (tool.conversionFailure calling.command failure)) ∨
    ∃ outcome, calling.concluding.ending calling.left = .ok () ∧ calling.ended = .ok outcome ∧
      (tool.run request).ending begun =
        (tool.judge request calling.command outcome).ending calling.rest := by
  rw [Action.ending_congr calling.run_eq]
  cases concluded : calling.concluding.ending calling.left with
  | error failure => exact .inl ⟨failure, rfl, rfl⟩
  | ok _ =>
      cases ended : calling.ended with
      | error failure => exact .inr (.inl ⟨failure, rfl, rfl, rfl⟩)
      | ok outcome => exact .inr (.inr ⟨outcome, rfl, rfl, rfl⟩)

theorem after_run : (tool.run request).after begun = calling.rest := by
  rw [Action.after_congr calling.run_eq, after_settle]

/-- A run that comes to its call makes no other. -/
theorem calls_after_run (within : tool.Within .sameCalls) :
    ((tool.run request).after begun).calls = begun.calls ++ [(calling.call, calling.found)] := by
  have work := Frame.sameCalls_ignoresWork
  have prepares : (tool.prepare request calling.sideFile).Respects .sameCalls :=
    (Action.respects_enter fun site => work.before site _ _ _).bind fun _ =>
      (within.before _).bind fun _ =>
        (Action.respects_of_after_eq fun _ => rfl).bind fun _ => Action.respects_pure _
  have staged : calling.staged.calls = begun.calls :=
    (respects_stage work.ignoresFiles tool request).of_ok calling.staging
  have prepared : calling.prepared.calls = calling.staged.calls :=
    prepares.of_ok calling.preparing
  have entered : calling.entered.calls =
      calling.prepared.calls ++ [(calling.call, calling.found)] :=
    Site.calls_entered_called calling.prepared calling.call calling.found
  have ran : calling.left.calls = calling.entered.calls := within.runs calling.call calling.entered
  have concluded : calling.rest.calls = calling.left.calls := by
    unfold rest concluding
    rw [after_conclude]
    exact Frame.sameCalls.chain (respects_notifyAfter work within _ calling.left)
      (respects_discard work.ignoresFiles calling.sideFile _)
  rw [calling.after_run, concluded, ran, entered, prepared, staged]

/-- With nothing in the way, a run has the status of its call. -/
theorem statusOf_run_of_unhindered (unhindered : calling.Unhindered)
    (outside : ∀ failure, calling.ended = .error failure → ∃ fault, failure = .outside fault) :
    statusOf ((tool.run request).ending begun) = callStatus calling.ended := by
  rcases calling.ending_run_cases with
    ⟨failure, hindered, -⟩ | ⟨failure, -, ended, failed⟩ | ⟨outcome, -, ended, judged⟩
  · rw [unhindered.concluded] at hindered
    cases hindered
  · obtain ⟨fault, rfl⟩ := outside failure ended
    have without :
        (tool.conversionFailure calling.command (.outside fault)).exitCode? = none := by
      cases fault <;> rfl
    rw [failed, ended]
    exact Failure.status_of_codeless without
  · rw [judged, ended, statusOf_judge]
    by_cases succeeded : outcome.exitCode = 0
    · have legible := isOk_probe_iff.mpr (unhindered.legible outcome ended succeeded)
      rw [if_pos succeeded, if_pos legible, callStatus, succeeded]
      rfl
    · rw [if_neg succeeded]

/-- With something in the way a run fails, and the exit code of the command is lost. -/
theorem statusOf_run_of_hindered (hindered : ¬ calling.Unhindered) :
    0 < statusOf ((tool.run request).ending begun) ∧
      (tool.hooks.Return → statusOf ((tool.run request).ending begun) = 1) := by
  rcases calling.ending_run_cases with
    ⟨failure, concluded, failed⟩ | ⟨failure, concluded, ended, -⟩ |
    ⟨outcome, concluded, ended, judged⟩
  · rw [failed]
    refine ⟨failure.status_positive, fun returns => Failure.status_of_codeless ?_⟩
    exact codeless_conclude returns _ _ _ failure concluded
  · exact absurd (calling.unhindered_of_failed concluded ended) hindered
  · have fails : outcome.exitCode = 0 ∧ ¬ (calling.rest.workspace.probe
        (request.outputPath calling.rest.workspace.herePath)).isOk = true := by
      rw [← Classical.not_imp]
      exact fun legible => hindered (calling.unhindered_of_ended concluded ended
        fun succeeded => isOk_probe_iff.mp (legible succeeded))
    rw [judged, statusOf_judge, if_pos fails.1, if_neg fails.2]
    exact ⟨by decide, fun _ => rfl⟩

/-- The status of a run is 0 if and only if its command succeeded and nothing is in the way. -/
theorem statusOf_run_eq_zero_iff
    (outside : ∀ failure, calling.ended = .error failure → ∃ fault, failure = .outside fault) :
    statusOf ((tool.run request).ending begun) = 0 ↔
      calling.Unhindered ∧ ∃ output, calling.ended = .ok ⟨0, output⟩ := by
  by_cases unhindered : calling.Unhindered
  · rw [calling.statusOf_run_of_unhindered unhindered outside]
    cases calling.ended with
    | error failure => simp [callStatus]
    | ok outcome =>
        obtain ⟨exitCode, output⟩ := outcome
        simp only [callStatus, unhindered, true_and, Except.ok.injEq, CommandOutcome.mk.injEq]
        split
        · simp; omega
        · simp
  · have positive := (calling.statusOf_run_of_hindered unhindered).1
    constructor
    · intro zero
      omega
    · rintro ⟨unhindered', -⟩
      exact absurd unhindered' unhindered

end Calling

/-! ### Runs that do not come to a call -/

/-- Where the hooks return, a run comes to its call if its request is staged. -/
theorem nonempty_calling_iff (returns : tool.hooks.Return) :
    Nonempty (tool.Calling request begun) ↔
      ∃ sideFile staged, tool.stage request begun = .ok sideFile staged := by
  constructor
  · rintro ⟨calling⟩
    exact ⟨calling.sideFile, calling.staged, calling.staging⟩
  · rintro ⟨sideFile, staged, staging⟩
    obtain ⟨command, prepared, preparing⟩ := prepare_of_return returns sideFile staged
    exact ⟨⟨sideFile, staged, command, prepared, staging, preparing⟩⟩

theorem calls_of_uncalled (within : tool.Within .sameCalls)
    (uncalled : ¬ Nonempty (tool.Calling request begun)) :
    ((tool.run request).after begun).calls = begun.calls := by
  rcases calls_after_run within request begun with nothing | ⟨call, found, reaches, -⟩
  · exact nothing
  · obtain @⟨sideFile, staged, hooked, adjusted, staging, hooking⟩ := reaches
    have preparing : tool.prepare request sideFile staged = .ok _ hooked :=
      Action.bind_of_ok hooking
    exact absurd ⟨sideFile, staged, _, hooked, staging, preparing⟩ uncalled

/-- A run that comes to no call fails. -/
theorem statusOf_run_of_uncalled (uncalled : ¬ Nonempty (tool.Calling request begun)) :
    0 < statusOf ((tool.run request).ending begun) ∧
      (tool.hooks.Return → statusOf ((tool.run request).ending begun) = 1) := by
  cases staging : tool.stage request begun with
  | error failure left =>
      have whole := run_of_begun (stageAndAttempt_of_error staging)
      rw [Action.ending_congr whole, Action.ending_congr (finish_eq tool request none _ left)]
      have unstaged : failure.exitCode? = none :=
        (failsOnly_stage tool request).codeless begun failure (Action.ending_of_error staging)
      cases concluded : (tool.conclude none
          (reportedExitCode (.error failure))).ending left with
      | ok _ =>
          have one := Failure.status_of_codeless unstaged
          exact ⟨failure.status_positive, fun _ => one⟩
      | error refusal =>
          refine ⟨refusal.status_positive, fun returns => Failure.status_of_codeless ?_⟩
          exact codeless_conclude returns _ _ _ refusal concluded
  | ok sideFile staged =>
      cases preparing : tool.prepare request sideFile staged with
      | ok command prepared =>
          exact absurd ⟨sideFile, staged, command, prepared, staging, preparing⟩ uncalled
      | error failure left =>
          have failed := attempt_of_unprepared preparing
          have attempted := stageAndAttempt_of_ok staging
          rw [Action.ending_of_error failed, Action.after_of_error failed] at attempted
          have whole := run_of_begun attempted
          rw [Action.ending_congr whole,
            Action.ending_congr (finish_eq tool request sideFile _ left)]
          -- The failure is that of the hook before the run, which may carry an exit code.
          refine ⟨?_, fun returns => ?_⟩
          · cases (tool.conclude sideFile (reportedExitCode (.error failure))).ending left with
            | ok _ => exact failure.status_positive
            | error refusal => exact refusal.status_positive
          · obtain ⟨command, prepared, returned⟩ := prepare_of_return returns sideFile staged
            rw [preparing] at returned
            cases returned

end Tool

end GeoBridge
