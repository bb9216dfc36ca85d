import GeoBridge.Proofs.ConversionEndings
import GeoBridge.Proofs.ConversionFiles
import Mathlib.Control.Monad.Basic

/-!
Owns what a run of a tool ends with, over every end of its staging and of its call.

Owns:
- the steps of a run that the journal tells of, and tools that take no such steps of their own;
- what a failed conversion tells of its command;
- the steps of a run and its end: without a call, by the end of its call, and with something in the
  way after the call.
-/

namespace GeoBridge

/-! ### Steps -/

/-- Whether an entry tells of a step of a run: the hook before it, the call, or the hook after
it. -/
def Event.isStep : Event → Bool
  | .beforeRun _ _ _ | .called _ _ | .afterRun _ => true
  | _ => false

/-- The steps that the journal tells of, in order. -/
def Site.steps (site : Site) : List Event :=
  site.journal.filter Event.isStep

theorem Site.steps_entered {event : Event} (isStep : event.isStep = true) (site : Site) :
    (site.entered event).steps = site.steps ++ [event] := by
  simp [steps, entered, isStep]

/-- The steps that the journal tells of stay the same. -/
def Frame.sameSteps : Frame := .same (·.steps)

theorem Frame.sameSteps_ignoresFiles : Frame.sameSteps.IgnoresFiles where
  records site record := by simp [sameSteps, same, Site.steps, Site.entered, Event.isStep]
  files _ _ := rfl

/-! ### Failures -/

/-- What the failure of a conversion tells: the exit code if the command ran to its end, the
command, and what the command wrote, which is also the end of the message. -/
structure ConversionFault.Tells (fault : ConversionFault) (exitCode : Option Int)
    (command : List String) (output : String) : Prop where
  ended : fault.exitCode? = exitCode
  ran : fault.command = command
  wrote : fault.output = output
  message : output.toList <:+ fault.message.toList

theorem ConversionFault.tells (fault : ConversionFault) :
    fault.Tells fault.exitCode? fault.command fault.output where
  ended := rfl
  ran := rfl
  wrote := rfl
  message := by
    have shown (front : String) (command : List String) (output : String) :
        output.toList <:+ (front ++ commandAndOutput command output).toList := by
      obtain ⟨before, whole⟩ : ∃ before, commandAndOutput command output = before ++ output :=
        ⟨_, rfl⟩
      rw [whole, String.toList_append, String.toList_append]
      exact (List.suffix_append _ _).trans (List.suffix_append _ _)
    have silent (message : String) : "".toList <:+ message.toList := by
      rw [String.toList_empty]
      exact List.nil_suffix
    cases fault with
    | unsuccessful executable exitCode command output => exact shown _ command output
    | timedOut executable limit command output => exact shown _ command output
    | _ => exact silent _

/-- Whether a failure is one of running a command: it took too long, or it could not be run. -/
def Failure.concernsCommand : Failure → Bool
  | .outside (.timedOut _ _ _) | .outside (.system _) => true
  | _ => false

namespace Tool

variable {tool : Tool} {request : Request} {begun : Site}

/-! ### Runs without a call -/

/-- What a request that cannot be staged fails with: as its coordinate system is refused; or, when
the system does not let the side file be written, as a conversion that tells the command as far as
it goes without that file; or as anything else that is in the way of the side file. -/
inductive Unstaged (tool : Tool) (request : Request) (begun : Site) : Failure → Prop
  | refused {crs : Crs} {failure : Failure} : request.crs = some crs →
      crs.wellKnownTextIn tool.systems = .error failure → crs.RefusedWith tool.systems failure →
      Unstaged tool request begun failure
  | unwritten {crs : Crs} {cause : SystemFault} {fault : ConversionFault} :
      request.crs = some crs →
      (crs.stage tool.systems (stagingDirectory request begun) tool.naming).ending begun =
        .error (.outside (.system cause)) →
      fault.Tells none (tool.baseCommand request) "" →
      Unstaged tool request begun (.conversion fault)
  | other {crs : Crs} {text : Text.WideText} {failure : Failure} : request.crs = some crs →
      crs.wellKnownTextIn tool.systems = .ok text →
      (crs.stage tool.systems (stagingDirectory request begun) tool.naming).ending begun =
        .error failure →
      (∀ cause, failure ≠ .outside (.system cause)) → Unstaged tool request begun failure

theorem unstaged_of_stage {failure : Failure}
    (unstaged : (tool.stage request).ending begun = .error failure) :
    tool.Unstaged request begun failure := by
  rcases takes_or_not tool request with without | ⟨crs, flag, given, taken⟩
  · obtain ⟨left, nothing, -⟩ := @stage_of_untaken tool request without begun
    rw [Action.ending_of_ok nothing] at unstaged
    cases unstaged
  · have whole := stage_of_taken given taken begun
    cases staged : crs.stage tool.systems (stagingDirectory request begun) tool.naming begun with
    | ok path left =>
        rw [staged] at whole
        rw [Action.ending_of_ok whole] at unstaged
        cases unstaged
    | error refusal left =>
        rw [staged] at whole
        rw [Action.ending_of_error whole] at unstaged
        have ended := Action.ending_of_error staged
        by_cases system : ∃ cause, refusal = .outside (.system cause)
        · obtain ⟨cause, rfl⟩ := system
          cases unstaged
          exact .unwritten given ended (ConversionFault.tells _)
        · rw [stagingFailure_of_other fun cause is => system ⟨cause, is⟩] at unstaged
          cases unstaged
          cases described : crs.wellKnownTextIn tool.systems with
          | ok text => exact .other given described ended fun cause is => system ⟨cause, is⟩
          | error reason =>
              -- A refusal is all that becomes of the staging.
              have refused : crs.stage tool.systems (stagingDirectory request begun) tool.naming
                  begun = .error reason begun := by
                rw [Crs.stage, Crs.stageIn, described]
                rfl
              rw [staged] at refused
              cases refused
              exact .refused given described (Crs.refusedWith_of_wellKnownTextIn described)

/-! ### Runs with a call -/

/-- What a run ends with by how its call ended, if nothing is in the way after the call: a
conversion that carries the output, the public name and the whole command, or a failure that tells
the exit code, the command and what it wrote, up to the time limit if it passed one. Failures that
are not of running a command are passed on. -/
inductive Answers (tool : Tool) (request : Request) (argv : List String) (rest : Workspace) :
    Except Failure CommandOutcome → Except Failure Conversion → Prop
  | succeeded (output : String) :
      Answers tool request argv rest (.ok ⟨0, output⟩)
        (.ok { outputPath := producedIn request rest, formatName := request.format.publicName,
               command := argv, output })
  | unsuccessful {exitCode : Int} {output : String} {fault : ConversionFault} : exitCode ≠ 0 →
      fault.Tells (some exitCode) argv output →
      Answers tool request argv rest (.ok ⟨exitCode, output⟩) (.error (.conversion fault))
  | timedOut {ran limit : String} {captured : Captured} {fault : ConversionFault} :
      fault.Tells none argv captured.content →
      Answers tool request argv rest (.error (.outside (.timedOut ran limit captured)))
        (.error (.conversion fault))
  | notStarted {cause : SystemFault} {fault : ConversionFault} : fault.Tells none argv "" →
      Answers tool request argv rest (.error (.outside (.system cause)))
        (.error (.conversion fault))
  | other {failure : Failure} : failure.concernsCommand = false →
      Answers tool request argv rest (.error failure) (.error failure)

/-- A command that has ended is judged by its exit code. The path of the output must not be too long
then. -/
theorem answers_judge (argv : List String) (outcome : CommandOutcome) (site : Site)
    (legible : outcome.exitCode = 0 →
      site.workspace.probe (request.outputPath site.workspace.herePath) ≠ .error .nameTooLong) :
    tool.Answers request argv site.workspace (.ok outcome)
      ((tool.judge request argv outcome).ending site) := by
  obtain ⟨exitCode, output⟩ := outcome
  by_cases succeeded : exitCode = 0
  · subst succeeded
    cases probed : site.workspace.probe (request.outputPath site.workspace.herePath) with
    | ok found =>
        rw [Action.ending_of_ok (judge_of_probed rfl probed)]
        exact .succeeded output
    | error obstacle =>
        have readable := isOk_probe_iff.mpr (legible rfl)
        rw [probed] at readable
        cases readable
  · rw [Action.ending_of_error (judge_of_unsuccessful succeeded)]
    exact .unsuccessful succeeded (ConversionFault.tells _)

theorem answers_conversionFailure (argv : List String) (rest : Workspace) (failure : Failure) :
    tool.Answers request argv rest (.error failure)
      (.error (tool.conversionFailure argv failure)) := by
  cases failure with
  | outside fault =>
      cases fault with
      | timedOut ran limit captured => exact .timedOut (ConversionFault.tells _)
      | system cause => exact .notStarted (ConversionFault.tells _)
      | _ => exact .other rfl
  | _ => exact .other rfl

namespace Calling

variable (calling : tool.Calling request begun)

/-- What the hook after the run is told: the exit code, or -1 if the command did not run to its
end. -/
def code : Int :=
  match calling.ended with
  | .ok outcome => outcome.exitCode
  | .error _ => -1

/-- The site at which the hook after the run has been told. -/
def told : Site := (tool.notifyAfter calling.code).after calling.left

theorem reportedExitCode_eq :
    reportedExitCode (tool.endOf calling.command calling.ended) = calling.code := by
  unfold code endOf
  cases calling.ended <;> rfl

theorem concluding_eq : calling.concluding = tool.conclude calling.sideFile calling.code := by
  rw [concluding, reportedExitCode_eq]

/-- The steps of a run that comes to its call. -/
def steps : List Event :=
  [.beforeRun (tool.contextOf request calling.sideFile).command request.typeName calling.sideFile,
    .called calling.call calling.found, .afterRun calling.code]

theorem steps_after_run (within : tool.Within .sameSteps) :
    ((tool.run request).after begun).steps = begun.steps ++ calling.steps := by
  have ignored := Frame.sameSteps_ignoresFiles
  obtain ⟨adjusted, hooked, -⟩ := prepare_eq_ok.mp calling.preparing
  have staged : calling.staged.steps = begun.steps :=
    (respects_stage ignored tool request).of_ok calling.staging
  have prepared : calling.prepared.steps =
      (tool.atHook request calling.sideFile calling.staged).steps :=
    (within.before _).of_ok hooked
  have ran : calling.left.steps = calling.entered.steps :=
    within.runs calling.call calling.entered
  have told : calling.told.steps = (calling.left.entered (.afterRun calling.code)).steps :=
    within.afterwards calling.code (calling.left.entered (.afterRun calling.code))
  have discarded : calling.rest.steps = calling.told.steps := by
    rw [rest, concluding_eq, after_conclude]
    exact respects_discard ignored calling.sideFile calling.told
  -- From the end back to the beginning: every phase adds the entry that it makes itself.
  rw [calling.after_run, discarded, told, Site.steps_entered rfl, ran, entered,
    Site.steps_entered rfl, prepared, atHook, Site.steps_entered rfl, staged]
  simp [steps]

/-- What a run that comes to its call ends with: what answers the end of the call; or, where the
side file cannot be removed or the path of the output is too long, that fault of the system, by
which the end of the call is lost. -/
inductive Ends : Except Failure Conversion → Prop
  | answered {result : Except Failure Conversion} : calling.Unhindered →
      tool.Answers request calling.call.argv calling.rest.workspace calling.ended result →
      Ends result
  | unremoved {path : Path} {obstacle : Obstacle} : calling.sideFile = some path →
      calling.told.workspace.unlink path = .error obstacle → obstacle ≠ .missing →
      Ends (.error (obstacle.failure path.text))
  | overlong {output : String} {path : Path} : calling.concluding.ending calling.left = .ok () →
      calling.ended = .ok ⟨0, output⟩ →
      path = request.outputPath calling.rest.workspace.herePath →
      calling.rest.workspace.probe path = .error .nameTooLong →
      Ends (.error (.system (.nameTooLong path.text)))

/-- Where the hooks return, only the removal of the side file can keep a run from concluding. -/
theorem concluding_cases (returns : tool.hooks.Return) :
    calling.concluding.ending calling.left = .ok () ∨
      ∃ path obstacle, calling.sideFile = some path ∧
        calling.told.workspace.unlink path = .error obstacle ∧ obstacle ≠ .missing ∧
        calling.concluding.ending calling.left = .error (obstacle.failure path.text) := by
  obtain ⟨left, hooked⟩ := returns.after calling.code
    (calling.left.entered (.afterRun calling.code))
  have telling : (tool.notifyAfter calling.code).ending calling.left = .ok () :=
    Action.ending_of_ok hooked
  rw [concluding_eq, conclude_eq, telling, ← told]
  cases staged : calling.sideFile with
  | none => exact .inl rfl
  | some path =>
      rw [discard]
      cases removed : calling.told.workspace.unlink path with
      | ok changed =>
          rw [Action.ending_of_ok (Action.removeFile_of_ok removed)]
          exact .inl rfl
      | error obstacle =>
          rw [Action.ending_removeFile_of_error removed]
          by_cases missing : obstacle = .missing
          · rw [if_pos missing]
            exact .inl rfl
          · rw [if_neg missing]
            exact .inr ⟨path, obstacle, rfl, removed, missing, rfl⟩

theorem ends_run (returns : tool.hooks.Return) :
    calling.Ends ((tool.run request).ending begun) := by
  rcases calling.ending_run_cases with
    ⟨failure, concluded, failed⟩ | ⟨failure, concluded, ended, failed⟩ |
    ⟨outcome, concluded, ended, judged⟩
  · rcases calling.concluding_cases returns with returned | ⟨path, obstacle, staged, hindrance⟩
    · rw [concluded] at returned
      cases returned
    · obtain ⟨blocked, present, instead⟩ := hindrance
      rw [concluded] at instead
      cases instead
      rw [failed]
      exact .unremoved staged blocked present
  · refine .answered (calling.unhindered_of_failed concluded ended) ?_
    rw [failed, ended]
    exact answers_conversionFailure _ _ failure
  · rw [judged]
    -- Only after a success is the path of the output looked at.
    by_cases overlong : outcome.exitCode = 0 ∧ calling.rest.workspace.probe
        (request.outputPath calling.rest.workspace.herePath) = .error .nameTooLong
    · obtain ⟨succeeded, blocked⟩ := overlong
      obtain ⟨exitCode, output⟩ := outcome
      obtain rfl : exitCode = 0 := succeeded
      rw [Action.ending_of_error (judge_of_blocked rfl blocked)]
      exact .overlong concluded ended rfl blocked
    · have legible (succeeded : outcome.exitCode = 0) :
          calling.rest.workspace.probe (request.outputPath calling.rest.workspace.herePath) ≠
            .error .nameTooLong := fun blocked => overlong ⟨succeeded, blocked⟩
      refine .answered (calling.unhindered_of_ended concluded ended legible) ?_
      rw [ended]
      exact answers_judge calling.command outcome calling.rest legible

end Calling

/-! ### Runs -/

/-- The steps that a run takes, and what it ends with. A run whose request cannot be staged only
tells the hook after it that nothing was run. Every other run calls each hook and the runner
once. -/
inductive Runs (tool : Tool) (request : Request) (begun : Site) :
    List Event → Except Failure Conversion → Prop
  | unstaged {failure : Failure} : (tool.stage request).ending begun = .error failure →
      tool.Unstaged request begun failure →
      Runs tool request begun [.afterRun (-1)] (.error failure)
  | called (calling : tool.Calling request begun) {result : Except Failure Conversion} :
      calling.Ends result → Runs tool request begun calling.steps result

theorem runs_of_unstaged (returns : tool.hooks.Return) (within : tool.Within .sameSteps)
    {failure : Failure} {left : Site} (staging : tool.stage request begun = .error failure left) :
    ((tool.run request).after begun).steps = begun.steps ++ [.afterRun (-1)] ∧
      tool.Runs request begun [.afterRun (-1)] ((tool.run request).ending begun) := by
  have unstaged := Action.ending_of_error staging
  have attempted := stageAndAttempt_of_error staging
  obtain ⟨told, hooked⟩ := returns.after (-1) (left.entered (.afterRun (-1)))
  constructor
  · have still : left.steps = begun.steps :=
      (respects_stage Frame.sameSteps_ignoresFiles tool request).of_error staging
    have telling : ((tool.notifyAfter (-1)).after left).steps =
        (left.entered (.afterRun (-1))).steps :=
      within.afterwards (-1) (left.entered (.afterRun (-1)))
    rw [after_run attempted]
    change ((tool.notifyAfter (-1)).after left).steps = _
    rw [telling, Site.steps_entered rfl, still]
  · have concluded : (tool.conclude none (-1)).ending left = .ok () := by
      have telling : (tool.notifyAfter (-1)).ending left = .ok () := Action.ending_of_ok hooked
      rw [conclude_eq, telling]
      rfl
    have whole := (run_of_begun attempted).trans (finish_eq tool request none _ left)
    have ended : (tool.run request).ending begun = .error failure := by
      rw [Action.ending_congr whole, reportedExitCode, concluded]
      rfl
    rw [ended]
    exact .unstaged unstaged (unstaged_of_stage unstaged)

/-- Where the hooks return, a run takes the steps and comes to the end that its staging and its call
lead to. -/
theorem run_comes_to_outcome (tool : Tool) (request : Request) (begun : Site)
    (returns : tool.hooks.Return) (within : tool.Within .sameSteps) :
    ∃ steps, ((tool.run request).after begun).steps = begun.steps ++ steps ∧
      tool.Runs request begun steps ((tool.run request).ending begun) := by
  cases staging : tool.stage request begun with
  | error failure left => exact ⟨_, runs_of_unstaged returns within staging⟩
  | ok sideFile staged =>
      obtain ⟨command, prepared, preparing⟩ := prepare_of_return returns sideFile staged
      let calling : tool.Calling request begun :=
        ⟨sideFile, staged, command, prepared, staging, preparing⟩
      have ends := calling.ends_run returns
      exact ⟨calling.steps, calling.steps_after_run within, .called calling ends⟩

end Tool

/-! ### A run whose command is killed -/

/-- A tool whose command is ended by a signal. -/
def killedTool : Tool :=
  { hookedTool (·.command) with runner := fun _ => pure ⟨-9, "half a page"⟩ }

/-- The run takes all three steps, and tells the signal, the command and what it wrote. -/
theorem killed_run_comes_to_outcome :
    killedTool.hooks.Return ∧ killedTool.Within .sameSteps ∧
    ∃ steps, steps.length = 3 ∧
      killedTool.Runs heightRequest inputSite steps
        (.error (.conversion (.unsuccessful "gdal_translate" (-9)
          ["gdal_translate", "-of", "PDF", "-a_srs", "/srs00000000.wkt", "/in.tif", "/out/t.pdf"]
          "half a page"))) := by
  have returns : killedTool.hooks.Return :=
    ⟨fun context site => ⟨context.command, site, rfl⟩, fun _ site => ⟨site, rfl⟩⟩
  have within : killedTool.Within .sameSteps :=
    ⟨fun _ => Action.respects_pure _, fun _ => Action.respects_pure _,
      fun _ => Action.respects_pure _⟩
  obtain ⟨steps, taken, runs⟩ :=
    Tool.run_comes_to_outcome killedTool heightRequest inputSite returns within
  have three : ((killedTool.run heightRequest).after inputSite).steps.length = 3 := by
    decide +kernel
  have failed : (killedTool.run heightRequest).ending inputSite =
      .error (.conversion (.unsuccessful "gdal_translate" (-9)
        ["gdal_translate", "-of", "PDF", "-a_srs", "/srs00000000.wkt", "/in.tif", "/out/t.pdf"]
        "half a page")) := by
    decide +kernel
  rw [taken] at three
  rw [failed] at runs
  exact ⟨returns, within, steps, three, runs⟩

end GeoBridge
