import GeoBridge.Proofs.ConversionPhases
import GeoBridge.Proofs.SystemTexts

/-!
Owns what a run of a tool can fail with.

Owns:
- the kinds of failures that the library itself comes to in a run;
- actions whose failures are all of one kind;
- how coordinate systems are refused, and the failures of staging them;
- the failures of a run: those of the library, and those which the hooks and the runner raise.
-/

namespace GeoBridge

/-! ### Kinds of failures -/

namespace Failure

/-- Whether a failure is one of staging: a coordinate system has no text that can be used, or its
side file cannot be written or removed. -/
def concernsStaging : Failure → Bool
  | .conversion (.sideFile _ _ _ _) | .crs _ | .geodesy _ | .lacksOperation _ _ | .notText _
  | .unencodable | .outside _ => true
  | _ => false

/-- Whether a failure is one that the library comes to in a run: one of the conversion itself or of
staging. -/
def concernsRun : Failure → Bool
  | .conversion _ => true
  | failure => failure.concernsStaging

/-- Whether a failure says that a format is not supported. -/
def refusesFormat : Failure → Bool
  | .unsupportedFormat _ _ => true
  | _ => false

variable {failure : Failure}

theorem exitCode?_of_concernsStaging (staging : failure.concernsStaging = true) :
    failure.exitCode? = none := by
  cases failure with
  | conversion cause =>
      cases cause with
      | sideFile _ _ _ _ => rfl
      | _ => cases staging
  | _ => rfl

theorem concernsRun_of_concernsStaging (staging : failure.concernsStaging = true) :
    failure.concernsRun = true := by
  cases failure with
  | conversion cause => rfl
  | _ => exact staging

/-- In a run the library refuses no format. -/
theorem refusesFormat_of_concernsRun (running : failure.concernsRun = true) :
    failure.refusesFormat = false := by
  cases failure with
  | unsupportedFormat name available => cases running
  | _ => rfl

end Failure

theorem Obstacle.concernsStaging_failure (file : String) (obstacle : Obstacle) :
    (obstacle.failure file).concernsStaging = true := by
  cases obstacle <;> rfl

namespace Action

variable {α β : Type} {kind : Failure → Prop}

/-- An action whose failures are all of one kind, wherever it is carried out. -/
def FailsOnly (kind : Failure → Prop) (action : Action α) : Prop :=
  ∀ site failure, action.ending site = .error failure → kind failure

theorem FailsOnly.mono {action : Action α} {wider : Failure → Prop}
    (fails : action.FailsOnly kind) (within : ∀ failure, kind failure → wider failure) :
    action.FailsOnly wider :=
  fun site failure ended => within failure (fails site failure ended)

theorem failsOnly_pure (value : α) : FailsOnly kind (pure value) := by
  intro site failure ended
  cases ended

theorem failsOnly_get : FailsOnly kind (get : Action Site) := by
  intro site failure ended
  cases ended

theorem failsOnly_enter (event : Event) : (enter event).FailsOnly kind := by
  intro site failure ended
  cases ended

theorem failsOnly_here : here.FailsOnly kind := by
  intro site failure ended
  cases ended

theorem failsOnly_throw {failure : Failure} (holds : kind failure) :
    FailsOnly kind (throw failure : Action α) := by
  intro site other ended
  cases ended
  exact holds

theorem failsOnly_ofExcept {result : Except Failure α}
    (holds : ∀ failure, result = .error failure → kind failure) :
    (ofExcept result).FailsOnly kind := by
  intro site failure ended
  rw [ending_ofExcept] at ended
  exact holds failure ended

theorem FailsOnly.bind {action : Action α} {next : α → Action β} (first : action.FailsOnly kind)
    (further : ∀ value, (next value).FailsOnly kind) : FailsOnly kind (action >>= next) := by
  intro site failure ended
  rw [ending_bind] at ended
  cases begun : action.ending site with
  | error refusal =>
      rw [begun] at ended
      cases ended
      exact first site failure begun
  | ok value =>
      rw [begun] at ended
      exact further value _ failure ended

theorem FailsOnly.finally_ {action : Action α} {last : Action Unit}
    (fails : action.FailsOnly kind) (lastFails : last.FailsOnly kind) :
    (action.finally_ last).FailsOnly kind := by
  intro site failure ended
  have begun := outcome_eq action site
  unfold Action.finally_ at ended
  rw [ending_bind, ending_of_ok begun, after_of_ok begun] at ended
  refine lastFails.bind (fun _ => failsOnly_ofExcept fun refusal refused => ?_) _ failure ended
  exact fails site refusal refused

theorem failsOnly_inspecting (path : Path) (answer : Workspace → Except Obstacle α) :
    (inspecting path answer).FailsOnly (·.concernsStaging = true) := by
  intro site failure ended
  rw [ending_inspecting] at ended
  cases answered : answer site.workspace with
  | ok value =>
      rw [answered] at ended
      cases ended
  | error obstacle =>
      rw [answered] at ended
      cases ended
      exact obstacle.concernsStaging_failure path.text

theorem failsOnly_writeFile (path : Path) (octets : List UInt8) :
    (writeFile path octets).FailsOnly (·.concernsStaging = true) :=
  (failsOnly_inspecting path _).bind fun _ _ _ ended => nomatch ended

theorem failsOnly_removeFile (path : Path) :
    (removeFile path).FailsOnly (·.concernsStaging = true) := by
  refine failsOnly_get.bind fun site => ?_
  split
  · intro site failure ended
    cases ended
  · exact failsOnly_pure ()
  · exact failsOnly_throw (Obstacle.concernsStaging_failure path.text _)

end Action

/-! ### Staging -/

namespace Crs

/-- Whether a coordinate system is one that a user named, by a number, a truth value or a text. -/
def isNamed : Crs → Bool
  | .integer _ | .truth _ | .text _ => true
  | _ => false

/-- How a coordinate system is refused, given a library. What a user named is always refused as a
coordinate system, and so is what describes itself by nothing. A known system whose text the library
fails to tell is refused in the words of the library, and what cannot describe itself by a text, by
its kind. -/
inductive RefusedWith (library : CrsLibrary) : Crs → Failure → Prop
  | named {crs : Crs} (cause : CrsFault) : crs.isNamed = true →
      RefusedWith library crs (.crs cause)
  | silent {crs : Crs} {shown : String} {answer : CrsAnswer} :
      crs.description library = .ok (shown, answer) →
      serialize shown answer = .error (.crs (.noText shown)) →
      RefusedWith library crs (.crs (.noText shown))
  | untold {system : Nat} {reason : String} : library.textOf system = .error reason →
      RefusedWith library (.known system) (.geodesy reason)
  | notText (shown : String) (payload : Payload) : payload.isNothing = false →
      RefusedWith library (.custom shown (.value payload)) (.notText payload.kindName)
  | other (payload : Payload) :
      RefusedWith library (.other payload) (.lacksOperation payload.kindName "to_wkt")

theorem refusedWith_of_undescribed {library : CrsLibrary} {crs : Crs} {failure : Failure}
    (undescribed : crs.description library = .error failure) :
    crs.RefusedWith library failure := by
  cases crs with
  | integer _ | truth _ | text _ =>
      obtain ⟨cause, rfl⟩ := ofInput_error undescribed
      exact .named cause rfl
  | known system =>
      cases told : library.textOf system with
      | error reason =>
          rw [description_of_untold told] at undescribed
          cases undescribed
          exact .untold told
      | ok found =>
          rw [description, told] at undescribed
          cases undescribed
  | custom shown answer => cases undescribed
  | other payload =>
      cases undescribed
      exact .other payload

theorem refusedWith_of_wellKnownTextIn {library : CrsLibrary} {crs : Crs} {failure : Failure}
    (refused : crs.wellKnownTextIn library = .error failure) : crs.RefusedWith library failure := by
  rcases wellKnownTextIn_error refused with undescribed | ⟨shown, answer, described, unserialized⟩
  · exact refusedWith_of_undescribed undescribed
  · rcases serialize_error unserialized with rfl | ⟨payload, rfl, something, rfl⟩
    · exact .silent described unserialized
    -- Only a custom system answers by a value that is something.
    · cases crs with
      | custom name answer =>
          cases described
          exact .notText shown payload something
      | integer _ | truth _ | text _ | known _ =>
          rcases description_ok (by trivial) described with ⟨content, value⟩ | value
          · cases value
          · cases value
            cases something
      | other payload => cases described

theorem concernsStaging_of_refused {library : CrsLibrary} {crs : Crs} {failure : Failure}
    (refused : crs.RefusedWith library failure) : failure.concernsStaging = true := by
  cases refused <;> rfl

theorem failsOnly_createSideFile (device : Device) (naming : Naming) (directory : Path) :
    (createSideFile device naming directory).FailsOnly (·.concernsStaging = true) := by
  refine Action.failsOnly_get.bind fun site => ?_
  split
  · exact Action.failsOnly_throw rfl
  · exact (Action.failsOnly_writeFile _ _).bind fun _ => Action.failsOnly_pure _

theorem concernsStaging_of_sideFileContent {text : Text.WideText} {failure : Failure}
    (refused : sideFileContent text = .error failure) : failure.concernsStaging = true := by
  unfold sideFileContent at refused
  split at refused <;> cases refused
  rfl

/-- What interrupts a device comes from outside, or it is a text without a UTF-8 form. -/
theorem concernsStaging_of_write {device : Device} {workspace : Workspace} {text : Text.WideText}
    {failure : Failure} (interrupted : (device.write workspace text).2 = some failure) :
    failure.concernsStaging = true := by
  unfold Device.write at interrupted
  split at interrupted
  · cases interrupted
    rfl
  · rcases Option.or_eq_some_iff.mp interrupted with closing | ⟨-, transferring⟩
    · obtain ⟨fault, -, rfl⟩ := Option.map_eq_some_iff.mp closing
      rfl
    · unfold Device.transfer at transferring
      split at transferring
      · next refused =>
          cases transferring
          exact concernsStaging_of_sideFileContent refused
      · split at transferring <;> cases transferring
        rfl

theorem failsOnly_writeSideFile (device : Device) (path : Path) (text : Text.WideText) :
    (writeSideFile device path text).FailsOnly (·.concernsStaging = true) := by
  refine Action.failsOnly_get.bind fun site => ?_
  refine (Action.failsOnly_writeFile _ _).bind fun _ => ?_
  split
  · next failure interrupted => exact Action.failsOnly_throw (concernsStaging_of_write interrupted)
  · exact Action.failsOnly_pure ()

theorem failsOnly_fillSideFile (device : Device) (path : Path) (text : Text.WideText) :
    (fillSideFile device path text).FailsOnly (·.concernsStaging = true) := by
  intro site failure ended
  have written := Action.outcome_eq (writeSideFile device path text) site
  rw [fillSideFile, Action.ending_bind, Action.ending_of_ok written] at ended
  simp only at ended
  split at ended
  · cases ended
  · next fault _ =>
      exact ((Action.failsOnly_removeFile path).bind fun _ => Action.failsOnly_throw rfl) _ _ ended
  · next other _ interrupted =>
      cases ended
      exact failsOnly_writeSideFile device path text site _ interrupted

theorem failsOnly_stage (library : CrsLibrary) (directory : Path) (crs : Crs) (naming : Naming) :
    (stage library directory crs naming).FailsOnly (·.concernsStaging = true) := by
  refine (Action.failsOnly_ofExcept fun failure undescribed => ?_).bind fun text => ?_
  · exact concernsStaging_of_refused (refusedWith_of_wellKnownTextIn undescribed)
  · refine (failsOnly_createSideFile .plain naming directory).bind fun path => ?_
    refine (failsOnly_fillSideFile .plain path text).bind fun _ => ?_
    exact (Action.failsOnly_enter _).bind fun _ => Action.failsOnly_pure path

end Crs

namespace Tool

variable {tool : Tool} {request : Request}

theorem concernsStaging_stagingFailure {directory : Path} {failure : Failure}
    (staging : failure.concernsStaging = true) :
    (tool.stagingFailure request directory failure).concernsStaging = true := by
  unfold stagingFailure
  split
  · rfl
  · exact staging

theorem failsOnly_stage (tool : Tool) (request : Request) :
    (tool.stage request).FailsOnly (·.concernsStaging = true) := by
  intro site failure ended
  rcases takes_or_not tool request with without | ⟨crs, flag, given, taken⟩
  · obtain ⟨left, nothing, -⟩ := @stage_of_untaken tool request without site
    rw [Action.ending_of_ok nothing] at ended
    cases ended
  · have whole := stage_of_taken given taken site
    have fails := Crs.failsOnly_stage tool.systems (stagingDirectory request site) crs
      tool.naming site
    cases staged : crs.stage tool.systems (stagingDirectory request site) tool.naming site with
    | ok path left =>
        rw [staged] at whole
        rw [Action.ending_of_ok whole] at ended
        cases ended
    | error refusal left =>
        rw [staged] at whole
        rw [Action.ending_of_error whole] at ended
        cases ended
        exact concernsStaging_stagingFailure (fails refusal (Action.ending_of_error staged))

theorem failsOnly_discard (sideFile : Option Path) :
    (discard sideFile).FailsOnly (·.concernsStaging = true) := by
  cases sideFile with
  | none => exact Action.failsOnly_pure ()
  | some path => exact Action.failsOnly_removeFile path

/-! ### Runs -/

/-- The failures that the hooks of a tool and its runner raise. -/
inductive Raises (tool : Tool) : Failure → Prop
  | before {context : CommandContext} {site : Site} {failure : Failure} :
      (tool.hooks.before context).ending site = .error failure → Raises tool failure
  | runs {call : CommandCall} {site : Site} {failure : Failure} :
      (tool.runner call).ending site = .error failure → Raises tool failure
  | afterwards {exitCode : Int} {site : Site} {failure : Failure} :
      (tool.hooks.after exitCode).ending site = .error failure → Raises tool failure

/-- What a run can fail with: what the library comes to itself, and what the hooks and the runner
raise. -/
def CanFailWith (tool : Tool) (failure : Failure) : Prop :=
  failure.concernsRun = true ∨ tool.Raises failure

theorem failsOnly_of_concernsStaging {α : Type} {action : Action α}
    (fails : action.FailsOnly (·.concernsStaging = true)) : action.FailsOnly tool.CanFailWith :=
  fails.mono fun _ staging => .inl (Failure.concernsRun_of_concernsStaging staging)

/-- The failure of a command becomes that of the conversion, or it stays what it is. -/
theorem canFailWith_conversionFailure (command : List String) {failure : Failure}
    (raised : tool.Raises failure) : tool.CanFailWith (tool.conversionFailure command failure) := by
  unfold conversionFailure
  split
  · exact .inl rfl
  · exact .inl rfl
  · exact .inr raised

theorem failsOnly_execute (command : List String) :
    (tool.execute command).FailsOnly tool.CanFailWith := by
  intro site failure ended
  rw [ending_execute] at ended
  cases ran : (tool.runner (tool.callFor command)).ending
      (site.entered (.called (tool.callFor command) site.workspace)) with
  | ok outcome =>
      rw [ran] at ended
      cases ended
  | error raised =>
      rw [ran] at ended
      cases ended
      exact canFailWith_conversionFailure command (.runs ran)

theorem failsOnly_attempt (sideFile : Option Path) :
    (tool.attempt request sideFile).FailsOnly tool.CanFailWith := by
  rw [attempt_eq_prepare]
  have prepares : (tool.prepare request sideFile).FailsOnly tool.CanFailWith := by
    refine (Action.failsOnly_enter _).bind fun _ => ?_
    refine Action.FailsOnly.bind (fun site failure raised => .inr (.before raised)) fun adjusted => ?_
    exact Action.failsOnly_here.bind fun _ => Action.failsOnly_pure _
  exact prepares.bind fun command =>
    (failsOnly_execute command).bind fun _ => Action.failsOnly_pure _

theorem failsOnly_conclude (sideFile : Option Path) (exitCode : Int) :
    (tool.conclude sideFile exitCode).FailsOnly tool.CanFailWith := by
  have notifies : (tool.notifyAfter exitCode).FailsOnly tool.CanFailWith :=
    (Action.failsOnly_enter _).bind fun _ _ _ raised => .inr (.afterwards raised)
  exact notifies.finally_ (failsOnly_of_concernsStaging (failsOnly_discard sideFile))

theorem failsOnly_judge (command : List String) (outcome : CommandOutcome) :
    (tool.judge request command outcome).FailsOnly tool.CanFailWith := by
  unfold judge
  split
  · exact fun _ _ ended => by cases ended; exact .inl rfl
  · refine Action.failsOnly_here.bind fun here => ?_
    have looks : (produced request (request.outputPath here)).FailsOnly tool.CanFailWith := by
      refine failsOnly_of_concernsStaging ?_
      refine ((Action.failsOnly_inspecting _ _).bind fun _ => Action.failsOnly_pure _).bind
        fun isDirectory => ?_
      cases isDirectory <;> exact Action.failsOnly_pure _
    exact looks.bind fun _ => Action.failsOnly_pure _

theorem failsOnly_finish (sideFile : Option Path)
    {ended : Except Failure (List String × CommandOutcome)}
    (fails : ∀ failure, ended = .error failure → tool.CanFailWith failure) :
    (tool.finish request sideFile ended).FailsOnly tool.CanFailWith :=
  (failsOnly_conclude sideFile _).bind fun _ =>
    (Action.failsOnly_ofExcept fails).bind fun outcome => failsOnly_judge outcome.1 outcome.2

/-- Whatever a run fails with is a failure of the library in a run, or one that a hook or the runner
raised. -/
theorem failsOnly_run (tool : Tool) (request : Request) :
    (tool.run request).FailsOnly tool.CanFailWith := by
  intro site failure ended
  cases staging : tool.stage request site with
  | error refusal left =>
      have staged := failsOnly_stage tool request site refusal (Action.ending_of_error staging)
      rw [Action.ending_congr (run_of_begun (stageAndAttempt_of_error staging))] at ended
      refine failsOnly_finish none (fun other same => ?_) left failure ended
      cases same
      exact .inl (Failure.concernsRun_of_concernsStaging staged)
  | ok sideFile left =>
      rw [Action.ending_congr (run_of_begun (stageAndAttempt_of_ok staging))] at ended
      exact failsOnly_finish sideFile (failsOnly_attempt sideFile left) _ failure ended

end Tool

end GeoBridge
