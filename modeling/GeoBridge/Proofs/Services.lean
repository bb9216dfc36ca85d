import GeoBridge.Family
import GeoBridge.Proofs.Backing
import GeoBridge.Proofs.Conversions

/-!
Owns the conversions of a service, and the hooks that families bring to them.

Owns:
- hooks within a frame, and hooks that leave the executable at the front of the command;
- how a conversion ends and the site that it leaves behind, however it is asked for;
- the call of a conversion, by the tool that is bound to the current snapshot.
-/

namespace GeoBridge

/-! ### Frames -/

theorem Frame.later_ignoresWork : Frame.later.IgnoresWork where
  records := Frame.later_ignoresRecords
  before site _ _ _ := Frame.later_entered site _
  afterwards site _ := Frame.later_entered site _
  files site _ := Frame.later.rest site

/-- What stays beside a session publishes nothing, and enters no calls of its own. -/
def Frame.bystander : Frame := later.both sameCalls

/-! ### Hooks of families -/

theorem Hooks.KeepCommand.keepExecutable {hooks : Hooks} (keeps : hooks.KeepCommand) :
    hooks.KeepExecutable := by
  intro context site adjusted left hooked executable first
  obtain ⟨added, rfl⟩ := keeps context site adjusted left hooked
  rw [List.head?_append, first]
  rfl

/-- The hooks of a policy only add to the command. -/
theorem HookPolicy.keepCommand (policy : HookPolicy) : policy.hooks.KeepCommand := by
  intro context site adjusted left hooked
  cases policy with
  | nothing =>
      cases hooked
      exact List.prefix_refl _
  | layerName =>
      cases hooked
      by_cases named : context.request.format.options.contains "-nln"
      · have unchanged : namedLayer context = context.command := if_pos named
        exact unchanged.symm ▸ List.prefix_refl context.command
      · have appended :
            namedLayer context = context.command ++ ["-nln", context.request.typeName] :=
          if_neg named
        exact appended.symm ▸ List.prefix_append _ _

/-- Hooks of which each half keeps to a frame. -/
structure Hooks.Within (hooks : Hooks) (frame : Frame) : Prop where
  before : ∀ context, (hooks.before context).Respects frame
  after : ∀ exitCode, (hooks.after exitCode).Respects frame

theorem HookPolicy.within (policy : HookPolicy) (frame : Frame) : policy.hooks.Within frame where
  before context := by cases policy <;> exact Action.respects_pure _
  after exitCode := by cases policy <;> exact Action.respects_pure _

/-! ### Conversions of a service -/

namespace Service

variable {service : Service} {request : ServiceRequest} {course : Course} {site : Site}

theorem after_run (request : ServiceRequest) (site : Site) :
    (service.run request course).after site = (service.execute request course).after site := by
  unfold run
  rw [Action.after_bind]
  cases (service.execute request course).ending site <;> rfl

theorem after_convert (request : ServiceRequest) (site : Site) :
    (service.convert request course).after site = (service.execute request course).after site := by
  unfold convert
  rw [Action.after_bind, after_run]
  cases (service.run request course).ending site <;> rfl

theorem after_convertOutput (request : ServiceRequest) (site : Site) :
    (service.convertOutput request course).after site =
      (service.execute request course).after site := by
  unfold convertOutput
  rw [Action.after_bind]
  cases (service.execute request course).ending site <;> rfl

theorem ending_run (request : ServiceRequest) (site : Site) :
    (service.run request course).ending site =
      ((service.execute request course).ending site).map (·.2) := by
  unfold run
  rw [Action.ending_bind]
  cases (service.execute request course).ending site <;> rfl

theorem ending_convert (request : ServiceRequest) (site : Site) :
    (service.convert request course).ending site =
      ((service.execute request course).ending site).map (·.2.outputPath) := by
  unfold convert
  rw [Action.ending_bind, ending_run]
  cases (service.execute request course).ending site <;> rfl

theorem ending_convertOutput (request : ServiceRequest) (site : Site) :
    (service.convertOutput request course).ending site =
      ((service.execute request course).ending site).map fun made =>
        .produced made.1 made.2.outputPath := by
  unfold convertOutput
  rw [Action.ending_bind]
  cases (service.execute request course).ending site <;> rfl

/-- The record with which a conversion begins. -/
def beginning (request : ServiceRequest) : Record :=
  ⟨.debug, .service, "converting " ++ request.input.text ++ " to " ++ request.formatName, none⟩

/-- The request to the tool that a request to the service amounts to in a format. -/
def toolRequest (request : ServiceRequest) (format : Format) : Request :=
  { input := request.input, directory := request.directory, typeName := request.typeName,
    format, crs := request.crs }

/-- The tool that is bound to a snapshot. -/
def toolOf (service : Service) (snapshot : Snapshot) : Tool :=
  service.tool snapshot.executable snapshot.environment

section Looking

variable {snapshot : Snapshot} {looked : Site} {format : Format}

theorem execute_of_find? (looks : course.look site = .ok snapshot looked)
    (found : snapshot.formats.find? request.formatName = some format) :
    service.execute request course site =
      ((format, ·) <$> course.carryOut (service.toolOf snapshot) (toolRequest request format))
        (looked.entered (.recorded (beginning request))) := by
  unfold execute
  rw [Action.bind_of_ok looks]
  simp only [found]
  rfl

/-- With a format of the name in the snapshot that is looked at, a conversion ends as the tool that
is bound to this snapshot ends, and tells the format besides. -/
theorem ending_execute_of_find? (looks : course.look site = .ok snapshot looked)
    (found : snapshot.formats.find? request.formatName = some format) :
    (service.execute request course).ending site =
      ((course.carryOut (service.toolOf snapshot) (toolRequest request format)).ending
        (looked.entered (.recorded (beginning request)))).map (format, ·) := by
  rw [Action.ending_congr (execute_of_find? looks found), Action.ending_map]

theorem after_execute_of_find? (looks : course.look site = .ok snapshot looked)
    (found : snapshot.formats.find? request.formatName = some format) :
    (service.execute request course).after site =
      (course.carryOut (service.toolOf snapshot) (toolRequest request format)).after
        (looked.entered (.recorded (beginning request))) := by
  rw [Action.after_congr (execute_of_find? looks found), Action.after_map]

/-- Without one nothing is done. -/
theorem execute_of_find?_none (looks : course.look site = .ok snapshot looked)
    (missing : snapshot.formats.find? request.formatName = none) :
    service.execute request course site =
      .error (.unsupportedFormat request.formatName snapshot.names) looked := by
  unfold execute
  rw [Action.bind_of_ok looks]
  simp only [missing]
  rfl

end Looking

theorem after_execute (request : ServiceRequest) (site : Site) :
    (service.execute request).after site =
      match site.registry.get? request.formatName with
      | none => site
      | some format => ((service.toolOf site.registry.snapshot).run
          (toolRequest request format)).after (site.entered (.recorded (beginning request))) := by
  cases found : site.registry.get? request.formatName with
  | none => rw [Action.after_of_error (execute_of_find?_none rfl found)]
  | some format => exact after_execute_of_find? rfl found

variable {frame : Frame}

theorem respects_execute (work : frame.IgnoresWork) (calls : frame.IgnoresCalls)
    (within : ∀ executable environment, (service.tool executable environment).Within frame)
    (request : ServiceRequest) : (service.execute request).Respects frame := by
  intro site
  rw [after_execute]
  cases site.registry.get? request.formatName with
  | none => exact frame.rest site
  | some format =>
      exact frame.chain (work.records site _)
        (Tool.respects_run work calls (within _ _) (toolRequest request format) _)

/-- A conversion makes at most one call, and it is for an active format of the name that is asked
for, by the tool that is bound to the current snapshot. -/
theorem calls_after_execute
    (within : ∀ executable environment, (service.tool executable environment).Within .sameCalls)
    (request : ServiceRequest) (site : Site) :
    ((service.execute request).after site).calls = site.calls ∨
      ∃ format call found begun, site.registry.get? request.formatName = some format ∧
        (service.tool site.registry.snapshot.executable
          site.registry.snapshot.environment).Reaches (toolRequest request format) begun call
            found ∧
        ((service.execute request).after site).calls = site.calls ++ [(call, found)] := by
  have before : (site.entered (.recorded (beginning request))).calls = site.calls :=
    Frame.sameCalls_ignoresWork.records site _
  rw [after_execute]
  cases site.registry.get? request.formatName with
  | none => exact .inl rfl
  | some format =>
      simp only
      rw [← before]
      rcases Tool.calls_after_run (within _ _) (toolRequest request format)
          (site.entered (.recorded (beginning request))) with
        none_ | ⟨call, found, reaches, one⟩
      · exact .inl none_
      · exact .inr ⟨format, call, found, _, rfl, reaches, one⟩

end Service

end GeoBridge
