import GeoBridge.Conversion
import GeoBridge.Proofs.Frame

/-!
Owns how a run of a tool goes: its phases, the site it leaves behind, and the call it makes.

Owns:
- the site that each phase leaves behind, as the hooks and the runner leave it;
- frames that the library's own part of a run is within, and runs within them;
- the call of a run: what the hook before it returned, with the paths, at most once.
-/

namespace GeoBridge

/-- The hook before a run only adds to the end of the command. -/
def Hooks.KeepCommand (hooks : Hooks) : Prop :=
  ∀ context site adjusted left, hooks.before context site = .ok adjusted left →
    context.command <+: adjusted

/-- The hook before a run leaves the executable at the front of the command. -/
def Hooks.KeepExecutable (hooks : Hooks) : Prop :=
  ∀ context site adjusted left, hooks.before context site = .ok adjusted left →
    ∀ executable, context.command.head? = some executable → adjusted.head? = some executable

namespace Tool

variable {tool : Tool} {request : Request} {sideFile : Option Path} {site left : Site}

/-! ### Phases -/

/-- What the hook before a run sees. -/
def contextOf (tool : Tool) (request : Request) (sideFile : Option Path) : CommandContext :=
  { command := tool.baseCommand request ++ tool.crsArguments sideFile, request, sideFile }

/-- The site at which the hook before a run is told what it sees. -/
def atHook (tool : Tool) (request : Request) (sideFile : Option Path) (site : Site) : Site :=
  site.entered (.beforeRun (tool.contextOf request sideFile).command request.typeName sideFile)

/-- The call of a command that the hook returned, with the paths added to it. -/
def callOf (tool : Tool) (request : Request) (adjusted : List String) (site : Site) :
    CommandCall :=
  ⟨adjusted ++ tool.pathArguments request site.workspace.herePath, some tool.environment,
    tool.limit⟩

/-- The directory in which the side file of a request is staged. -/
def stagingDirectory (request : Request) (site : Site) : Path :=
  (request.input.absolute site.workspace.herePath).parent

/-- The failure to stage a side file in a directory as that of the conversion. -/
def stagingFailure (tool : Tool) (request : Request) (directory : Path) : Failure → Failure
  | .outside (.system cause) =>
      .conversion (.sideFile tool.executable directory.text cause (tool.baseCommand request))
  | failure => failure

theorem stagingFailure_of_other {directory : Path} {failure : Failure}
    (other : ∀ cause, failure ≠ .outside (.system cause)) :
    tool.stagingFailure request directory failure = failure := by
  unfold stagingFailure
  split
  · exact absurd rfl (other _)
  · rfl

/-- A coordinate system is given and the tool takes one, or not. -/
theorem takes_or_not (tool : Tool) (request : Request) :
    (request.crs = none ∨ tool.profile.crsFlag = none) ∨
      ∃ crs flag, request.crs = some crs ∧ tool.profile.crsFlag = some flag := by
  cases request.crs with
  | none => exact .inl (.inl rfl)
  | some crs =>
      cases tool.profile.crsFlag with
      | none => exact .inl (.inr rfl)
      | some flag => exact .inr ⟨crs, flag, rfl, rfl⟩

/-- Without a coordinate system that is given and taken there is nothing to stage. -/
theorem stage_of_untaken (without : request.crs = none ∨ tool.profile.crsFlag = none)
    (site : Site) :
    ∃ left, tool.stage request site = .ok none left ∧ Frame.recording.allows site left := by
  unfold stage
  cases asked : request.crs with
  | none => exact ⟨site, rfl, Frame.recording.rest site⟩
  | some crs =>
      have untaken := without.resolve_left fun nothing => by rw [asked] at nothing; cases nothing
      simp only [untaken]
      exact ⟨_, rfl, Frame.recording_entered site _⟩

/-- A coordinate system that is given and taken is staged in the directory of the input. -/
theorem stage_of_taken {crs : Crs} {flag : String} (given : request.crs = some crs)
    (taken : tool.profile.crsFlag = some flag) (site : Site) :
    tool.stage request site =
      match crs.stage tool.systems (stagingDirectory request site) tool.naming site with
      | .ok path left => .ok (some path) left
      | .error failure left =>
          .error (tool.stagingFailure request (stagingDirectory request site) failure) left := by
  have here : Action.here site = .ok site.workspace.herePath site := rfl
  unfold stage
  simp only [given, taken]
  rw [Action.bind_of_ok here]
  cases staged : crs.stage tool.systems (stagingDirectory request site) tool.naming site with
  | ok path left => exact Action.bind_of_ok (Action.outcome_of_ok staged)
  | error failure left =>
      refine (Action.bind_of_ok (Action.outcome_of_error staged)).trans ?_
      cases failure with
      | outside fault => cases fault <;> rfl
      | _ => rfl

theorem after_execute (command : List String) (site : Site) :
    (tool.execute command).after site =
      (tool.runner ⟨command, some tool.environment, tool.limit⟩).after
        (site.entered (.called ⟨command, some tool.environment, tool.limit⟩ site.workspace)) := by
  have called := Action.outcome_eq
    (Action.call tool.runner ⟨command, some tool.environment, tool.limit⟩) site
  have reached : (Action.call tool.runner ⟨command, some tool.environment, tool.limit⟩).after site =
      (tool.runner ⟨command, some tool.environment, tool.limit⟩).after
        (site.entered (.called ⟨command, some tool.environment, tool.limit⟩ site.workspace)) := rfl
  unfold execute
  rw [Action.after_bind, Action.ending_of_ok called, Action.after_of_ok called, reached]
  simp only
  split <;> rfl

theorem attempt_eq (tool : Tool) (request : Request) (sideFile : Option Path) (site : Site) :
    tool.attempt request sideFile site =
      (tool.hooks.before (tool.contextOf request sideFile) >>= fun adjusted =>
        Action.here >>= fun here =>
          tool.execute (adjusted ++ tool.pathArguments request here) >>= fun outcome =>
            pure (adjusted ++ tool.pathArguments request here, outcome))
        (tool.atHook request sideFile site) := rfl

theorem after_attempt_of_refused {failure : Failure}
    (refused : tool.hooks.before (tool.contextOf request sideFile)
      (tool.atHook request sideFile site) = .error failure left) :
    (tool.attempt request sideFile).after site = left :=
  Action.after_of_error ((tool.attempt_eq request sideFile site).trans
    (Action.bind_of_error refused))

theorem after_attempt_of_adjusted {adjusted : List String}
    (hooked : tool.hooks.before (tool.contextOf request sideFile)
      (tool.atHook request sideFile site) = .ok adjusted left) :
    (tool.attempt request sideFile).after site =
      (tool.runner (tool.callOf request adjusted left)).after
        (left.entered (.called (tool.callOf request adjusted left) left.workspace)) := by
  have whole : tool.attempt request sideFile site =
      (tool.execute (tool.callOf request adjusted left).argv >>= fun outcome =>
        pure ((tool.callOf request adjusted left).argv, outcome)) left :=
    (tool.attempt_eq request sideFile site).trans (Action.bind_of_ok hooked)
  have reached := tool.after_execute (tool.callOf request adjusted left).argv left
  rw [Action.after, whole]
  change Action.after _ left = _
  rw [Action.after_bind, reached]
  cases (tool.execute (tool.callOf request adjusted left).argv).ending left <;> rfl

theorem stageAndAttempt_of_error {failure : Failure}
    (unstaged : tool.stage request site = .error failure left) :
    tool.stageAndAttempt request site = .ok (none, .error failure) left :=
  Action.bind_of_ok (Action.outcome_of_error unstaged)

theorem stageAndAttempt_of_ok (staging : tool.stage request site = .ok sideFile left) :
    tool.stageAndAttempt request site =
      .ok (sideFile, (tool.attempt request sideFile).ending left)
        ((tool.attempt request sideFile).after left) := by
  have attempted := Action.outcome_eq (tool.attempt request sideFile) left
  exact (Action.bind_of_ok (Action.outcome_of_ok staging)).trans (Action.bind_of_ok attempted)

theorem after_produced (path : Path) (site : Site) :
    (produced request path).after site = site := by
  have inspected := Action.after_isDirectory path site
  unfold produced
  rw [Action.after_bind, inspected]
  cases (Action.isDirectory path).ending site with
  | error failure => rfl
  | ok isDirectory => cases isDirectory <;> rfl

theorem after_judge (command : List String) (outcome : CommandOutcome) (site : Site) :
    (tool.judge request command outcome).after site = site := by
  unfold judge
  by_cases failed : (outcome.exitCode != 0) = true
  · rw [if_pos failed]
    rfl
  · rw [if_neg failed]
    have here : Action.here site = .ok site.workspace.herePath site := rfl
    rw [Action.after_bind, Action.ending_of_ok here, Action.after_of_ok here]
    simp only
    rw [Action.after_bind, after_produced]
    cases (produced request (request.outputPath site.workspace.herePath)).ending site <;> rfl

theorem after_conclude (exitCode : Int) (site : Site) :
    (tool.conclude sideFile exitCode).after site =
      (discard sideFile).after ((tool.notifyAfter exitCode).after site) :=
  Action.after_finally _ _ _

/-- Once the run of the command is over, the site is left by the hook after it and by the removal
of the side file, whether the run succeeded or not. -/
theorem after_run {ended : Except Failure (List String × CommandOutcome)}
    (begun : tool.stageAndAttempt request site = .ok (sideFile, ended) left) :
    (tool.run request).after site =
      (discard sideFile).after ((tool.notifyAfter (reportedExitCode ended)).after left) := by
  have concluded := @after_conclude tool sideFile (reportedExitCode ended) left
  unfold run
  rw [Action.after_bind, Action.ending_of_ok begun, Action.after_of_ok begun]
  simp only
  rw [Action.after_bind, concluded]
  cases (tool.conclude sideFile (reportedExitCode ended)).ending left with
  | error failure => rfl
  | ok _ =>
      simp only
      rw [Action.after_bind, Action.after_ofExcept]
      cases ended with
      | error failure => rfl
      | ok value => exact after_judge value.1 value.2 _

end Tool

/-! ### Frames of a run -/

/-- Records and changes of files are within a frame. -/
structure Frame.IgnoresFiles (frame : Frame) : Prop where
  records : frame.IgnoresRecords
  files : ∀ site workspace, frame.allows site { site with workspace }

/-- What the library itself does in a run is within a frame, apart from entering the call: records,
notes of the hooks, and changes of files. -/
structure Frame.IgnoresWork (frame : Frame) : Prop where
  records : frame.IgnoresRecords
  before : ∀ site command typeName sideFile,
    frame.allows site (site.entered (.beforeRun command typeName sideFile))
  afterwards : ∀ site exitCode, frame.allows site (site.entered (.afterRun exitCode))
  files : ∀ site workspace, frame.allows site { site with workspace }

theorem Frame.IgnoresWork.ignoresFiles {frame : Frame} (work : frame.IgnoresWork) :
    frame.IgnoresFiles :=
  ⟨work.records, work.files⟩

/-- The calls that the journal tells of stay the same. -/
def Frame.sameCalls : Frame := .same (·.calls)

theorem Frame.sameCalls_ignoresWork : Frame.sameCalls.IgnoresWork where
  records site record := by simp [sameCalls, same, Site.calls, Site.entered]
  before site command typeName sideFile := by simp [sameCalls, same, Site.calls, Site.entered]
  afterwards site exitCode := by simp [sameCalls, same, Site.calls, Site.entered]
  files _ _ := rfl

namespace Action

variable {frame : Frame}

theorem respects_writeFile (ignored : frame.IgnoresFiles) (path : Path) (octets : List UInt8) :
    (writeFile path octets).Respects frame := by
  intro site
  cases written : site.workspace.write path octets with
  | error obstacle =>
      rw [after_of_error (writeFile_of_error written)]
      exact frame.rest site
  | ok changed =>
      rw [after_of_ok (writeFile_of_ok written)]
      exact ignored.files site changed

theorem respects_removeFile (ignored : frame.IgnoresFiles) (path : Path) :
    (removeFile path).Respects frame := by
  intro site
  cases removed : site.workspace.unlink path with
  | error obstacle =>
      rw [after_removeFile_of_error removed]
      exact frame.rest site
  | ok changed =>
      rw [after_of_ok (removeFile_of_ok removed)]
      exact ignored.files site changed

end Action

namespace Crs

variable {frame : Frame}

theorem respects_createSideFile (ignored : frame.IgnoresFiles) (device : Device) (naming : Naming)
    (directory : Path) : (createSideFile device naming directory).Respects frame := by
  refine Action.respects_get_bind fun site => ?_
  split
  · exact Action.respects_throw _ site
  · exact ((Action.respects_writeFile ignored _ _).bind fun _ => Action.respects_pure _) site

theorem respects_writeSideFile (ignored : frame.IgnoresFiles) (device : Device) (path : Path)
    (text : Text.WideText) : (writeSideFile device path text).Respects frame := by
  refine Action.respects_get_bind fun site => ?_
  refine (Action.respects_writeFile ignored _ _).bind (fun _ => ?_) site
  split
  · exact Action.respects_throw _
  · exact Action.respects_pure ()

theorem respects_fillSideFile (ignored : frame.IgnoresFiles) (device : Device) (path : Path)
    (text : Text.WideText) : (fillSideFile device path text).Respects frame := by
  refine (respects_writeSideFile ignored device path text).outcome.bind fun ended => ?_
  split
  · exact Action.respects_pure ()
  · exact (Action.respects_removeFile ignored path).bind fun _ => Action.respects_throw _
  · exact Action.respects_throw _

theorem respects_stage (ignored : frame.IgnoresFiles) (library : CrsLibrary) (directory : Path)
    (crs : Crs) (naming : Naming) : (stage library directory crs naming).Respects frame := by
  refine (Action.respects_ofExcept _).bind fun text => ?_
  refine (respects_createSideFile ignored .plain naming directory).bind fun path => ?_
  refine (respects_fillSideFile ignored .plain path text).bind fun _ => ?_
  exact ((Action.respects_record _ _ _ _).of_recording ignored.records).bind fun _ =>
    Action.respects_pure path

end Crs

namespace Tool

variable {frame : Frame}

/-- The hooks of a tool and its runner stay within a frame. -/
structure Within (tool : Tool) (frame : Frame) : Prop where
  before : ∀ context, (tool.hooks.before context).Respects frame
  runs : ∀ call, (tool.runner call).Respects frame
  afterwards : ∀ exitCode, (tool.hooks.after exitCode).Respects frame

variable {tool : Tool} {request : Request} {sideFile : Option Path} {site left : Site}

theorem Within.first {one two : Frame} (within : tool.Within (one.both two)) :
    tool.Within one where
  before context site := (within.before context site).1
  runs call site := (within.runs call site).1
  afterwards exitCode site := (within.afterwards exitCode site).1

theorem Within.second {one two : Frame} (within : tool.Within (one.both two)) :
    tool.Within two where
  before context site := (within.before context site).2
  runs call site := (within.runs call site).2
  afterwards exitCode site := (within.afterwards exitCode site).2

theorem respects_stage (ignored : frame.IgnoresFiles) (tool : Tool) (request : Request) :
    (tool.stage request).Respects frame := by
  unfold stage
  split
  · exact Action.respects_pure none
  · split
    · exact ((Action.respects_record _ _ _ _).of_recording ignored.records).bind fun _ =>
        Action.respects_pure none
    · refine Action.Respects.bind (Action.respects_of_after_eq fun _ => rfl) fun here => ?_
      refine (Crs.respects_stage ignored _ _ _ _).outcome.bind fun staged => ?_
      split
      · exact Action.respects_pure _
      · exact Action.respects_throw _
      · exact Action.respects_throw _

theorem respects_notifyAfter (work : frame.IgnoresWork) (within : tool.Within frame)
    (exitCode : Int) : (tool.notifyAfter exitCode).Respects frame :=
  (Action.respects_enter fun site => work.afterwards site exitCode).bind fun _ =>
    within.afterwards exitCode

theorem respects_discard (ignored : frame.IgnoresFiles) (sideFile : Option Path) :
    (discard sideFile).Respects frame := by
  cases sideFile with
  | none => exact Action.respects_pure ()
  | some path => exact Action.respects_removeFile ignored path

theorem allows_atHook (work : frame.IgnoresWork) (tool : Tool) (request : Request)
    (sideFile : Option Path) (site : Site) :
    frame.allows site (tool.atHook request sideFile site) :=
  work.before _ _ _ _

theorem respects_attempt (work : frame.IgnoresWork) (calls : frame.IgnoresCalls)
    (within : tool.Within frame) (request : Request) (sideFile : Option Path) :
    (tool.attempt request sideFile).Respects frame := by
  intro site
  have toHook := allows_atHook work tool request sideFile site
  cases hooked : tool.hooks.before (tool.contextOf request sideFile)
      (tool.atHook request sideFile site) with
  | error failure refused =>
      rw [after_attempt_of_refused hooked]
      exact frame.chain toHook ((within.before _).of_error hooked)
  | ok adjusted prepared =>
      rw [after_attempt_of_adjusted hooked]
      have before := frame.chain toHook ((within.before _).of_ok hooked)
      exact frame.chain before (frame.chain (calls prepared _) (within.runs _ _))

/-- Between staging and the removal of the side file only the hooks and the runner are at work. -/
theorem allows_work (work : frame.IgnoresWork) (calls : frame.IgnoresCalls)
    (within : tool.Within frame) (request : Request) (sideFile : Option Path) (exitCode : Int)
    (staged : Site) :
    frame.allows staged
      ((tool.notifyAfter exitCode).after ((tool.attempt request sideFile).after staged)) :=
  frame.chain (respects_attempt work calls within request sideFile staged)
    (respects_notifyAfter work within exitCode _)

/-- A run stays within a frame that its tool stays within. -/
theorem respects_run (work : frame.IgnoresWork) (calls : frame.IgnoresCalls)
    (within : tool.Within frame) (request : Request) : (tool.run request).Respects frame := by
  intro site
  cases staging : tool.stage request site with
  | error failure unstaged =>
      rw [after_run (stageAndAttempt_of_error staging)]
      exact frame.chain ((respects_stage work.ignoresFiles tool request).of_error staging)
        (respects_notifyAfter work within _ unstaged)
  | ok sideFile staged =>
      rw [after_run (stageAndAttempt_of_ok staging)]
      have worked := allows_work work calls within request sideFile
        (reportedExitCode ((tool.attempt request sideFile).ending staged)) staged
      have reached := (respects_stage work.ignoresFiles tool request).of_ok staging
      have unstaged := frame.chain reached worked
      exact frame.chain unstaged (respects_discard work.ignoresFiles sideFile _)

/-! ### Calls -/

/-- A run that begins at a site comes to a call while the files are as found: the request is staged,
and the hook returns the command to which the paths are added. -/
inductive Reaches (tool : Tool) (request : Request) (site : Site) :
    CommandCall → Workspace → Prop
  | intro {sideFile : Option Path} {staged hooked : Site} {adjusted : List String} :
      tool.stage request site = .ok sideFile staged →
      tool.hooks.before (tool.contextOf request sideFile) (tool.atHook request sideFile staged) =
        .ok adjusted hooked →
      Reaches tool request site (tool.callOf request adjusted hooked) hooked.workspace

/-- Which command a call runs: the hook before the run is handed a command that begins with the
executable, and the call begins with what the hook returns. -/
structure Follows (tool : Tool) (call : CommandCall) (context : CommandContext)
    (adjusted : List String) : Prop where
  environment : call.environment = some tool.environment
  handed : ∃ rest, context.command = tool.executable :: rest
  returned : ∃ told hooked, tool.hooks.before context told = .ok adjusted hooked
  leads : adjusted <+: call.argv

theorem exists_follows_of_reaches {call : CommandCall} {found : Workspace}
    (reaches : tool.Reaches request site call found) :
    ∃ context adjusted, tool.Follows call context adjusted := by
  obtain @⟨sideFile, staged, hookedSite, adjusted, -, hooked⟩ := reaches
  exact ⟨_, adjusted, rfl, ⟨_, rfl⟩, ⟨_, hookedSite, hooked⟩, List.prefix_append _ _⟩

/-- Where the hook leaves the executable at the front, the call is for it. -/
theorem Follows.front {call : CommandCall} {context : CommandContext} {adjusted : List String}
    (follows : tool.Follows call context adjusted) (keeps : tool.hooks.KeepExecutable) :
    ∃ rest, call.argv = tool.executable :: rest := by
  obtain ⟨rest, handed⟩ := follows.handed
  obtain ⟨told, hooked, returned⟩ := follows.returned
  have first : adjusted.head? = some tool.executable :=
    keeps context told adjusted hooked returned _ (by rw [handed]; rfl)
  obtain ⟨further, rfl⟩ := List.head?_eq_some_iff.mp first
  obtain ⟨added, whole⟩ := follows.leads
  exact ⟨further ++ added, whole.symm⟩

/-- What an attempt does to the calls: nothing, or it adds the one that it comes to. -/
theorem calls_after_attempt (within : tool.Within .sameCalls)
    (staging : tool.stage request site = .ok sideFile left) :
    ((tool.attempt request sideFile).after left).calls = left.calls ∨
      ∃ call found, tool.Reaches request site call found ∧
        ((tool.attempt request sideFile).after left).calls = left.calls ++ [(call, found)] := by
  have toHook := allows_atHook Frame.sameCalls_ignoresWork tool request sideFile left
  cases hooked : tool.hooks.before (tool.contextOf request sideFile)
      (tool.atHook request sideFile left) with
  | error failure refused =>
      rw [after_attempt_of_refused hooked]
      exact .inl (Frame.sameCalls.chain toHook ((within.before _).of_error hooked))
  | ok adjusted prepared =>
      rw [after_attempt_of_adjusted hooked]
      have before : prepared.calls = left.calls :=
        Frame.sameCalls.chain toHook ((within.before _).of_ok hooked)
      have ran := within.runs (tool.callOf request adjusted prepared)
        (prepared.entered (.called (tool.callOf request adjusted prepared) prepared.workspace))
      refine .inr ⟨_, _, .intro staging hooked, ?_⟩
      rw [← before, ← Site.calls_entered_called]
      exact ran

/-- A run makes at most one call, and none where staging fails. -/
theorem calls_after_run (within : tool.Within .sameCalls) (request : Request) (site : Site) :
    ((tool.run request).after site).calls = site.calls ∨
      ∃ call found, tool.Reaches request site call found ∧
        ((tool.run request).after site).calls = site.calls ++ [(call, found)] := by
  have work := Frame.sameCalls_ignoresWork
  cases staging : tool.stage request site with
  | error failure unstaged =>
      rw [after_run (stageAndAttempt_of_error staging)]
      have sameStaged := (respects_stage work.ignoresFiles tool request).of_error staging
      have notified := respects_notifyAfter work within (-1) unstaged
      exact .inl (Frame.sameCalls.chain sameStaged notified)
  | ok sideFile staged =>
      have sameStaged : staged.calls = site.calls :=
        (respects_stage work.ignoresFiles tool request).of_ok staging
      rw [after_run (stageAndAttempt_of_ok staging)]
      generalize (tool.attempt request sideFile).ending staged = ended
      have finished : ∀ attempted : Site, ((discard sideFile).after
          ((tool.notifyAfter (reportedExitCode ended)).after attempted)).calls = attempted.calls :=
        fun attempted => Frame.sameCalls.chain
          (respects_notifyAfter work within _ attempted)
          (respects_discard work.ignoresFiles sideFile _)
      rw [finished, ← sameStaged]
      exact calls_after_attempt within staging

end Tool

end GeoBridge
