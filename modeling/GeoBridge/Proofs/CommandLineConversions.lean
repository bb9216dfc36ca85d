import GeoBridge.CommandLine
import GeoBridge.Proofs.ConversionEndings
import GeoBridge.Proofs.ConversionFiles
import GeoBridge.Proofs.OneShotSessions
import GeoBridge.Proofs.Services
import GeoBridge.Proofs.Sessions

/-!
Owns what comes of a conversion that is asked for on the command line.

Owns:
- the exit status of a conversion by a service, and the reports, which change neither;
- a conversion with all that it is carried out with, and what is promised of the code it is given;
- the whole: the probe call, then at most the call of the conversion, and the exit status.
-/

namespace GeoBridge

/-! ### Conversions of a service -/

namespace Service

variable {service : Service} {request : ServiceRequest} {site : Site}

theorem statusOf_map {α β : Type} (change : α → β) (result : Except Failure α) :
    statusOf (result.map change) = statusOf result := by
  cases result <;> rfl

/-- A conversion into a format that is not active does nothing and is answered with 1. -/
theorem convert_of_inactive (inactive : site.registry.get? request.formatName = none) :
    (service.convert request).after site = site ∧
      statusOf ((service.convert request).ending site) = 1 := by
  have executed : (service.execute request) site = _ := execute_of_find?_none rfl inactive
  rw [after_convert, ending_convert, Action.after_of_error executed,
    Action.ending_of_error executed]
  exact ⟨rfl, rfl⟩

/-- A conversion into an active format is the run of the tool that is bound to the snapshot. -/
theorem convert_of_active {format : Format}
    (active : site.registry.get? request.formatName = some format) :
    let running := (service.toolOf site.registry.snapshot).run (toolRequest request format)
    let begun := site.entered (.recorded (beginning request))
    (service.convert request).after site = running.after begun ∧
      statusOf ((service.convert request).ending site) = statusOf (running.ending begun) := by
  intro running begun
  rw [after_convert, ending_convert, statusOf_map, after_execute_of_find? rfl active,
    ending_execute_of_find? rfl active, statusOf_map]
  exact ⟨rfl, rfl⟩

end Service

/-! ### Reports -/

namespace CommandLine

/-- The exit status that a command line ends with. A failure that nobody reports ends the program
with 1. -/
def exitStatus : Except Failure Ending → Int
  | .ok ending => ending.exitCode
  | .error _ => 1

theorem respects_print (channel : Channel) (text : String) :
    (print channel text).Respects .sameCalls :=
  Action.respects_enter fun site => by simp [Frame.sameCalls, Frame.same, Site.calls, Site.entered]

/-- Only failures with a label carry an exit code, so that those without end the program as they
should. -/
theorem exitStatus_reportFailure (debug : Bool) (failure : Failure) (site : Site) :
    exitStatus ((reportFailure debug failure).ending site) = failure.status := by
  unfold reportFailure
  cases reported : Report.ofFailure? failure with
  | none =>
      have codeless : failure.exitCode? = none := by
        cases failure with
        | conversion cause => cases reported
        | _ => rfl
      exact (Failure.status_of_codeless codeless).symm
  | some report =>
      have code : report.exitCode = failure.status := by
        unfold Report.ofFailure? at reported
        obtain ⟨label, -, rfl⟩ := Option.map_eq_some_iff.mp reported
        rfl
      cases debug <;> exact code

theorem respects_reportFailure (debug : Bool) (failure : Failure) :
    (reportFailure debug failure).Respects .sameCalls := by
  unfold reportFailure
  cases Report.ofFailure? failure with
  | none => exact Action.respects_throw failure
  | some report =>
      refine (respects_print _ _).bind fun _ => ?_
      cases debug with
      | true => exact (respects_print _ _).bind fun _ => Action.respects_pure _
      | false => exact Action.respects_pure _

/-- What is asked of the service. -/
def ConvertCommand.serviceRequest (command : ConvertCommand) : ServiceRequest where
  input := command.input
  directory := command.directory
  typeName := typeNameOf command
  formatName := command.formatName
  crs := command.crs.map Crs.text

/-- The conversion by a session, and the report of it. -/
def convertAndReport (debug : Bool) (command : ConvertCommand) (opened : Session) :
    Action Ending := do
  match ← (opened.service.convert command.serviceRequest).outcome with
  | .ok path => do
      printLine ("[green]✓ Saved:[/green] " ++ path.text)
      pure (.exited 0)
  | .error failure => reportFailure debug failure

/-- The report changes no calls, and has the status of the conversion. -/
theorem convertAndReport_eq (debug : Bool) (command : ConvertCommand) (opened : Session)
    (site : Site) :
    let converting := opened.service.convert command.serviceRequest
    exitStatus ((convertAndReport debug command opened).ending site) =
        statusOf (converting.ending site) ∧
      ((convertAndReport debug command opened).after site).calls =
        (converting.after site).calls := by
  intro converting
  have converted := Action.outcome_eq converting site
  unfold convertAndReport
  rw [Action.ending_bind, Action.after_bind, Action.ending_of_ok converted,
    Action.after_of_ok converted]
  cases converting.ending site with
  | ok path =>
      refine ⟨rfl, ?_⟩
      exact ((respects_print .output _).bind fun _ => Action.respects_pure (Ending.exited 0))
        (converting.after site)
  | error failure =>
      exact ⟨exitStatus_reportFailure debug failure _, respects_reportFailure debug failure _⟩

theorem withFamily_of_ok {α : Type} {action : Action α} {use : α → Action Ending} {site left : Site}
    {value : α} (ended : action site = .ok value left) :
    withFamily action use site = use value left := by
  unfold withFamily
  rw [Action.bind_of_ok (Action.outcome_of_ok ended)]

/-! ### Conversions as they are commissioned -/

/-- A conversion that is asked for on the command line, once its directory is made and its family is
known, and the configuration that is in effect then. -/
structure Commission where
  surroundings : Surroundings
  command : ConvertCommand
  family : Family
  made : Site
  configuration : Configuration

namespace Commission

variable (commission : Commission)

def options : SessionOptions where
  directory := commission.command.configuration
  watch := false
  limit := commission.command.limit

def file : Path :=
  (configurationDirectory commission.made commission.command.configuration).joinText
    commission.family.configurationFile

def session : Session :=
  .prepare commission.surroundings commission.family commission.command.limit commission.file

def environment : Environment :=
  commission.configuration.effectiveEnvironment commission.family.profile.dataVariable

def probe : Probe := commission.family.probe commission.surroundings.runner

/-- The call by which the tool is asked what it supports. -/
def probing : CommandCall :=
  commission.probe.probeCall commission.configuration.executable (some commission.environment)

/-- The site that the session is loaded at. -/
def seeded : Site := Session.seeded commission.family commission.options commission.made

/-- The site at which the tool is asked. -/
def asked : Site :=
  commission.session.loader.askedAt commission.configuration.executable commission.environment
    commission.seeded

def announced : List String :=
  commission.probe.announcedAt commission.configuration.executable commission.environment
    commission.asked

/-- A format that can be converted into: the configuration declares it under the name that is asked
for, and the tool announces its code. -/
structure Offers (format : Format) : Prop where
  declared : format ∈ commission.configuration.formats
  named : format.publicName = commission.command.formatName
  announced : format.toolCode ∈ commission.announced

/-- The site at which the session has started. -/
def opened : Site :=
  (Session.start commission.surroundings commission.family commission.options).after
    commission.made

/-- The site at which the tool begins its run. -/
def begun : Site :=
  commission.opened.entered (.recorded (Service.beginning commission.command.serviceRequest))

def tool : Tool :=
  commission.session.service.tool commission.configuration.executable commission.environment

def request (format : Format) : Request :=
  Service.toolRequest commission.command.serviceRequest format

/-- The run of the tool comes to its call, which is that of the conversion. -/
abbrev Calling (format : Format) : Type :=
  commission.tool.Calling (commission.request format) commission.begun

/-- The configuration in effect is the one that the file holds, in whatever state that is, or the
default of the family where it holds none. Only a file that names an encoding of no use is left out.
The formats of the default have different names, as those of every configuration that is read. -/
structure GoesBy (state : FileState) : Prop where
  reads : (FileSource.source commission.file).read.ending commission.made = state.reading
  usable : ∀ problem, ¬ state.NamesUnusableEncoding problem
  inEffect : state.accepted?.getD commission.family.default = commission.configuration
  distinct : HaveDistinctNames commission.family.default.formats

/-- What is promised of the code that is given: neither the runner nor the hooks make calls of their
own, the probe call fails, if it does, as processes do, and the call of the conversion by a fault
outside of the library. -/
structure Promised : Prop where
  runs : ∀ call, (commission.surroundings.runner call).Respects .sameCalls
  ownHooks : ∀ hooks, commission.surroundings.ownHooks commission.family = some hooks →
    hooks.Within .sameCalls
  silent : ∀ failure,
    (commission.surroundings.runner commission.probing).ending commission.asked =
      .error failure → failure.leavesSilent = true
  outside : ∀ format (calling : commission.Calling format) failure,
    calling.ended = .error failure → ∃ fault, failure = .outside fault

/-- What a conversion comes to, by its calls after that of the probe and by the exit status. The
hooks of a family may fail on their own account. Where they return, a run comes to its call if its
coordinate system is staged, and every failure but that of the tool itself has the status 1. -/
structure Results (further : List (CommandCall × Workspace)) (status : Int) : Prop where
  called : ∀ format, commission.Offers format → ∀ calling : commission.Calling format,
    further = [(calling.call, calling.found)]
  uncalled : (∀ format, commission.Offers format → ¬ Nonempty (commission.Calling format)) →
    further = []
  succeeds_iff : status = 0 ↔ ∃ format, commission.Offers format ∧
    ∃ calling : commission.Calling format, calling.Unhindered ∧
      ∃ output, calling.ended = .ok ⟨0, output⟩
  unhindered : ∀ format, commission.Offers format → ∀ calling : commission.Calling format,
    calling.Unhindered → status = callStatus calling.ended
  fails : (∀ format, commission.Offers format → ∀ calling : commission.Calling format,
      ¬ calling.Unhindered) → 0 < status ∧ (commission.tool.hooks.Return → status = 1)
  comes_iff : commission.tool.hooks.Return → ∀ format, Nonempty (commission.Calling format) ↔
    ∃ sideFile staged,
      commission.tool.stage (commission.request format) commission.begun = .ok sideFile staged

variable {commission} {state : FileState}

theorem within (promised : commission.Promised) : commission.tool.Within .sameCalls where
  before := (Surroundings.within_hooksOf promised.ownHooks).before
  runs := promised.runs
  afterwards := (Surroundings.within_hooksOf promised.ownHooks).after

/-- The hooks of a policy never fail, so that only those that a family brings along can. -/
theorem hooks_return (plain : commission.surroundings.ownHooks commission.family = none) :
    commission.tool.hooks.Return := by
  have policy : commission.tool.hooks = commission.family.hooks.hooks := by
    change commission.surroundings.hooksOf commission.family = _
    rw [Surroundings.hooksOf, plain]
    rfl
  rw [policy]
  exact commission.family.hooks.hooks_return

/-- The session starts with one call, that of the probe, and offers the formats of the configuration
that the call announces. -/
theorem starts (goesBy : commission.GoesBy state) (promised : commission.Promised) :
    Session.start commission.surroundings commission.family commission.options commission.made =
        .ok commission.session commission.opened ∧
      commission.opened.registry.snapshot =
        commission.session.loader.snapshotOf commission.configuration commission.announced ∧
      commission.opened.calls =
        commission.made.calls ++ [(commission.probing, commission.made.workspace)] := by
  let loader := commission.session.loader
  have documents : loader.ReadsDocuments := fun _ => rfl
  have reading : loader.source.read.ending commission.seeded = state.reading := by
    rw [← goesBy.reads]
    exact FileSource.ending_source_read_congr commission.file rfl
  have excused := Loader.passedOn?_reading_of_usable documents goesBy.usable
  have inEffect : loader.inEffect (loader.source.read.ending commission.seeded) =
      commission.configuration := by
    rw [reading, Loader.inEffect_reading documents]
    exact goesBy.inEffect
  rw [← reading] at excused
  have asks : ∀ executable environment, loader.ask executable environment =
      loader.probe.supportedFormats executable (some environment) := fun _ _ => rfl
  obtain ⟨left, reloaded, active, calls⟩ := Loader.reload_of_silent asks
    (FileSource.after_source_read commission.file) promised.runs excused inEffect promised.silent
  have started : Session.start commission.surroundings commission.family commission.options
      commission.made = .ok commission.session left := by
    have seeding : (set (Session.seeded commission.family commission.options commission.made) :
        Action PUnit) commission.made = .ok ⟨⟩ commission.seeded := rfl
    have whole : Session.start commission.surroundings commission.family commission.options
        commission.made =
          (loader.reload >>= fun _ => pure commission.session) commission.seeded := by
      unfold Session.start
      rw [Action.get_bind]
      exact Action.bind_of_ok seeding
    rw [whole]
    exact Action.bind_of_ok reloaded
  have opened : commission.opened = left := Action.after_of_ok started
  rw [opened]
  exact ⟨started, active, calls⟩

theorem distinct_formats (goesBy : commission.GoesBy state) :
    HaveDistinctNames commission.configuration.formats := by
  rw [← goesBy.inEffect]
  cases accepted : state.accepted? with
  | none => exact goesBy.distinct
  | some configuration => exact state.haveDistinctNames_of_accepted accepted

/-- The formats that are offered are those that are active under the name asked for. -/
theorem active_iff (goesBy : commission.GoesBy state) (promised : commission.Promised)
    (format : Format) :
    commission.opened.registry.get? commission.command.formatName = some format ↔
      commission.Offers format := by
  obtain ⟨-, active, -⟩ := starts goesBy promised
  have distinct := distinct_formats goesBy
  rw [Registry.get?, active, Loader.snapshotOf_eq distinct, find?_of_distinct (distinct.filter _),
    List.mem_filter, decide_eq_true_iff]
  constructor
  · rintro ⟨⟨declared, announced⟩, named⟩
    exact ⟨declared, named, announced⟩
  · intro offers
    exact ⟨⟨offers.declared, offers.announced⟩, offers.named⟩

theorem results_of_uncalled {status : Int}
    (uncalled : ∀ format, commission.Offers format → ¬ Nonempty (commission.Calling format))
    (failed : 0 < status ∧ (commission.tool.hooks.Return → status = 1)) :
    commission.Results [] status where
  called := by
    intro format offers calling
    exact absurd ⟨calling⟩ (uncalled format offers)
  uncalled _ := rfl
  succeeds_iff := by
    constructor
    · intro zero
      exact absurd zero (Int.ne_of_gt failed.1)
    · rintro ⟨format, offers, calling, -⟩
      exact absurd ⟨calling⟩ (uncalled format offers)
  unhindered := by
    intro format offers calling
    exact absurd ⟨calling⟩ (uncalled format offers)
  fails _ := failed
  comes_iff returns _ := Tool.nonempty_calling_iff returns

theorem results_of_called (promised : commission.Promised) {format : Format}
    (offers : commission.Offers format)
    (only : ∀ other, commission.Offers other → other = format)
    (calling : commission.Calling format) :
    commission.Results [(calling.call, calling.found)]
      (statusOf ((commission.tool.run (commission.request format)).ending commission.begun)) where
  called := by
    intro other offered further
    obtain rfl := only other offered
    -- Both are the last call of the same run.
    have first := calling.calls_after_run (within promised)
    have second := further.calls_after_run (within promised)
    exact List.append_cancel_left (first.symm.trans second)
  uncalled none_ := absurd ⟨calling⟩ (none_ format offers)
  succeeds_iff := by
    constructor
    · intro zero
      have succeeded := (calling.statusOf_run_eq_zero_iff (promised.outside format calling)).mp zero
      exact ⟨format, offers, calling, succeeded⟩
    · rintro ⟨other, offered, further, succeeded⟩
      obtain rfl := only other offered
      exact (further.statusOf_run_eq_zero_iff (promised.outside _ further)).mpr succeeded
  unhindered := by
    intro other offered further unhindered
    obtain rfl := only other offered
    exact further.statusOf_run_of_unhindered unhindered (promised.outside _ further)
  fails hindered := calling.statusOf_run_of_hindered (hindered format offers calling)
  comes_iff returns _ := Tool.nonempty_calling_iff returns

/-- The conversion of the session makes the call that its run comes to, or none. -/
theorem converts (goesBy : commission.GoesBy state) (promised : commission.Promised) :
    let converting := commission.session.service.convert commission.command.serviceRequest
    ∃ further, (converting.after commission.opened).calls = commission.opened.calls ++ further ∧
      commission.Results further (statusOf (converting.ending commission.opened)) := by
  intro converting
  obtain ⟨-, snapshot, -⟩ := starts goesBy promised
  have bound : commission.session.service.toolOf commission.opened.registry.snapshot =
      commission.tool := by
    rw [snapshot]
    rfl
  have begins : commission.begun.calls = commission.opened.calls :=
    Frame.sameCalls_ignoresWork.records commission.opened _
  -- Between the load and the conversion nothing happens, so that what is offered is what is active.
  cases active : commission.opened.registry.get? commission.command.formatName with
  | none =>
      obtain ⟨nothing, one⟩ : converting.after commission.opened = commission.opened ∧
          statusOf (converting.ending commission.opened) = 1 := Service.convert_of_inactive active
      refine ⟨[], by rw [nothing, List.append_nil], ?_⟩
      apply results_of_uncalled
      · intro format offers
        rw [(active_iff goesBy promised format).mpr offers] at active
        cases active
      · rw [one]
        exact ⟨by decide, fun _ => rfl⟩
  | some format =>
      have offers := (active_iff goesBy promised format).mp active
      have only : ∀ other, commission.Offers other → other = format := by
        intro other offered
        rw [(active_iff goesBy promised other).mpr offered] at active
        exact Option.some.inj active
      let running := commission.tool.run (commission.request format)
      obtain ⟨after, status⟩ : converting.after commission.opened =
            running.after commission.begun ∧
          statusOf (converting.ending commission.opened) =
            statusOf (running.ending commission.begun) := by
        have converted := @Service.convert_of_active commission.session.service
          commission.command.serviceRequest commission.opened format active
        rw [bound] at converted
        exact converted
      rw [after, status, ← begins]
      by_cases comes : Nonempty (commission.Calling format)
      · obtain ⟨calling⟩ := comes
        exact ⟨_, calling.calls_after_run (within promised),
          results_of_called promised offers only calling⟩
      · refine ⟨[], ?_, ?_⟩
        · rw [List.append_nil]
          exact Tool.calls_of_uncalled (within promised) comes
        · apply results_of_uncalled
          · intro other offered
            obtain rfl := only other offered
            exact comes
          · exact Tool.statusOf_run_of_uncalled comes

/-- The command line looks for the input, makes the directory, starts the session and uses it. -/
theorem run_eq (goesBy : commission.GoesBy state) (promised : commission.Promised)
    {texts : List String} {debug : Bool} {site : Site}
    (reads : Invocation.read texts = .ok (.command debug (.convert commission.command)))
    (exists_ : (site.workspace.inspect commission.command.input).isOk = true)
    (created : Action.makeDirectories commission.command.directory site = .ok () commission.made)
    (known : (FamilyRegistry.resolve commission.surroundings.modules commission.command.modules
      commission.command.family).ending commission.made = .ok commission.family) :
    run commission.surroundings texts site =
      commission.session.during (convertAndReport debug commission.command) commission.opened := by
  have found : leadsSomewhere commission.command.input site = .ok true site := by
    rw [← exists_]
    rfl
  -- The look-up of the family leaves the site at which the directory was made as it is.
  have resolved : FamilyRegistry.resolve commission.surroundings.modules
      commission.command.modules commission.command.family commission.made =
        .ok commission.family commission.made := by
    have still := FamilyRegistry.after_resolve commission.surroundings.modules
      commission.command.modules commission.command.family commission.made
    cases ended : FamilyRegistry.resolve commission.surroundings.modules
        commission.command.modules commission.command.family commission.made with
    | error failure left =>
        rw [Action.ending_of_error ended] at known
        cases known
    | ok family left =>
        rw [Action.ending_of_ok ended] at known
        rw [Action.after_of_ok ended] at still
        cases known
        rw [still]
  have started : Session.startNamed commission.surroundings commission.command.modules
      commission.command.family commission.options commission.made =
        .ok commission.session commission.opened :=
    (Action.bind_of_ok resolved).trans (starts goesBy promised).1
  unfold run
  rw [reads]
  change convert commission.surroundings debug commission.command site = _
  unfold convert
  rw [Action.bind_of_ok found]
  change (Action.makeDirectories commission.command.directory >>= _) site = _
  rw [Action.bind_of_ok created]
  change withFamily (Session.startNamed commission.surroundings commission.command.modules
      commission.command.family commission.options)
    (·.during (convertAndReport debug commission.command)) commission.made = _
  exact withFamily_of_ok started

theorem calls_of_made {path : Path} {site made : Site}
    (created : Action.makeDirectories path site = .ok () made) : made.calls = site.calls := by
  unfold Action.makeDirectories at created
  rw [Action.get_bind] at created
  cases changed : site.workspace.makeDirectories path.root path.parts path.parts.length with
  | ok workspace =>
      simp only [changed] at created
      cases created
      rfl
  | error blocked =>
      simp only [changed] at created
      cases created

end Commission

/-- What a conversion on the command line means. The input is there, the directory can be made, the
family is known, and the configuration is the one in effect. Then the first call asks the tool what
it supports. There is one call more, that of the conversion, if and only if the configuration
declares a format of the name that is asked for, the tool announced its code, the coordinate system
could be staged, and the hook before the run returned. The exit status is 0 if and only if that call
was made and returned 0 and nothing was in the way after it: a hook that fails, a side file that
cannot be removed, or a path of the output that is too long to be looked at. With nothing in the way
the status is that of the call, and in all other cases it is 1. -/
theorem convert_exits_as_its_call (commission : Commission) {texts : List String} {debug : Bool}
    {site : Site} {state : FileState}
    (reads : Invocation.read texts = .ok (.command debug (.convert commission.command)))
    (exists_ : (site.workspace.inspect commission.command.input).isOk = true)
    (created : Action.makeDirectories commission.command.directory site = .ok () commission.made)
    (known : (FamilyRegistry.resolve commission.surroundings.modules commission.command.modules
      commission.command.family).ending commission.made = .ok commission.family)
    (goesBy : commission.GoesBy state) (promised : commission.Promised) :
    let running := run commission.surroundings texts
    ∃ further,
      (running.after site).calls =
        site.calls ++ (commission.probing, commission.made.workspace) :: further ∧
      commission.Results further (exitStatus (running.ending site)) := by
  intro running
  have whole := Commission.run_eq goesBy promised reads exists_ created known
  have started := (Commission.starts goesBy promised).2.2
  obtain ⟨further, calls, results⟩ := Commission.converts goesBy promised
  obtain ⟨sameStatus, reported⟩ := convertAndReport_eq debug commission.command commission.session
    commission.opened
  let reporting := convertAndReport debug commission.command
  obtain ⟨ending, closed⟩ :
      (commission.session.during reporting).ending commission.opened =
          (reporting commission.session).ending commission.opened ∧
        ((commission.session.during reporting).after commission.opened).calls =
          ((reporting commission.session).after commission.opened).calls :=
    Session.during_prepared reporting commission.opened
  refine ⟨further, ?_, ?_⟩
  · calc (running.after site).calls
      _ = ((commission.session.during reporting).after commission.opened).calls := by
          rw [Action.after_congr whole]
      _ = commission.opened.calls ++ further := closed.trans (reported.trans calls)
      _ = site.calls ++ (commission.probing, commission.made.workspace) :: further := by
          rw [started, Commission.calls_of_made created, List.append_assoc, List.singleton_append]
  · rw [Action.ending_congr whole, ending, sameStatus]
    exact results

/-! ### A format that is announced, and one that is not -/

/-- A conversion into a format of the name, by a tool that announces only pages. -/
def pageTexts (formatName : String) : List String :=
  ["convert", "in.tif", "out", "--format", formatName, "--type-name", "t"]

def pageDirectory : Site :=
  { inputSite with
    workspace := { here := [], entries := [(["out"], .directory), (["in.tif"], .file [])] } }

def pageCommission (formatName : String) : Commission where
  surroundings := pdfSurroundings
  command :=
    { input := ⟨.relative, ["in.tif"]⟩, directory := ⟨.relative, ["out"]⟩, formatName
      typeName := some "t", family := "gdal" }
  family := .gdal
  made := pageDirectory
  configuration := Catalog.gdal

theorem pageCommission_created :
    Action.makeDirectories ⟨.relative, ["out"]⟩ inputSite = .ok () pageDirectory := by
  have made : inputSite.workspace.makeDirectories .relative ["out"] 1 =
      .ok pageDirectory.workspace := by
    rw [Workspace.makeDirectories]
    rfl
  unfold Action.makeDirectories
  rw [Action.get_bind]
  simp only [List.length_singleton, made]
  rfl

theorem pageCommission_goesBy (formatName : String) :
    (pageCommission formatName).GoesBy
      (.unreadable ⟨.missing, .plain (pageCommission formatName).file.text⟩) where
  reads := by
    have missing : pageDirectory.workspace.probe
        (pageDirectory.workspace.herePath.joinText "gdal_translate.xml") = .ok none := by
      decide +kernel
    exact FileSource.ending_source_read_of_missing missing
  usable := by
    rintro problem ⟨octets, same, -⟩
    cases same
  inEffect := rfl
  distinct := show HaveDistinctNames Catalog.gdal.formats by decide

theorem pageCommission_promised (formatName : String) : (pageCommission formatName).Promised where
  runs _ := Action.respects_pure _
  ownHooks _ brought := by cases brought
  silent _ ended := by cases ended
  outside _ _ _ ended := by cases ended

/-- Both command lines ask the tool what it supports, and the one for pages runs it once more. -/
theorem pages_exit_as_their_call :
    (∀ formatName, (pageCommission formatName).Promised) ∧
    (∀ formatName, (pageCommission formatName).tool.hooks.Return) ∧
    (∃ call, (pageCommission "GDAL-PDF").Results [call] 0 ∧
      call.1.argv = ["gdal_translate", "-of", "PDF", "/in.tif", "/out/t.pdf"]) ∧
    (pageCommission "GDAL-XYZ").Results [] 1 := by
  have there : (inputSite.workspace.inspect ⟨.relative, ["in.tif"]⟩).isOk = true := by
    decide +kernel
  have known : (FamilyRegistry.resolve pdfSurroundings.modules [] "gdal").ending pageDirectory =
      .ok Family.gdal := by rfl
  have results (formatName : String) (status : Int) (commands : List (List String))
      (reads : Invocation.read (pageTexts formatName) =
        .ok (.command false (.convert (pageCommission formatName).command)))
      (exits : exitStatus ((run pdfSurroundings (pageTexts formatName)).ending inputSite) = status)
      (argv : ((run pdfSurroundings (pageTexts formatName)).after inputSite).calls.map (·.1.argv) =
        ["gdal_translate", "--long-usage"] :: commands) :
      ∃ further, (pageCommission formatName).Results further status ∧
        further.map (·.1.argv) = commands := by
    obtain ⟨further, calls, results⟩ := convert_exits_as_its_call (pageCommission formatName) reads
      there pageCommission_created known (pageCommission_goesBy formatName)
      (pageCommission_promised formatName)
    change ((run pdfSurroundings (pageTexts formatName)).after inputSite).calls = _ at calls
    rw [calls] at argv
    exact ⟨further, exits ▸ results, (List.cons.inj argv).2⟩
  refine ⟨pageCommission_promised, fun _ => Commission.hooks_return rfl, ?_, ?_⟩
  · obtain ⟨further, results, argv⟩ := results "GDAL-PDF" 0
      [["gdal_translate", "-of", "PDF", "/in.tif", "/out/t.pdf"]] (by rfl) (by decide +kernel)
      (by decide +kernel)
    obtain ⟨call, rfl, same⟩ := List.map_eq_singleton_iff.mp argv
    exact ⟨call, results, same⟩
  · obtain ⟨further, results, argv⟩ := results "GDAL-XYZ" 1 [] (by rfl) (by decide +kernel)
      (by decide +kernel)
    obtain rfl := List.map_eq_nil_iff.mp argv
    exact results

end CommandLine

end GeoBridge
