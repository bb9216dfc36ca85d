import GeoBridge.Crs.Geodesy
import GeoBridge.Proofs.BrokenConfiguration
import GeoBridge.Proofs.Services
import GeoBridge.Proofs.Watching
import GeoBridge.Session
import Mathlib.Data.List.Induction

/-!
Owns what holds of a session however it goes on.

Owns:
- the steps of a session: changes of files by others, notices and events, reloads, conversions and
  the end of the watch;
- what each step does: it publishes nothing, or it reloads;
- the backing of the current snapshot at the start, in each step, and so in every history;
- the calls of conversions, which run what was probed.
-/

namespace GeoBridge

/-! ### Steps -/

/-- A step in the life of a session. -/
inductive SessionStep where
  | alter (workspace : Workspace)
  | notice
  | fileEvent (event : FileEvent)
  | reload
  | run (request : ServiceRequest)
  | convert (request : ServiceRequest)
  | convertOutput (request : ServiceRequest)
  | close

/-- The site that a step leaves behind. Whether it returns or fails does not matter. -/
def SessionStep.after (session : Session) (site : Site) : SessionStep → Site
  | .alter workspace => { site with workspace }
  | .notice => session.loader.noticeChange.after site
  | .fileEvent event => (session.noticeEvent event).after site
  | .reload => session.loader.reload.after site
  | .run request => (session.service.run request).after site
  | .convert request => (session.service.convert request).after site
  | .convertOutput request => (session.service.convertOutput request).after site
  | .close => session.close.after site

/-- The request that a step converts, where it converts one. -/
def SessionStep.converts? : SessionStep → Option ServiceRequest
  | .run request | .convert request | .convertOutput request => some request
  | _ => none

/-- The site that a history of steps leaves behind. -/
def Session.afterAll (session : Session) (site : Site) (steps : List SessionStep) : Site :=
  steps.foldl (fun reached step => step.after session reached) site

/-! ### What each step does -/

/-- What a session is promised of the code that it is given: the runner and the hooks that a family
brings along stay beside it, so that nobody else publishes. -/
structure Session.StandsAlone (surroundings : Surroundings) (family : Family) : Prop where
  runner : ∀ call, (surroundings.runner call).Respects .bystander
  ownHooks : ∀ hooks, surroundings.ownHooks family = some hooks → hooks.Within .bystander

/-- The hooks that a family brings along leave the executable at the front of the command. -/
def Session.KeepsExecutable (surroundings : Surroundings) (family : Family) : Prop :=
  ∀ hooks, surroundings.ownHooks family = some hooks → hooks.KeepExecutable

namespace Surroundings

variable {surroundings : Surroundings} {family : Family}

theorem within_hooksOf {frame : Frame}
    (own : ∀ hooks, surroundings.ownHooks family = some hooks → hooks.Within frame) :
    (surroundings.hooksOf family).Within frame := by
  unfold hooksOf
  cases brought : surroundings.ownHooks family with
  | none => exact family.hooks.within frame
  | some hooks => exact own hooks brought

theorem keepExecutable_hooksOf (keeps : Session.KeepsExecutable surroundings family) :
    (surroundings.hooksOf family).KeepExecutable := by
  unfold hooksOf
  cases brought : surroundings.ownHooks family with
  | none => exact family.hooks.keepCommand.keepExecutable
  | some hooks => exact keeps hooks brought

end Surroundings

/-- The site at which a step begins to reload, where it does. -/
inductive SessionStep.Reloads (session : Session) (site : Site) : SessionStep → Site → Prop
  | reload : Reloads session site .reload site
  | notice : site.watch.closed = false → Reloads session site .notice site
  | fileEvent {event : FileEvent} {observer : Observer} :
      site.observers.getLast? = some observer →
      event.canChange && event.touches observer.file site.workspace.herePath →
      site.watch.closed = false →
      Reloads session site (.fileEvent event)
        (site.entered (.recorded (FileSource.changeRecord event)))

/-- However a request is converted, it is the service that carries it out. -/
theorem SessionStep.after_of_converts {session : Session} {site : Site} {step : SessionStep}
    {request : ServiceRequest} (converts : step.converts? = some request) :
    step.after session site = (session.service.execute request).after site := by
  cases step with
  | run asked =>
      cases converts
      exact Service.after_run request site
  | convert asked =>
      cases converts
      exact Service.after_convert request site
  | convertOutput asked =>
      cases converts
      exact Service.after_convertOutput request site
  | alter | notice | fileEvent | reload | close => cases converts

namespace Session

variable {session : Session}

/-- A session of which only the reloads publish: each backs the snapshot that it publishes. -/
structure Orderly (session : Session) : Prop where
  reloads : ∀ begun,
    (∃ snapshot left, session.loader.reload begun = .ok snapshot left ∧
      session.loader.Backs begun left) ∨
    ∃ failure left, session.loader.reload begun = .error failure left ∧
      Frame.later.allows begun left
  within : ∀ executable environment,
    (session.service.tool executable environment).Within .bystander
  closes : session.close.Respects .later

theorem orderly_prepare {surroundings : Surroundings} {family : Family}
    (alone : StandsAlone surroundings family) (limit : Option Limit) (file : Path) :
    (prepare surroundings family limit file).Orderly where
  reloads begun :=
    Loader.reload_backs (prepare surroundings family limit file).loader (fun _ _ => rfl)
      (Action.respects_of_after_eq (FileSource.after_source_read file))
      (fun call site => (alone.runner call site).1) begun
  within _ _ :=
    { before := (Surroundings.within_hooksOf alone.ownHooks).before
      runs := alone.runner
      afterwards := (Surroundings.within_hooksOf alone.ownHooks).after }
  closes := Loader.respects_close (FileSource.respects_unsubscribe Frame.later_ignoresObserving)

theorem Orderly.backs_of_reload (orderly : session.Orderly) {begun left : Site}
    {snapshot : Snapshot} (reloaded : session.loader.reload begun = .ok snapshot left) :
    session.loader.Backs begun left := by
  rcases orderly.reloads begun with ⟨_, _, ended, backs⟩ | ⟨_, _, ended, -⟩
  · rw [reloaded] at ended
    cases ended
    exact backs
  · rw [reloaded] at ended
    cases ended

/-- After a reload the current snapshot is backed by it, or nothing was published. -/
theorem Orderly.after_reload (orderly : session.Orderly) (begun : Site) :
    session.loader.Backs begun (session.loader.reload.after begun) ∨
      Frame.later.allows begun (session.loader.reload.after begun) := by
  rcases orderly.reloads begun with ⟨_, left, ended, backs⟩ | ⟨_, left, ended, later⟩
  · rw [Action.after_of_ok ended]
    exact .inl backs
  · rw [Action.after_of_error ended]
    exact .inr later

/-- After a notice of change the current snapshot is backed by the reload that it led to, or nothing
was published. -/
theorem Orderly.after_noticeChange (orderly : session.Orderly) (site : Site) :
    (site.watch.closed = false ∧
      session.loader.Backs site (session.loader.noticeChange.after site)) ∨
    Frame.later.allows site (session.loader.noticeChange.after site) := by
  rcases Loader.after_noticeChange session.loader site with ⟨-, nothing⟩ | ⟨open_, recorded⟩
  · rw [nothing]
    exact .inr (Frame.later.rest site)
  · rcases orderly.after_reload site with backs | later
    · exact .inl ⟨open_, backs.later recorded⟩
    · exact .inr (Frame.later.chain later recorded)

/-- After an event the current snapshot is backed by the reload that it led to, or nothing was
published. -/
theorem Orderly.after_noticeEvent (orderly : session.Orderly) (site : Site) (event : FileEvent) :
    (∃ begun, SessionStep.Reloads session site (.fileEvent event) begun ∧
      session.loader.Backs begun ((session.noticeEvent event).after site)) ∨
    Frame.later.allows site ((session.noticeEvent event).after site) := by
  unfold noticeEvent
  rw [Action.after_get_bind]
  cases observed : site.observers.getLast? with
  | none => exact .inr (Frame.later.rest site)
  | some observer =>
      let handled := FileSource.handle observer.file event session.loader.noticeChange
      have whole : (handled >>= fun _ => pure PUnit.unit : Action Unit).after site =
          handled.after site := by
        rw [Action.after_bind]
        cases handled.ending site <;> rfl
      simp only
      rw [whole, FileSource.after_handle]
      by_cases touched : event.canChange && event.touches observer.file site.workspace.herePath
      · rw [if_pos touched]
        let recorded := site.entered (.recorded (FileSource.changeRecord event))
        rcases orderly.after_noticeChange recorded with ⟨open_, backs⟩ | later
        · exact .inl ⟨recorded, .fileEvent observed touched open_, backs⟩
        · exact .inr (Frame.later.chain (Frame.later_entered site _) later)
      · rw [if_neg touched]
        exact .inr (Frame.later.rest site)

theorem Orderly.respects_execute (orderly : session.Orderly) (request : ServiceRequest) :
    (session.service.execute request).Respects .later :=
  Service.respects_execute Frame.later_ignoresWork Frame.later_ignoresCalls
    (fun executable environment => (orderly.within executable environment).first) request

/-- A step publishes nothing, or it reloads and then the current snapshot is backed by that
reload. -/
theorem Orderly.after_step (orderly : session.Orderly) (site : Site) (step : SessionStep) :
    Frame.later.allows site (step.after session site) ∨
      ∃ begun, step.Reloads session site begun ∧
        session.loader.Backs begun (step.after session site) := by
  cases converting : step.converts? with
  | some request =>
      rw [SessionStep.after_of_converts converting]
      exact .inl (orderly.respects_execute request site)
  | none =>
      cases step with
      | alter workspace => exact .inl (Frame.later.rest site)
      | notice =>
          rcases orderly.after_noticeChange site with ⟨open_, backs⟩ | later
          · exact .inr ⟨site, .notice open_, backs⟩
          · exact .inl later
      | fileEvent event =>
          rcases orderly.after_noticeEvent site event with backs | later
          · exact .inr backs
          · exact .inl later
      | reload =>
          rcases orderly.after_reload site with backs | later
          · exact .inr ⟨site, .reload, backs⟩
          · exact .inl later
      | run | convert | convertOutput => cases converting
      | close => exact .inl (orderly.closes site)

/-! ### Histories -/

/-- The reloads of a history: the one that starts the session, and those of the steps. -/
inductive Reloaded (session : Session) (initial opened : Site) (steps : List SessionStep) :
    Site → Prop
  | starting : Reloaded session initial opened steps initial
  | inStep {before after : List SessionStep} {step : SessionStep} {begun : Site} :
      steps = before ++ step :: after →
      step.Reloads session (session.afterAll opened before) begun →
      Reloaded session initial opened steps begun

theorem Reloaded.concat {initial opened begun : Site} {steps : List SessionStep}
    (reloaded : session.Reloaded initial opened steps begun) (step : SessionStep) :
    session.Reloaded initial opened (steps ++ [step]) begun := by
  cases reloaded with
  | starting => exact .starting
  | inStep split reloads =>
      rw [split, List.append_assoc]
      exact .inStep rfl reloads

/-- Whatever the history, the current snapshot is backed by one of its reloads. -/
theorem Orderly.backs_afterAll (orderly : session.Orderly) {initial opened : Site}
    (started : session.loader.Backs initial opened) (steps : List SessionStep) :
    ∃ begun, session.Reloaded initial opened steps begun ∧
      session.loader.Backs begun (session.afterAll opened steps) := by
  induction steps using List.reverseRecOn with
  | nil => exact ⟨initial, .starting, started⟩
  | append_singleton steps step inductionHypothesis =>
      obtain ⟨begun, reloaded, backs⟩ := inductionHypothesis
      have reached : session.afterAll opened (steps ++ [step]) =
          step.after session (session.afterAll opened steps) := List.foldl_append
      rw [reached]
      rcases orderly.after_step (session.afterAll opened steps) step with
        later | ⟨anew, reloads, publishes⟩
      · exact ⟨begun, reloaded.concat step, backs.later later⟩
      · exact ⟨anew, .inStep rfl reloads, publishes⟩

/-- A session that starts is that of its family, and its first snapshot is backed by the reload that
starts it. -/
theorem backs_of_start {surroundings : Surroundings} {family : Family} {options : SessionOptions}
    {site opened : Site} (alone : StandsAlone surroundings family)
    (started : start surroundings family options site = .ok session opened) :
    ∃ file, session = prepare surroundings family options.limit file ∧
      session.loader.Backs (seeded family options site) opened := by
  unfold start at started
  rw [Action.get_bind] at started
  obtain ⟨_, _, seeding, rest⟩ := Action.bind_eq_ok.mp started
  cases seeding
  by_cases watched : options.watch = true
  · rw [if_pos watched] at rest
    obtain ⟨snapshot, left, loaded, ended⟩ := Action.bind_eq_ok.mp rest
    cases ended
    obtain ⟨middle, reloaded, later⟩ :=
      Loader.reload_of_start
        (FileSource.respects_subscribe Frame.later_ignoresObserving _) loaded
    exact ⟨_, rfl, ((orderly_prepare alone _ _).backs_of_reload reloaded).later later⟩
  · rw [if_neg watched] at rest
    obtain ⟨snapshot, left, loaded, ended⟩ := Action.bind_eq_ok.mp rest
    cases ended
    exact ⟨_, rfl, (orderly_prepare alone _ _).backs_of_reload loaded⟩

/-- A format is only ever offered with the executable and the environment against which it was
probed. Whatever happened to a session since it started, the current snapshot is backed by the last
reload that published. A conversion makes at most one call, which is for an active format and in the
environment of the snapshot. The hook before the run is handed a command that begins with the
executable of the snapshot, the call begins with what the hook makes of it, and the probe call that
was made with this executable and this environment announced the code of the format. Where the hooks
leave the executable at the front, as those that no family brings along do, it is what is run. -/
theorem converts_only_what_was_announced {surroundings : Surroundings} {family : Family}
    {options : SessionOptions} {initial opened : Site}
    (started : start surroundings family options initial = .ok session opened)
    (alone : StandsAlone surroundings family) (steps : List SessionStep) :
    let probe := family.probe surroundings.runner
    let site := session.afterAll opened steps
    let snapshot := site.registry.snapshot
    let tool := session.service.toolOf snapshot
    ∃ begun, session.Reloaded (seeded family options initial) opened steps begun ∧
      session.loader.Backs begun site ∧
      ∀ (step : SessionStep) (request : ServiceRequest), step.converts? = some request →
        (step.after session site).calls = site.calls ∨
        ∃ format call found context adjusted,
          (step.after session site).calls = site.calls ++ [(call, found)] ∧
          site.registry.get? request.formatName = some format ∧
          tool.executable = snapshot.executable ∧ tool.environment = snapshot.environment ∧
          tool.hooks = surroundings.hooksOf family ∧ tool.Follows call context adjusted ∧
          (KeepsExecutable surroundings family →
            ∃ rest, call.argv = snapshot.executable :: rest) ∧
          (∃ before, (probe.probeCall snapshot.executable (some snapshot.environment), before) ∈
            site.calls) ∧
          format.toolCode ∈ probe.announcedAt snapshot.executable snapshot.environment
            (session.loader.askedAt snapshot.executable snapshot.environment begun) := by
  obtain ⟨file, rfl, backsFirst⟩ := backs_of_start alone started
  have orderly := orderly_prepare alone options.limit file
  obtain ⟨begun, reloaded, backs⟩ := orderly.backs_afterAll backsFirst steps
  refine ⟨begun, reloaded, backs, fun step request converts => ?_⟩
  rw [SessionStep.after_of_converts converts]
  rcases Service.calls_after_execute
      (fun executable environment => (orderly.within executable environment).second) request _ with
    nothing | ⟨format, call, found, _, active, reaches, one⟩
  · exact .inl nothing
  · obtain ⟨context, adjusted, follows⟩ := Tool.exists_follows_of_reaches reaches
    have offered := List.mem_map_of_mem (f := Prod.snd) (Association.mem_of_find? active)
    exact .inr ⟨format, call, found, context, adjusted, one, active, rfl, rfl, rfl, follows,
      fun keeps => follows.front (Surroundings.keepExecutable_hooksOf keeps),
      backs.probeCall_mem_calls, backs.announced format offered⟩

end Session

/-! ### A session whose configuration names another executable -/

/-- Every command announces one format. -/
def pdfSurroundings : Surroundings where
  runner := fun _ => pure ⟨0, "  PDF: Geospatial PDF\n"⟩
  systems := Geodesy.library { systems := [], reason := "unknown" }

/-- A configuration of another executable. -/
def renamedFile : List UInt8 :=
  Text.Utf8.encode ("<ToolConfiguration><executable>translate</executable><formats><Format>"
    ++ "<toolFormat>PDF</toolFormat><formatName>PDF</formatName></Format></formats>"
    ++ "</ToolConfiguration>")

/-- The configuration appears, which is noticed, and the session is closed. A further notice does
nothing. -/
def configured : List SessionStep :=
  [.alter { here := [], entries := [(["gdal_translate.xml"], .file renamedFile)] },
    .fileEvent ⟨.created, .text (.ofString "gdal_translate.xml"), none⟩, .close, .notice]

/-- A request for the format of the configuration. -/
def pdfRequest : ServiceRequest where
  input := ⟨.single, ["in.tif"]⟩
  directory := ⟨.single, ["out"]⟩
  typeName := "t"
  formatName := "PDF"

theorem pdfSurroundings_standsAlone : Session.StandsAlone pdfSurroundings .gdal where
  runner _ := Action.respects_pure _
  ownHooks _ brought := by cases brought

/-- The site without files at which the session starts. -/
def bareSite : Site := { workspace := { here := [], entries := [] } }

/-- The conversion runs the executable that the configuration names, which has been asked before. -/
theorem configured_session_converts_only_what_was_announced :
    Session.StandsAlone pdfSurroundings .gdal ∧
    ∃ session opened begun, Session.start pdfSurroundings .gdal {} bareSite = .ok session opened ∧
      let site := session.afterAll opened configured
      session.loader.Backs begun site ∧ site.registry.generation = 2 ∧
      ((SessionStep.run pdfRequest).after session site).calls.map (·.1.argv) =
        [["gdal_translate", "--long-usage"], ["translate", "--long-usage"],
          ["translate", "-of", "PDF", "/in.tif", "/out/t"]] ∧
      ∃ format, site.registry.get? "PDF" = some format ∧
        format.toolCode ∈ (Family.gdal.probe pdfSurroundings.runner).announcedAt
          site.registry.snapshot.executable site.registry.snapshot.environment
          (session.loader.askedAt site.registry.snapshot.executable
            site.registry.snapshot.environment begun) := by
  have evaluated : (match Session.start pdfSurroundings .gdal {} bareSite with
      | .ok session opened =>
          let site := session.afterAll opened configured
          some (site.registry.generation, site.calls.length,
            ((SessionStep.run pdfRequest).after session site).calls.map (·.1.argv))
      | .error _ _ => none) =
        some (2, 2, [["gdal_translate", "--long-usage"], ["translate", "--long-usage"],
          ["translate", "-of", "PDF", "/in.tif", "/out/t"]]) := by decide +kernel
  refine ⟨pdfSurroundings_standsAlone, ?_⟩
  cases started : Session.start pdfSurroundings .gdal {} bareSite with
  | error failure left =>
      rw [started] at evaluated
      cases evaluated
  | ok session opened =>
      rw [started] at evaluated
      simp only [Option.some.injEq, Prod.mk.injEq] at evaluated
      obtain ⟨generation, before, argv⟩ := evaluated
      obtain ⟨begun, -, backs, conversions⟩ := Session.converts_only_what_was_announced started
        pdfSurroundings_standsAlone configured
      refine ⟨session, opened, begun, rfl, backs, generation, argv, ?_⟩
      rcases conversions (.run pdfRequest) pdfRequest rfl with
        nothing | ⟨format, _, _, _, _, _, active, _, _, _, _, _, _, announced⟩
      · rw [nothing] at argv
        have longer := congrArg List.length argv
        rw [List.length_map, before] at longer
        cases longer
      · exact ⟨format, active, announced⟩

/-- A family that brings along a hook which replaces the command. -/
def replacingSurroundings : Surroundings :=
  { pdfSurroundings with ownHooks := fun _ => some { before := fun _ => pure ["other"] } }

theorem replacingSurroundings_standsAlone : Session.StandsAlone replacingSurroundings .gdal where
  runner _ := Action.respects_pure _
  ownHooks _ brought := by
    cases brought
    exact ⟨fun _ => Action.respects_pure _, fun _ => Action.respects_pure _⟩

/-- With such a hook a conversion runs an executable that has never been asked. -/
theorem replacing_hook_runs_what_was_not_announced :
    let step := SessionStep.run { pdfRequest with formatName := "GDAL-PDF" }
    Session.StandsAlone replacingSurroundings .gdal ∧
    ∃ session opened,
      Session.start replacingSurroundings .gdal {} bareSite = .ok session opened ∧
      opened.registry.snapshot.executable = "gdal_translate" ∧
      opened.calls.map (·.1.argv) = [["gdal_translate", "--long-usage"]] ∧
      (step.after session opened).calls.map (·.1.argv) =
        [["gdal_translate", "--long-usage"], ["other", "/in.tif", "/out/t.pdf"]] := by
  intro step
  have evaluated : (match Session.start replacingSurroundings .gdal {} bareSite with
      | .ok session opened =>
          some (opened.registry.snapshot.executable, opened.calls.map (·.1.argv),
            (step.after session opened).calls.map (·.1.argv))
      | .error _ _ => none) =
        some ("gdal_translate", [["gdal_translate", "--long-usage"]],
          [["gdal_translate", "--long-usage"], ["other", "/in.tif", "/out/t.pdf"]]) := by
    decide +kernel
  refine ⟨replacingSurroundings_standsAlone, ?_⟩
  cases started : Session.start replacingSurroundings .gdal {} bareSite with
  | error failure left =>
      rw [started] at evaluated
      cases evaluated
  | ok session opened =>
      rw [started] at evaluated
      simp only [Option.some.injEq, Prod.mk.injEq] at evaluated
      exact ⟨session, opened, rfl, evaluated⟩

end GeoBridge
