import Mathlib.Tactic.Choose
import GeoBridge.Crs.Geodesy
import GeoBridge.Proofs.ConversionPhases
import GeoBridge.Proofs.Services

/-!
Owns conversions of a service during which others publish snapshots.

Owns:
- actions that do the same whatever is in the registry, but for what they publish;
- the runs of a tool with publications between their steps, which end as they do without;
- conversions of a service amid publications, each of which sees one snapshot only.
-/

namespace GeoBridge

/-! ### Publications -/

/-- Publish some snapshots, one after the other. -/
def Registry.publishAll (registry : Registry) (snapshots : List Snapshot) : Registry :=
  snapshots.foldl Registry.publish registry

namespace Registry

theorem publishAll_append (registry : Registry) (first further : List Snapshot) :
    registry.publishAll (first ++ further) = (registry.publishAll first).publishAll further :=
  List.foldl_append

/-- The snapshot after some publications is the last that was published. -/
theorem snapshot_publishAll (registry : Registry) (snapshots : List Snapshot) :
    (registry.publishAll snapshots).snapshot = snapshots.getLastD registry.snapshot := by
  induction snapshots generalizing registry with
  | nil => rfl
  | cons snapshot rest inductionHypothesis =>
      rw [List.getLastD_cons]
      exact inductionHypothesis (registry.publish snapshot)

end Registry

namespace Action

variable {α β : Type} {action other : Action α} {quiet : Bool}

/-- Publish some snapshots, one after the other. -/
def publishAll : List Snapshot → Action Unit
  | [] => pure ()
  | snapshot :: rest => do
      Loader.publish snapshot
      publishAll rest

theorem publishAll_eq (snapshots : List Snapshot) (site : Site) :
    publishAll snapshots site =
      .ok () { site with registry := site.registry.publishAll snapshots } := by
  induction snapshots generalizing site with
  | nil => rfl
  | cons snapshot rest inductionHypothesis => exact inductionHypothesis _

/-! ### Actions beside the registry -/

/-- An action ends as another does, whatever is in the registry, and leaves the same behind but for
the registry, to which it may publish something. A quiet one publishes nothing. -/
structure Repeats (quiet : Bool) (action other : Action α) : Prop where
  ending : ∀ (site : Site) (registry : Registry),
    action.ending { site with registry } = other.ending site
  after : ∀ (site : Site) (registry : Registry), ∃ published : List Snapshot,
    (quiet = true → published = []) ∧ action.after { site with registry } =
      { other.after site with registry := registry.publishAll published }

/-- An action neither looks at the registry nor changes it. -/
def IgnoresRegistry (action : Action α) : Prop := action.Repeats true action

theorem repeats_of_same
    (same : ∀ (site : Site) (registry : Registry),
      action.ending { site with registry } = action.ending site ∧
        action.after { site with registry } = { action.after site with registry }) :
    action.Repeats quiet action where
  ending site registry := (same site registry).1
  after site registry := ⟨[], fun _ => rfl, (same site registry).2⟩

theorem repeats_pure (value : α) : Repeats quiet (pure value) (pure value) :=
  repeats_of_same fun _ _ => ⟨rfl, rfl⟩

theorem repeats_throw (failure : Failure) :
    Repeats quiet (throw failure : Action α) (throw failure) :=
  repeats_of_same fun _ _ => ⟨rfl, rfl⟩

theorem repeats_ofExcept (result : Except Failure α) :
    (ofExcept result).Repeats quiet (ofExcept result) := by
  cases result with
  | ok value => exact repeats_pure value
  | error failure => exact repeats_throw failure

theorem repeats_enter (event : Event) : (enter event).Repeats quiet (enter event) :=
  repeats_of_same fun _ _ => ⟨rfl, rfl⟩

theorem repeats_here : here.Repeats quiet here := repeats_of_same fun _ _ => ⟨rfl, rfl⟩

theorem Repeats.bind {next otherNext : α → Action β} (first : action.Repeats quiet other)
    (further : ∀ value, (next value).Repeats quiet (otherNext value)) :
    Repeats quiet (action >>= next) (other >>= otherNext) := by
  constructor
  · intro site registry
    obtain ⟨published, -, left⟩ := first.after site registry
    rw [ending_bind, ending_bind, first.ending, left]
    cases other.ending site with
    | ok value => exact (further value).ending _ _
    | error failure => rfl
  · intro site registry
    obtain ⟨published, silent, left⟩ := first.after site registry
    rw [after_bind, after_bind, first.ending, left]
    cases other.ending site with
    | error failure => exact ⟨published, silent, rfl⟩
    | ok value =>
        obtain ⟨more, silentStill, leftThen⟩ :=
          (further value).after (other.after site) (registry.publishAll published)
        refine ⟨published ++ more, fun still => ?_, ?_⟩
        · rw [silent still, silentStill still, List.nil_append]
        · rw [Registry.publishAll_append]
          exact leftThen

theorem Repeats.outcome (repeats : action.Repeats quiet other) :
    action.outcome.Repeats quiet other.outcome := by
  constructor
  · intro site registry
    rw [ending_of_ok (outcome_eq action _), ending_of_ok (outcome_eq other site), repeats.ending]
  · intro site registry
    rw [after_of_ok (outcome_eq action _), after_of_ok (outcome_eq other site)]
    exact repeats.after site registry

theorem Repeats.map (repeats : action.Repeats quiet other) (change : α → β) :
    Repeats quiet (change <$> action) (change <$> other) := by
  constructor
  · intro site registry
    rw [ending_map, ending_map, repeats.ending]
  · intro site registry
    rw [after_map, after_map]
    exact repeats.after site registry

/-- What is asked of the files is answered by the files. -/
theorem repeats_inspecting (path : Path) (answer : Workspace → Except Obstacle α) :
    (inspecting path answer).Repeats quiet (inspecting path answer) := by
  refine repeats_of_same fun site registry => ⟨?_, ?_⟩
  · rw [ending_inspecting, ending_inspecting]
  · rw [after_inspecting, after_inspecting]

theorem repeats_writeFile (path : Path) (octets : List UInt8) :
    (writeFile path octets).Repeats quiet (writeFile path octets) :=
  (repeats_inspecting path _).bind fun _ => repeats_of_same fun _ _ => ⟨rfl, rfl⟩

theorem repeats_isDirectory (path : Path) :
    (isDirectory path).Repeats quiet (isDirectory path) :=
  (repeats_inspecting path _).bind fun _ => repeats_pure _

theorem repeats_removeFile (path : Path) : (removeFile path).Repeats quiet (removeFile path) := by
  refine repeats_of_same fun site registry => ?_
  unfold removeFile ending after
  rw [get_bind, get_bind]
  cases site.workspace.unlink path with
  | ok changed => exact ⟨rfl, rfl⟩
  | error obstacle => cases obstacle <;> exact ⟨rfl, rfl⟩

/-- An action that looks at the site, but not at the registry. -/
theorem repeats_get_bind {next : Site → Action α}
    (same : ∀ (site : Site) (registry : Registry), next { site with registry } = next site)
    (further : ∀ site, (next site).Repeats quiet (next site)) :
    Repeats quiet ((get : Action Site) >>= next) ((get : Action Site) >>= next) := by
  constructor
  · intro site registry
    show (next { site with registry }).ending { site with registry } = (next site).ending site
    rw [same]
    exact (further site).ending site registry
  · intro site registry
    rw [after_get_bind, after_get_bind, same]
    exact (further site).after site registry

theorem Repeats.iterate {step otherStep : α → Action α}
    (repeats : ∀ value, (step value).Repeats quiet (otherStep value)) (count : Nat) (value : α) :
    (iterate step count value).Repeats quiet (iterate otherStep count value) := by
  induction count generalizing value with
  | zero => exact repeats_pure value
  | succ count inductionHypothesis => exact (repeats value).bind inductionHypothesis

theorem Repeats.of_ok (repeats : action.Repeats quiet other) {site left : Site} {value : α}
    (ended : other site = .ok value left) (registry : Registry) :
    ∃ published, (quiet = true → published = []) ∧ action { site with registry } =
      .ok value { left with registry := registry.publishAll published } := by
  have ending := repeats.ending site registry
  obtain ⟨published, silent, after⟩ := repeats.after site registry
  rw [ending_of_ok ended] at ending
  rw [after_of_ok ended] at after
  refine ⟨published, silent, ?_⟩
  cases beside : action { site with registry } with
  | ok found there =>
      rw [ending_of_ok beside] at ending
      rw [after_of_ok beside] at after
      cases ending
      rw [after]
  | error failure there =>
      rw [ending_of_error beside] at ending
      cases ending

theorem IgnoresRegistry.of_ok (ignores : action.IgnoresRegistry) {site left : Site} {value : α}
    (ended : action site = .ok value left) (registry : Registry) :
    action { site with registry } = .ok value { left with registry } := by
  obtain ⟨published, silent, beside⟩ := Repeats.of_ok ignores ended registry
  rw [beside, silent rfl]
  rfl

theorem IgnoresRegistry.registry_of_ok (ignores : action.IgnoresRegistry) {site left : Site}
    {value : α} (ended : action site = .ok value left) : left.registry = site.registry := by
  have again : action site = .ok value { left with registry := site.registry } :=
    ignores.of_ok ended site.registry
  rw [ended] at again
  have kept := congrArg Site.registry (EStateM.Result.ok.inj again).2
  exact kept

end Action

namespace Crs

variable {quiet : Bool}

theorem repeats_createSideFile (device : Device) (naming : Naming) (directory : Path) :
    (createSideFile device naming directory).Repeats quiet
      (createSideFile device naming directory) := by
  refine Action.repeats_get_bind (fun _ _ => rfl) fun site => ?_
  split
  · exact Action.repeats_throw _
  · exact (Action.repeats_writeFile _ _).bind fun _ => Action.repeats_pure _

theorem repeats_writeSideFile (device : Device) (path : Path) (text : Text.WideText) :
    (writeSideFile device path text).Repeats quiet (writeSideFile device path text) := by
  refine Action.repeats_get_bind (fun _ _ => rfl) fun site => ?_
  refine (Action.repeats_writeFile _ _).bind fun _ => ?_
  split
  · exact Action.repeats_throw _
  · exact Action.repeats_pure ()

theorem repeats_fillSideFile (device : Device) (path : Path) (text : Text.WideText) :
    (fillSideFile device path text).Repeats quiet (fillSideFile device path text) := by
  refine (repeats_writeSideFile device path text).outcome.bind fun ended => ?_
  split
  · exact Action.repeats_pure ()
  · exact (Action.repeats_removeFile path).bind fun _ => Action.repeats_throw _
  · exact Action.repeats_throw _

theorem repeats_stage (library : CrsLibrary) (directory : Path) (crs : Crs) (naming : Naming) :
    (stage library directory crs naming).Repeats quiet (stage library directory crs naming) := by
  refine (Action.repeats_ofExcept _).bind fun text => ?_
  refine (repeats_createSideFile .plain naming directory).bind fun path => ?_
  refine (repeats_fillSideFile .plain path text).bind fun _ => ?_
  exact (Action.repeats_enter _).bind fun _ => Action.repeats_pure path

end Crs

namespace Tool

variable {tool : Tool} {request : Request} {hooks : Hooks} {runner : Runner} {quiet : Bool}
  {site left : Site} {phase : ConversionPhase} {snapshots published : List Snapshot}
  {result : Except Failure Conversion}

/-- The tool with other hooks and another runner. -/
def under (tool : Tool) (hooks : Hooks) (runner : Runner) : Tool := { tool with hooks, runner }

/-- Hooks and a runner do what those of a tool do, but for what they publish. -/
structure IsRepeatedBy (tool : Tool) (quiet : Bool) (hooks : Hooks) (runner : Runner) : Prop where
  before : ∀ context, (hooks.before context).Repeats quiet (tool.hooks.before context)
  runs : ∀ call, (runner call).Repeats quiet (tool.runner call)
  afterwards : ∀ exitCode, (hooks.after exitCode).Repeats quiet (tool.hooks.after exitCode)

/-- The hooks of a tool and its runner neither look at the registry nor change it. -/
def IgnoresRegistry (tool : Tool) : Prop := tool.IsRepeatedBy true tool.hooks tool.runner

theorem repeats_stage (tool : Tool) (request : Request) :
    (tool.stage request).Repeats quiet (tool.stage request) := by
  unfold stage
  split
  · exact Action.repeats_pure none
  · split
    · exact (Action.repeats_enter _).bind fun _ => Action.repeats_pure none
    · refine Action.repeats_here.bind fun here => ?_
      refine (Crs.repeats_stage _ _ _ _).outcome.bind fun staged => ?_
      split
      · exact Action.repeats_pure _
      · exact Action.repeats_throw _
      · exact Action.repeats_throw _

theorem repeats_discard (sideFile : Option Path) :
    (discard sideFile).Repeats quiet (discard sideFile) := by
  cases sideFile with
  | none => exact Action.repeats_pure ()
  | some path => exact Action.repeats_removeFile path

theorem repeats_produced (request : Request) (path : Path) :
    (produced request path).Repeats quiet (produced request path) := by
  refine (Action.repeats_isDirectory path).bind fun isDirectory => ?_
  cases isDirectory <;> exact Action.repeats_pure _

theorem repeats_judge (tool : Tool) (request : Request) (command : List String)
    (outcome : CommandOutcome) :
    (tool.judge request command outcome).Repeats quiet (tool.judge request command outcome) := by
  unfold judge
  by_cases failed : (outcome.exitCode != 0) = true
  · rw [if_pos failed]
    exact Action.repeats_of_same fun _ _ => ⟨rfl, rfl⟩
  · rw [if_neg failed]
    refine Action.repeats_here.bind fun here => ?_
    exact (repeats_produced request _).bind fun path => Action.repeats_pure _

theorem repeats_settle (tool : Tool) (request : Request)
    (ended : Except Failure (List String × CommandOutcome)) (concluded : Except Failure Unit) :
    (tool.settle request ended concluded).Repeats quiet (tool.settle request ended concluded) :=
  (Action.repeats_ofExcept concluded).bind fun _ =>
    (Action.repeats_ofExcept ended).bind fun outcome =>
      repeats_judge tool request outcome.1 outcome.2

/-- Hooks and runner apart, no step of a conversion has to do with the registry. -/
theorem IsRepeatedBy.advance (repeated : tool.IsRepeatedBy quiet hooks runner) (request : Request)
    (phase : ConversionPhase) :
    ((tool.under hooks runner).advance request phase).Repeats quiet
      (tool.advance request phase) := by
  cases phase with
  | ready => exact (repeats_stage tool request).outcome.map _
  | staged sideFile =>
      have prepares : ((tool.under hooks runner).prepare request sideFile).Repeats quiet
          (tool.prepare request sideFile) :=
        (Action.repeats_enter _).bind fun _ => (repeated.before _).bind fun _ =>
          Action.repeats_here.bind fun _ => Action.repeats_pure _
      exact prepares.outcome.map _
  | prepared sideFile command =>
      exact Action.repeats_get_bind (fun _ _ => rfl) fun _ =>
        (Action.repeats_enter _).bind fun _ => Action.repeats_pure _
  | running sideFile command => exact (repeated.runs _).outcome.map _
  | ran sideFile ended =>
      have notifies : ((tool.under hooks runner).notifyAfter (reportedExitCode ended)).Repeats quiet
          (tool.notifyAfter (reportedExitCode ended)) :=
        (Action.repeats_enter _).bind fun _ => repeated.afterwards _
      exact notifies.outcome.map _
  | told sideFile ended hooked => exact (repeats_discard sideFile).outcome.map _
  | removed ended concluded => exact (repeats_settle tool request ended concluded).outcome.map _
  | ended result => exact Action.repeats_pure _

theorem IgnoresRegistry.advance (ignores : tool.IgnoresRegistry) (request : Request)
    (phase : ConversionPhase) : (tool.advance request phase).IgnoresRegistry :=
  IsRepeatedBy.advance ignores request phase

/-! ### Runs amid publications -/

/-- A run goes on from a phase to its end, with a result, while others publish: it makes its steps
one after the other, and before and after each of them snapshots may be published. -/
inductive GoesOn (tool : Tool) (request : Request) :
    ConversionPhase → Site → List Snapshot → Except Failure Conversion → Site → Prop
  | ended {result : Except Failure Conversion} {site : Site} :
      GoesOn tool request (.ended result) site [] result site
  | step {phase next : ConversionPhase} {site between left : Site} {published : List Snapshot}
      {result : Except Failure Conversion}
      (stepped : tool.advance request phase site = .ok next between)
      (onward : GoesOn tool request next between published result left) :
      GoesOn tool request phase site published result left
  | publish {phase : ConversionPhase} {site left : Site} (snapshot : Snapshot)
      {published : List Snapshot} {result : Except Failure Conversion}
      (onward : GoesOn tool request phase { site with registry := site.registry.publish snapshot }
        published result left) :
      GoesOn tool request phase site (snapshot :: published) result left

/-- Without the publications the same steps lead to the same result. -/
theorem GoesOn.iterate (ignores : tool.IgnoresRegistry)
    (goesOn : tool.GoesOn request phase site published result left) :
    ∃ count alone,
      Action.iterate (tool.advance request) count phase site = .ok (.ended result) alone ∧
      left = { alone with registry := site.registry.publishAll published } := by
  have repeats := Action.Repeats.iterate (ignores.advance request)
  induction goesOn with
  | ended => exact ⟨0, _, rfl, rfl⟩
  | step stepped _ inductionHypothesis =>
      obtain ⟨count, alone, reached, rfl⟩ := inductionHypothesis
      rw [(ignores.advance request _).registry_of_ok stepped]
      exact ⟨count + 1, alone, (Action.iterate_succ stepped count).trans reached, rfl⟩
  | @publish phase site left snapshot published result _ inductionHypothesis =>
      obtain ⟨count, alone, reached, rfl⟩ := inductionHypothesis
      have beside := Action.IgnoresRegistry.of_ok (repeats count phase) reached site.registry
      exact ⟨count, { alone with registry := site.registry }, beside, rfl⟩

/-- Whatever is in the registry, a run ends as it does, and leaves it alone. -/
theorem IgnoresRegistry.run (ignores : tool.IgnoresRegistry) (request : Request) (site : Site)
    (registry : Registry) :
    (tool.run request).ending { site with registry } = (tool.run request).ending site ∧
      (tool.run request).after { site with registry } =
        { (tool.run request).after site with registry } := by
  have beside := Action.IgnoresRegistry.of_ok
    (Action.Repeats.iterate (ignores.advance request) 7 .ready) (iterate_ready tool request site)
    registry
  rw [iterate_ready] at beside
  obtain ⟨ended, left⟩ := EStateM.Result.ok.inj beside
  exact ⟨ConversionPhase.ended.inj ended, left⟩

/-- Whatever is in the registry, a run amid publications ends as the run of the tool does, and
leaves the same behind but for the registry, to which these publications were added. -/
theorem GoesOn.run {registry : Registry} (ignores : tool.IgnoresRegistry)
    (goesOn : tool.GoesOn request .ready { site with registry } published result left) :
    result = (tool.run request).ending site ∧
      left = { (tool.run request).after site with registry := registry.publishAll published } := by
  obtain ⟨count, alone, reached, rfl⟩ := goesOn.iterate ignores
  have further : Action.iterate (tool.advance request) (count + 7) .ready { site with registry } =
      .ok (.ended result) alone := by
    rw [Action.iterate_add, Action.bind_of_ok reached]
    exact iterate_ended tool request alone 7 result
  have whole : Action.iterate (tool.advance request) (7 + count) .ready { site with registry } =
      .ok (.ended ((tool.run request).ending { site with registry }))
        ((tool.run request).after { site with registry }) := by
    rw [Action.iterate_add, Action.bind_of_ok (iterate_ready tool request _)]
    exact iterate_ended tool request _ count _
  obtain ⟨ended, reachedAlone⟩ := ignores.run request site registry
  rw [Nat.add_comm, whole, ended, reachedAlone] at further
  cases further
  exact ⟨rfl, rfl⟩

theorem GoesOn.publishAll
    (goesOn : tool.GoesOn request phase
      { site with registry := site.registry.publishAll snapshots } published result left) :
    tool.GoesOn request phase site (snapshots ++ published) result left := by
  induction snapshots generalizing site with
  | nil => exact goesOn
  | cons snapshot rest inductionHypothesis => exact .publish snapshot (inductionHypothesis goesOn)

/-- Where hooks and runner publish besides what they do, the run is one amid publications. -/
theorem goesOn_of_iterate (ignores : tool.IgnoresRegistry)
    (repeated : tool.IsRepeatedBy false hooks runner) {count : Nat}
    (reached : Action.iterate ((tool.under hooks runner).advance request) count phase site =
      .ok (.ended result) left) :
    ∃ published, tool.GoesOn request phase site published result left := by
  induction count generalizing phase site with
  | zero =>
      cases reached
      exact ⟨[], .ended⟩
  | succ count inductionHypothesis =>
      obtain ⟨next, between, stepped, rest⟩ := Action.bind_eq_ok.mp reached
      obtain ⟨nextAlone, alone, steppedAlone⟩ := tool.advance_total request site phase
      obtain ⟨published, -, beside⟩ :=
        (repeated.advance request phase).of_ok steppedAlone site.registry
      obtain ⟨rfl, rfl⟩ := EStateM.Result.ok.inj (stepped.symm.trans beside)
      obtain ⟨more, onward⟩ := inductionHypothesis rest
      rw [← (ignores.advance request phase).registry_of_ok steppedAlone] at onward
      exact ⟨published ++ more, .step steppedAlone onward.publishAll⟩

theorem goesOn_of_repeated (ignores : tool.IgnoresRegistry)
    (repeated : tool.IsRepeatedBy false hooks runner) (request : Request) (site : Site) :
    ∃ published, tool.GoesOn request .ready site published
      (((tool.under hooks runner).run request).ending site)
      (((tool.under hooks runner).run request).after site) :=
  goesOn_of_iterate ignores repeated (iterate_ready _ request site)

end Tool

/-! ### Conversions of a service amid publications -/

/-- A service goes about its conversions while others publish: some snapshots before it looks at
the registry, some right after it has looked, and some while a run of a tool goes on. Those that
hooks or a runner publish themselves are among the last. -/
structure Course.IsAmid (course : Course) (service : Service) (before meanwhile : List Snapshot)
    (during : Tool → Request → Site → List Snapshot) : Prop where
  looks : course.look = do
    Action.publishAll before
    let snapshot ← Action.snapshot
    Action.publishAll meanwhile
    pure snapshot
  carriesOut : ∀ executable environment request site,
    let tool := service.tool executable environment
    let carrying := course.carryOut tool request
    tool.GoesOn request .ready site (during tool request site) (carrying.ending site)
      (carrying.after site)

namespace Service

variable {service : Service} {course : Course} {before meanwhile : List Snapshot}
  {during : Tool → Request → Site → List Snapshot}

/-- What others publish once a conversion has taken its snapshot, at a site where nothing else has
happened yet: as long as it looks, and as long as the tool runs, if it comes to that. -/
def publishedAmid (service : Service) (meanwhile : List Snapshot)
    (during : Tool → Request → Site → List Snapshot) (request : ServiceRequest) (taken : Site) :
    List Snapshot :=
  match taken.registry.get? request.formatName with
  | none => meanwhile
  | some format =>
      let looked := { taken with registry := taken.registry.publishAll meanwhile }
      meanwhile ++ during (service.toolOf taken.registry.snapshot) (toolRequest request format)
        (looked.entered (.recorded (beginning request)))

theorem look_of_isAmid (amid : course.IsAmid service before meanwhile during) (site : Site) :
    let taken := { site with registry := site.registry.publishAll before }
    course.look site = .ok taken.registry.snapshot
      { taken with registry := taken.registry.publishAll meanwhile } := by
  intro taken
  rw [amid.looks, Action.bind_of_ok (Action.publishAll_eq before site)]
  exact Action.bind_of_ok (Action.publishAll_eq meanwhile taken)

/-- Amid publications a conversion ends as it does without, at the registry that it finds when it
looks, and leaves the same behind but for what was published since. -/
theorem execute_amid
    (ignores : ∀ executable environment, (service.tool executable environment).IgnoresRegistry)
    (amid : course.IsAmid service before meanwhile during) (request : ServiceRequest)
    (site : Site) :
    let taken := { site with registry := site.registry.publishAll before }
    let published := service.publishedAmid meanwhile during request taken
    (service.execute request course).ending site = (service.execute request).ending taken ∧
      (service.execute request course).after site =
        { (service.execute request).after taken with
          registry := taken.registry.publishAll published } := by
  intro taken published
  have looked := look_of_isAmid amid site
  cases found : taken.registry.get? request.formatName with
  | none =>
      have alone : (service.execute request) taken = _ := execute_of_find?_none rfl found
      have beside : service.execute request course site = _ := execute_of_find?_none looked found
      have unlisted : published = meanwhile := by simp only [published, publishedAmid, found]
      rw [Action.ending_of_error beside, Action.after_of_error beside,
        Action.ending_of_error alone, Action.after_of_error alone, unlisted]
      exact ⟨rfl, rfl⟩
  | some format =>
      let tool := service.toolOf taken.registry.snapshot
      let begun := taken.entered (.recorded (beginning request))
      let amidst := { begun with registry := taken.registry.publishAll meanwhile }
      have listed : published =
          meanwhile ++ during tool (toolRequest request format) amidst := by
        simp only [published, publishedAmid, found]
        rfl
      have goesOn : tool.GoesOn (toolRequest request format) .ready amidst _ _ _ :=
        amid.carriesOut _ _ _ _
      obtain ⟨ended, left⟩ := goesOn.run (ignores _ _)
      rw [ending_execute_of_find? looked found, after_execute_of_find? looked found,
        ending_execute_of_find? rfl found, after_execute_of_find? rfl found, listed,
        Registry.publishAll_append]
      exact ⟨congrArg _ ended, left⟩

/-- A conversion sees one snapshot, however it is asked for: the one that is current when it looks at
the registry. Whatever comes to be published since, while it looks or while the tool runs, it ends
as it would end without: with the same result, the same tagged output or the same failure. It leaves
the same behind but for the registry, and so makes the same calls. The registry holds all that was
published, and the last of it is the snapshot that the next conversion looks at. -/
theorem conversion_sees_one_snapshot
    (ignores : ∀ executable environment, (service.tool executable environment).IgnoresRegistry)
    (amid : course.IsAmid service before meanwhile during) (request : ServiceRequest)
    (site : Site) :
    let taken := { site with registry := site.registry.publishAll before }
    let published := service.publishedAmid meanwhile during request taken
    let alone := (service.execute request).after taken
    let left := (service.execute request course).after site
    (service.run request course).ending site = (service.run request).ending taken ∧
    (service.convert request course).ending site = (service.convert request).ending taken ∧
    (service.convertOutput request course).ending site =
      (service.convertOutput request).ending taken ∧
    ((service.run request course).after site = left ∧
      (service.convert request course).after site = left ∧
      (service.convertOutput request course).after site = left) ∧
    left = { alone with registry := taken.registry.publishAll published } ∧
    left.calls = alone.calls ∧
    Action.snapshot left = .ok (published.getLastD taken.registry.snapshot) left := by
  intro taken published alone left
  obtain ⟨ended, reached⟩ := execute_amid ignores amid request site
  have registry : left.registry = taken.registry.publishAll published :=
    congrArg Site.registry reached
  have called := congrArg Site.calls reached
  refine ⟨?_, ?_, ?_, ⟨after_run request site, after_convert request site,
    after_convertOutput request site⟩, reached, called, ?_⟩
  · rw [ending_run, ending_run, ended]
  · rw [ending_convert, ending_convert, ended]
  · rw [ending_convertOutput, ending_convertOutput, ended]
  · rw [← Registry.snapshot_publishAll, ← registry]
    rfl

end Service

/-! ### A conversion whose format is taken away -/

/-- A service whose runner succeeds with any command. -/
def obligingService : Service where
  tool executable environment :=
    { executable, environment
      profile := .gdalTranslate
      runner := fun _ => pure ⟨0, ""⟩
      systems := Geodesy.library { systems := [], reason := "unknown" } }

theorem obligingService_ignoresRegistry (executable : String) (environment : Environment) :
    (obligingService.tool executable environment).IgnoresRegistry where
  before _ := Action.repeats_pure _
  runs _ := Action.repeats_pure _
  afterwards _ := Action.repeats_pure _

/-- A snapshot with one format, by the executable. -/
def pageSnapshot (executable : String) : Snapshot :=
  .build executable [] [{ toolCode := "PDF", publicName := "GDAL-PDF", extension := some ".pdf" }]

/-- A runner that does the same, while another tool comes to offer the format. -/
def rivalRunner : Runner := fun _ => do
  Action.publishAll [pageSnapshot "other"]
  pure ⟨0, ""⟩

/-- The format is taken away right after the look at the registry, and offered again by another tool
while the command runs. -/
def disturbedCourse : Course where
  look := do
    Action.publishAll []
    let snapshot ← Action.snapshot
    Action.publishAll [.empty]
    pure snapshot
  carryOut tool request := (tool.under tool.hooks rivalRunner).run request

theorem disturbedCourse_isAmid :
    ∃ during, disturbedCourse.IsAmid obligingService [] [.empty] during := by
  have repeated (executable : String) (environment : Environment) :
      let tool := obligingService.tool executable environment
      tool.IsRepeatedBy false tool.hooks rivalRunner :=
    { before := fun _ => Action.repeats_pure _
      runs := fun _ => ⟨fun _ _ => rfl, fun _ _ => ⟨[pageSnapshot "other"], nofun, rfl⟩⟩
      afterwards := fun _ => Action.repeats_pure _ }
  choose during goesOn using fun executable environment =>
    Tool.goesOn_of_repeated (obligingService_ignoresRegistry executable environment)
      (repeated executable environment)
  exact ⟨fun tool => during tool.executable tool.environment, rfl, goesOn⟩

/-- The conversion ends as it does undisturbed, by the tool that it began with, and the other tool
is the one that the next conversion finds. -/
theorem disturbed_conversion_sees_one_snapshot :
    let site : Site :=
      { workspace := { here := [], entries := [] }
        registry := { snapshot := pageSnapshot "gdal_translate" } }
    let request : ServiceRequest :=
      { input := ⟨.single, ["in.tif"]⟩, directory := ⟨.single, ["out"]⟩, typeName := "t",
        formatName := "GDAL-PDF" }
    let made (executable : String) : Conversion :=
      { outputPath := ⟨.single, ["out", "t.pdf"]⟩, formatName := "GDAL-PDF",
        command := [executable, "-of", "PDF", "/in.tif", "/out/t.pdf"], output := "" }
    let left := (obligingService.execute request disturbedCourse).after site
    (∀ executable environment,
      (obligingService.tool executable environment).IgnoresRegistry) ∧
    (∃ during, disturbedCourse.IsAmid obligingService [] [.empty] during) ∧
    ((obligingService.run request disturbedCourse).ending site).toOption =
      some (made "gdal_translate") ∧
    left.calls = ((obligingService.execute request).after site).calls ∧
    left.registry.snapshot = pageSnapshot "other" ∧
    ((obligingService.run request).ending left).toOption = some (made "other") := by
  intro site request made left
  have whole : ((obligingService.run request).ending site).toOption =
      some (made "gdal_translate") := by
    decide +kernel
  obtain ⟨during, amid⟩ := disturbedCourse_isAmid
  obtain ⟨ran, -, -, -, -, called, -⟩ := Service.conversion_sees_one_snapshot
    obligingService_ignoresRegistry amid request site
  refine ⟨obligingService_ignoresRegistry, ⟨during, amid⟩, ?_, called, ?_, ?_⟩
  · rw [ran]
    exact whole
  · decide +kernel
  · decide +kernel

end GeoBridge
