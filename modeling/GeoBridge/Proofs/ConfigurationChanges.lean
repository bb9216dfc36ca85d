import GeoBridge.FileSource
import GeoBridge.Proofs.BrokenConfiguration
import GeoBridge.Proofs.ReloadPhases
import GeoBridge.Proofs.Watching
import Mathlib.Logic.Relation

/-!
Owns what becomes of changes to a configuration file while a loader starts and watches it.

Owns:
- the state of a loader at work, and the moves by which it comes about: changes of files at any
  moment, the steps of the start, and notices of change that are answered one by one;
- the snapshot that each phase of a reload is bound to publish, as long as the file stays the same;
- the invariant of all moves: unless a change went unnoticed since the file was last read, the
  current snapshot is the one that a reload would publish.
-/

namespace GeoBridge

/-! ### Loaders at work -/

/-- How far the start of a loader has come. -/
inductive StartPhase where
  | loading (phase : ReloadPhase)
  | returned (snapshot : Snapshot)
  | failed (failure : Failure)

/-- Whether the start has returned a snapshot. -/
def StartPhase.hasReturned : StartPhase → Bool
  | .returned _ => true
  | _ => false

theorem StartPhase.exists_of_hasReturned {phase : StartPhase}
    (returned : phase.hasReturned = true) : ∃ snapshot, phase = .returned snapshot := by
  cases phase with
  | returned snapshot => exact ⟨snapshot, rfl⟩
  | loading | failed => cases returned

/-- The end of a start. -/
def StartPhase.ofEnding : Except Failure Snapshot → StartPhase
  | .ok snapshot => .returned snapshot
  | .error failure => .failed failure

/-- A loader at work: the site, its start, the notices of change that wait to be answered, the
reload that answers one, and whether the file has changed since it was last read without anybody
watching it. -/
structure WatchState where
  site : Site
  starting : StartPhase := .loading .begun
  pending : Nat := 0
  answering : Option ReloadPhase := none
  unseen : Bool := false

/-- What can happen next: the file is created, replaced or deleted, or the loader makes a step. -/
inductive WatchMove where
  | change (workspace : Workspace)
  | load
  | subscribe
  | hear
  | answer
  | report
  | close

namespace Site

/-- Whether an observer is running for the subscription that the watch holds. -/
def isWatched (site : Site) : Bool :=
  match site.watch.subscription with
  | some subscription => FileSource.isActive site subscription
  | none => false

end Site

/-- Whether a phase comes before the reading of the file. -/
def ReloadPhase.isBegun : ReloadPhase → Bool
  | .begun => true
  | _ => false

namespace WatchState

variable (loader : Loader)

/-- The file changes. If it is watched, notice is given. -/
def changed (state : WatchState) (workspace : Workspace) : WatchState :=
  if state.site.isWatched then
    { state with site := { state.site with workspace }, pending := state.pending + 1 }
  else { state with site := { state.site with workspace }, unseen := true }

/-- One step of a reload that is under way, and where the state keeps the phase it leads to. -/
def reloading (state : WatchState) (phase : ReloadPhase)
    (keep : WatchState → ReloadPhase → WatchState) : WatchState :=
  match loader.advance phase state.site with
  | .ok next left =>
      keep { state with site := left, unseen := state.unseen && !phase.isBegun } next
  | .error _ _ => state

/-- The state after a move. A move that is not possible changes nothing. -/
def after (state : WatchState) : WatchMove → WatchState
  | .change workspace => state.changed workspace
  | .load =>
      match state.starting with
      | .loading phase =>
          state.reloading loader phase fun left next => { left with starting := .loading next }
      | _ => state
  | .subscribe =>
      match state.starting with
      | .loading (.ended (.ok snapshot)) =>
          match loader.subscribe state.site with
          | .ok _ left => { state with site := left, starting := .returned snapshot }
          | .error failure left => { state with site := left, starting := .failed failure }
      | .loading (.ended (.error failure)) => { state with starting := .failed failure }
      | _ => state
  | .hear =>
      match state.pending, state.answering with
      | waiting + 1, none =>
          { state with
            pending := waiting
            answering := if state.site.watch.closed then none else some .begun }
      | _, _ => state
  | .answer =>
      match state.answering with
      | some phase =>
          state.reloading loader phase fun left next => { left with answering := some next }
      | none => state
  | .report =>
      match state.answering with
      | some (.ended result) =>
          { state with site := (loader.report result).after state.site, answering := none }
      | _ => state
  | .close => { state with site := loader.close.after state.site }

/-- The state after several moves. -/
def afterAll (state : WatchState) (moves : List WatchMove) : WatchState :=
  moves.foldl (fun state move => state.after loader move) state

/-- One step at a loader that follows the file at a path: a move, or a change that leaves the file
itself alone and of which no notice needs to be given. -/
inductive Step (path : Path) : WatchState → WatchState → Prop
  | move (state : WatchState) (move : WatchMove) : Step path state (state.after loader move)
  | changeElsewhere (state : WatchState) (workspace : Workspace)
      (same : workspace.probe path = state.site.workspace.probe path) :
      Step path state { state with site := { state.site with workspace } }

/-! ### The moves together -/

variable {loader : Loader} {state : WatchState} {phase next : ReloadPhase} {left : Site}

theorem afterAll_cons (loader : Loader) (state : WatchState) (move : WatchMove)
    (rest : List WatchMove) :
    state.afterAll loader (move :: rest) = (state.after loader move).afterAll loader rest := rfl

theorem afterAll_append (loader : Loader) (state : WatchState) (first rest : List WatchMove) :
    state.afterAll loader (first ++ rest) = (state.afterAll loader first).afterAll loader rest :=
  List.foldl_append

theorem after_load (state : WatchState)
    (advanced : loader.advance phase state.site = .ok next left) :
    after loader { state with starting := .loading phase } .load =
      { state with
        site := left
        starting := .loading next
        unseen := state.unseen && !phase.isBegun } := by
  rw [after]
  simp only [reloading, advanced]

theorem after_answer (state : WatchState)
    (advanced : loader.advance phase state.site = .ok next left) :
    after loader { state with answering := some phase } .answer =
      { state with
        site := left
        answering := some next
        unseen := state.unseen && !phase.isBegun } := by
  rw [after]
  simp only [reloading, advanced]

/-- A move that makes one step of a reload, made again and again: the reload goes on, wherever the
state keeps its phase. -/
theorem afterAll_replicate {move : WatchMove} (keep : WatchState → ReloadPhase → WatchState)
    (once : ∀ state phase next left, loader.advance phase state.site = .ok next left →
      (keep state phase).after loader move =
        keep { state with site := left, unseen := state.unseen && !phase.isBegun } next)
    (count : Nat) (state : WatchState)
    (advanced : Action.iterate loader.advance count phase state.site = .ok next left) :
    ∃ unseen, (keep state phase).afterAll loader (List.replicate count move) =
      keep { state with site := left, unseen } next := by
  induction count generalizing state phase with
  | zero =>
      cases advanced
      exact ⟨state.unseen, rfl⟩
  | succ count inductionHypothesis =>
      obtain ⟨middle, there, stepped, further⟩ := Action.bind_eq_ok.mp advanced
      rw [List.replicate_succ, afterAll_cons, once state phase middle there stepped]
      exact inductionHypothesis _ further

/-- The moves of a start, with nothing between them, are the start. -/
theorem afterAll_start (loader : Loader) (site : Site) :
    ∃ unseen, afterAll loader { site } (List.replicate 4 .load ++ [.subscribe]) =
      { site := loader.start.after site
        starting := .ofEnding (loader.start.ending site)
        unseen } := by
  obtain ⟨unseen, loaded⟩ :=
    afterAll_replicate (fun state phase => { state with starting := .loading phase })
      (fun state _ _ _ => after_load state) 4 { site } (Loader.iterate_begun loader site)
  refine ⟨unseen, ?_⟩
  rw [afterAll_append, loaded, Loader.start, Action.ending_bind, Action.after_bind]
  show WatchState.after loader _ .subscribe = _
  cases loader.reload.ending site with
  | error failure => rfl
  | ok snapshot =>
      rw [after]
      simp only
      rw [Action.ending_bind, Action.after_bind]
      cases subscribed : loader.subscribe (loader.reload.after site) with
      | ok _ left =>
          rw [Action.ending_of_ok subscribed, Action.after_of_ok subscribed]
          rfl
      | error failure left =>
          rw [Action.ending_of_error subscribed, Action.after_of_error subscribed]
          rfl

/-- The moves that answer a notice, with nothing between them, are the answer to it. -/
theorem afterAll_notice (loader : Loader) {waiting : Nat} (pending : state.pending = waiting + 1)
    (idle : state.answering = none) (open_ : state.site.watch.closed = false) :
    ∃ unseen, state.afterAll loader (.hear :: List.replicate 4 .answer ++ [.report]) =
      { state with
        site := loader.noticeChange.after state.site
        pending := waiting
        unseen } := by
  have heard : state.after loader .hear =
      { state with pending := waiting, answering := some .begun } := by
    rw [after]
    simp only [pending, idle, open_, Bool.false_eq_true, if_false]
  obtain ⟨unseen, answered⟩ : ∃ unseen,
      (state.after loader .hear).afterAll loader (List.replicate 4 .answer) =
        { state with
          site := loader.reload.after state.site
          pending := waiting
          answering := some (.ended (loader.reload.ending state.site))
          unseen } := by
    rw [heard]
    exact afterAll_replicate (fun state phase => { state with answering := some phase })
      (fun state _ _ _ => after_answer state) 4 { state with pending := waiting }
      (Loader.iterate_begun loader state.site)
  refine ⟨unseen, ?_⟩
  rw [List.cons_append, afterAll_cons, afterAll_append, answered, afterAll_cons, after]
  simp only [afterAll, List.foldl_nil]
  rw [Loader.after_noticeChange_of_open loader open_, idle]

end WatchState

/-! ### What a reload is bound to publish -/

/-- A loader follows a configuration file, and its tool answers by the executable and the
environment alone, leaving the files, the registry and the watch as they are. -/
structure Loader.Follows (loader : Loader) (path : Path)
    (answers : String → Environment → Except Failure (List String)) : Prop where
  source : loader.source = FileSource.source path
  answered : ∀ executable environment site,
    (loader.ask executable environment).ending site = answers executable environment
  undisturbed : ∀ executable environment, (loader.ask executable environment).Respects
    (.same fun site => (site.workspace, site.registry, site.watch, site.observers))

namespace Loader

variable {loader : Loader} {path : Path}
  {answers : String → Environment → Except Failure (List String)}

/-- The snapshot that a reload publishes once the reading of the file has ended, if it does. -/
def bound? (loader : Loader) (answers : String → Environment → Except Failure (List String))
    (reading : Except Failure Xml.Document) : Option Snapshot :=
  match loader.passedOn? reading with
  | some _ => none
  | none =>
      let configuration := loader.inEffect reading
      let environment := configuration.effectiveEnvironment loader.dataVariable
      ((answers configuration.executable environment).toOption).map
        (loader.snapshotOf configuration)

/-- What a phase is bound to, if the file still holds what `reading` found: the steps that are done
are those of a reload that reads this, and what is published is current. -/
def IsBound (loader : Loader) (answers : String → Environment → Except Failure (List String))
    (reading : Except Failure Xml.Document) (current : Snapshot) : ReloadPhase → Prop
  | .begun => True
  | .read seen => seen = reading
  | .configured configuration =>
      loader.passedOn? reading = none ∧ configuration = loader.inEffect reading
  | .probed configuration supported =>
      (loader.passedOn? reading = none ∧ configuration = loader.inEffect reading) ∧
        answers configuration.executable
          (configuration.effectiveEnvironment loader.dataVariable) = .ok supported
  | .ended (.ok snapshot) => loader.bound? answers reading = some snapshot ∧ current = snapshot
  | .ended (.error _) => loader.bound? answers reading = none

theorem bound?_of_passedOn {reading : Except Failure Xml.Document} {failure : Failure}
    (passedOn : loader.passedOn? reading = some failure) :
    loader.bound? answers reading = none := by
  rw [bound?, passedOn]

theorem bound?_of_excused {reading : Except Failure Xml.Document}
    (excused : loader.passedOn? reading = none) :
    loader.bound? answers reading =
      ((answers (loader.inEffect reading).executable
        ((loader.inEffect reading).effectiveEnvironment loader.dataVariable)).toOption).map
          (loader.snapshotOf (loader.inEffect reading)) := by
  rw [bound?, excused]

/-! ### One step of a reload -/

variable {site : Site}

/-- What a step of a reload leaves alone: everything but the registry and the journal. -/
def setting (site : Site) : Workspace × Watch × List Observer :=
  (site.workspace, site.watch, site.observers)

theorem setting_of_recording {left : Site} (recorded : Frame.recording.allows site left) :
    setting left = setting site := by
  obtain ⟨records, rfl⟩ := recorded
  rfl

/-- What the file holds at a site, or why it cannot be read. -/
def reading (loader : Loader) (site : Site) : Except Failure Xml.Document :=
  loader.source.read.ending site

theorem Follows.reading_congr (follows : loader.Follows path answers) {first second : Site}
    (same : first.workspace.probe path = second.workspace.probe path) :
    loader.reading first = loader.reading second := by
  have mapped (site : Site) : (FileSource.source path).read.ending site =
      ((FileSource.read path).ending site).map .octets := Action.ending_map _ _ site
  rw [reading, reading, follows.source, mapped, mapped, FileSource.read, Action.ending_bind,
    Action.ending_bind, Action.ending_inspecting, Action.ending_inspecting, same]
  cases second.workspace.probe path with
  | error obstacle => rfl
  | ok found =>
      cases found with
      | none => rfl
      | some entry => cases entry <;> rfl

theorem Follows.after_read (follows : loader.Follows path answers) (site : Site) :
    loader.source.read.after site = site := by
  rw [follows.source]
  exact FileSource.after_source_read path site

theorem Follows.reading_of_setting (follows : loader.Follows path answers) {site left : Site}
    (kept : setting left = setting site) : loader.reading left = loader.reading site := by
  have workspace : left.workspace = site.workspace := congrArg Prod.fst kept
  exact follows.reading_congr (by rw [workspace])

theorem respects_report (loader : Loader) (result : Except Failure Snapshot) :
    (loader.report result).Respects .recording := by
  cases result with
  | ok snapshot => exact Action.respects_pure ()
  | error failure => exact Action.respects_record _ _ _ _

/-- To subscribe leaves the files and the registry as they are, and an open watch open. -/
theorem Follows.respects_subscribe (follows : loader.Follows path answers) :
    loader.subscribe.Respects
      (.same fun site => (site.workspace, site.registry, site.watch.closed)) := by
  have ignored : (Frame.same fun site : Site =>
      (site.workspace, site.registry, site.watch.closed)).IgnoresObserving :=
    ⟨fun _ _ => rfl, fun _ _ => rfl⟩
  apply Loader.respects_subscribe
  · rw [follows.source]
    exact FileSource.respects_subscribe ignored path
  · exact ignored
  · exact fun _ _ => rfl

theorem Follows.watch_of_close (follows : loader.Follows path answers) (site : Site) :
    (loader.close.after site).watch = { subscription := none, closed := true } := by
  have ignored : (Frame.same fun site : Site => site.watch).IgnoresObserving :=
    ⟨fun _ _ => rfl, fun _ _ => rfl⟩
  refine @allows_close loader (.same fun site => site.watch) site (fun subscription => ?_) ignored
  rw [follows.source]
  exact FileSource.respects_unsubscribe ignored subscription

theorem Follows.askProbe_cases (follows : loader.Follows path answers) (executable : String)
    (environment : Environment) (site : Site) :
    ∃ left, setting left = setting site ∧ left.registry = site.registry ∧
      match answers executable environment with
      | .ok supported => loader.askProbe executable environment site = .ok supported left
      | .error failure => loader.askProbe executable environment site = .error failure left := by
  let asking := site.entered (.asked executable environment)
  have asked : loader.askProbe executable environment site =
      loader.ask executable environment asking := Action.bind_of_ok rfl
  have undisturbed := follows.undisturbed executable environment asking
  have answered := follows.answered executable environment asking
  rw [← answered, asked]
  cases answer : loader.ask executable environment asking with
  | ok supported left =>
      have kept := Prod.mk.inj ((Action.after_of_ok answer) ▸ undisturbed)
      rw [Action.ending_of_ok answer]
      exact ⟨left, Prod.ext kept.1 (Prod.mk.inj kept.2).2, (Prod.mk.inj kept.2).1, rfl⟩
  | error failure left =>
      have kept := Prod.mk.inj ((Action.after_of_error answer) ▸ undisturbed)
      rw [Action.ending_of_error answer]
      exact ⟨left, Prod.ext kept.1 (Prod.mk.inj kept.2).2, (Prod.mk.inj kept.2).1, rfl⟩

/-- A configuration that is settled from what was read is the one in effect. -/
theorem isBound_settle (loader : Loader)
    (answers : String → Environment → Except Failure (List String)) (current : Snapshot)
    (reading : Except Failure Xml.Document) (site : Site) :
    setting ((loader.settle reading).after site) = setting site ∧
      loader.IsBound answers reading current
        (.onward .configured ((loader.settle reading).ending site)) := by
  cases passedOn : loader.passedOn? reading with
  | some failure =>
      have settled := settle_of_passedOn passedOn site
      rw [Action.ending_of_error settled, Action.after_of_error settled]
      exact ⟨rfl, bound?_of_passedOn passedOn⟩
  | none =>
      obtain ⟨left, settled, recorded⟩ := settle_of_excused passedOn site
      rw [Action.ending_of_ok settled, Action.after_of_ok settled]
      exact ⟨setting_of_recording recorded, passedOn, rfl⟩

/-- What is probed with the configuration in effect is what the tool answers to it. -/
theorem Follows.isBound_askProbe (follows : loader.Follows path answers) (current : Snapshot)
    (reading : Except Failure Xml.Document) (configuration : Configuration) (site : Site) :
    let asking := loader.askProbe configuration.executable
      (configuration.effectiveEnvironment loader.dataVariable)
    setting (asking.after site) = setting site ∧ (asking.after site).registry = site.registry ∧
      (loader.IsBound answers reading current (.configured configuration) →
        loader.IsBound answers reading current
          (.onward (.probed configuration) (asking.ending site))) := by
  obtain ⟨left, kept, sameRegistry, answer⟩ := follows.askProbe_cases configuration.executable
    (configuration.effectiveEnvironment loader.dataVariable) site
  cases answered : answers configuration.executable
      (configuration.effectiveEnvironment loader.dataVariable) with
  | ok supported =>
      rw [answered] at answer
      simp only [Action.ending_of_ok answer, Action.after_of_ok answer]
      exact ⟨kept, sameRegistry, fun bound => ⟨bound, answered⟩⟩
  | error failure =>
      rw [answered] at answer
      simp only [Action.ending_of_error answer, Action.after_of_error answer]
      refine ⟨kept, sameRegistry, ?_⟩
      rintro ⟨excused, rfl⟩
      show loader.bound? answers reading = none
      rw [bound?_of_excused excused, answered]
      rfl

/-- What is announced of the answer to the configuration in effect becomes current. -/
theorem isBound_announce (loader : Loader)
    (answers : String → Environment → Except Failure (List String))
    (reading : Except Failure Xml.Document) (configuration : Configuration)
    (supported : List String) (site : Site) :
    let announcing := loader.announce configuration supported
    setting (announcing.after site) = setting site ∧
      (loader.IsBound answers reading site.registry.snapshot (.probed configuration supported) →
        loader.IsBound answers reading (announcing.after site).registry.snapshot
          (.onward (fun snapshot => .ended (.ok snapshot)) (announcing.ending site))) := by
  obtain ⟨left, announced, published⟩ := announce_published loader configuration supported site
  simp only [Action.ending_of_ok announced, Action.after_of_ok announced]
  refine ⟨?_, ?_⟩
  · obtain ⟨records, rfl⟩ := published
    rfl
  · rintro ⟨⟨excused, rfl⟩, answered⟩
    refine ⟨?_, ?_⟩
    · rw [bound?_of_excused excused, answered]
      rfl
    · rw [published.registry_eq]
      rfl

/-- A step of a reload takes a phase to the next, leaves files and watch alone, and stays bound to
what the file holds. -/
theorem advance_bound (follows : loader.Follows path answers) (phase : ReloadPhase) (site : Site) :
    ∃ next left, loader.advance phase site = .ok next left ∧ setting left = setting site ∧
      (loader.IsBound answers (loader.reading site) site.registry.snapshot phase →
        loader.IsBound answers (loader.reading site) left.registry.snapshot next) := by
  cases phase with
  | begun =>
      refine ⟨_, _, advance_begun loader site, ?_, fun _ => rfl⟩
      rw [follows.after_read]
  | read seen =>
      refine ⟨_, _, advance_read loader site seen, ?_, ?_⟩
      · exact (isBound_settle loader answers site.registry.snapshot seen site).1
      · rintro rfl
        exact (isBound_settle loader answers _ (loader.reading site) site).2
  | configured configuration =>
      obtain ⟨kept, sameRegistry, bound⟩ := follows.isBound_askProbe site.registry.snapshot
        (loader.reading site) configuration site
      refine ⟨_, _, advance_configured loader site configuration, kept, ?_⟩
      rw [sameRegistry]
      exact bound
  | probed configuration supported =>
      exact ⟨_, _, advance_probed loader site configuration supported,
        isBound_announce loader answers (loader.reading site) configuration supported site⟩
  | ended result => exact ⟨_, site, rfl, rfl, id⟩

theorem iterate_bound (follows : loader.Follows path answers) (count : Nat)
    (phase : ReloadPhase) (site : Site)
    (bound : loader.IsBound answers (loader.reading site) site.registry.snapshot phase) :
    ∃ next left, Action.iterate loader.advance count phase site = .ok next left ∧
      loader.IsBound answers (loader.reading site) left.registry.snapshot next := by
  induction count generalizing phase site with
  | zero => exact ⟨phase, site, rfl, bound⟩
  | succ count inductionHypothesis =>
      obtain ⟨middle, there, advanced, kept, further⟩ := advance_bound follows phase site
      have same := follows.reading_of_setting kept
      have reached := inductionHypothesis middle there (same ▸ further bound)
      rw [same] at reached
      rwa [Action.iterate_succ advanced]

/-- Once a reload is over, the current snapshot is the one that was to be published. -/
theorem current_of_ended {reading : Except Failure Xml.Document} {current : Snapshot}
    {result : Except Failure Snapshot}
    (bound : loader.IsBound answers reading current (.ended result)) (snapshot : Snapshot)
    (bounden : loader.bound? answers reading = some snapshot) : current = snapshot := by
  cases result with
  | ok published =>
      have same : some published = some snapshot := bound.1.symm.trans bounden
      exact bound.2.trans (Option.some.inj same)
  | error failure =>
      have nothing : none = some snapshot := Eq.trans (Eq.symm bound) bounden
      cases nothing

/-- A reload that returns has published the snapshot that its file is bound to. -/
theorem bound?_of_reload (follows : loader.Follows path answers) {snapshot : Snapshot} {left : Site}
    (reloaded : loader.reload site = .ok snapshot left) :
    loader.bound? answers (loader.reading site) = some snapshot := by
  obtain ⟨phase, reached, advanced, bound⟩ := iterate_bound follows 4 .begun site trivial
  rw [iterate_begun, Action.ending_of_ok reloaded] at advanced
  cases advanced
  exact bound.1

end Loader

/-! ### The invariant of all moves -/

namespace WatchState

variable {loader : Loader} {path : Path}
  {answers : String → Environment → Except Failure (List String)}

/-- What the reload under way is bound to, or else the registry. -/
def Bound (loader : Loader) (answers : String → Environment → Except Failure (List String))
    (state : WatchState) : Prop :=
  match state.answering, state.starting with
  | some phase, _ | none, .loading phase =>
      loader.IsBound answers (loader.reading state.site) state.site.registry.snapshot phase
  | none, .returned _ => ∀ snapshot,
      loader.bound? answers (loader.reading state.site) = some snapshot →
        state.site.registry.snapshot = snapshot
  | none, .failed _ => True

/-- While the start is loading nobody watches, so no notice is given. And as long as the watch is
open, no notice waits and no change went unseen, everything is bound to what the file holds. -/
structure Sound (loader : Loader) (answers : String → Environment → Except Failure (List String))
    (state : WatchState) : Prop where
  unwatched : ∀ phase, state.starting = .loading phase →
    state.site.watch.subscription = none ∧ state.pending = 0 ∧ state.answering = none
  bound : state.unseen = false → state.pending = 0 → state.site.watch.closed = false →
    state.Bound loader answers

theorem sound_initial (loader : Loader)
    (answers : String → Environment → Except Failure (List String)) {site : Site}
    (unwatched : site.watch.subscription = none) : Sound loader answers { site } where
  unwatched := fun _ _ => ⟨unwatched, rfl, rfl⟩
  bound := fun _ _ _ => trivial

theorem Sound.changed {state : WatchState} (sound : Sound loader answers state)
    (workspace : Workspace) : Sound loader answers (state.changed workspace) := by
  unfold WatchState.changed
  by_cases watched : state.site.isWatched = true
  · rw [if_pos watched]
    refine ⟨?_, fun _ none_ => by simp at none_⟩
    intro phase loading
    have idle := (sound.unwatched phase loading).1
    rw [Site.isWatched, idle] at watched
    cases watched
  · rw [if_neg watched]
    exact ⟨sound.unwatched, fun unseen => by simp at unseen⟩

theorem Sound.changeElsewhere (follows : loader.Follows path answers) {state : WatchState}
    (sound : Sound loader answers state) {workspace : Workspace}
    (same : workspace.probe path = state.site.workspace.probe path) :
    Sound loader answers { state with site := { state.site with workspace } } := by
  have reading : loader.reading { state.site with workspace } = loader.reading state.site :=
    follows.reading_congr same
  refine ⟨sound.unwatched, fun unseen settled open_ => ?_⟩
  have bound := sound.bound unseen settled open_
  rw [Bound] at bound ⊢
  rw [reading]
  exact bound

/-- A step of the reload under way: it is bound to what the file holds if it was, or if it has just
read the file. -/
theorem Sound.advanced (follows : loader.Follows path answers) {state : WatchState}
    (phase : ReloadPhase) (bound : state.unseen = false → state.pending = 0 →
      state.site.watch.closed = false →
        loader.IsBound answers (loader.reading state.site) state.site.registry.snapshot phase) :
    ∃ next left, loader.advance phase state.site = .ok next left ∧
      Loader.setting left = Loader.setting state.site ∧
        ((state.unseen && !phase.isBegun) = false → state.pending = 0 →
          left.watch.closed = false →
            loader.IsBound answers (loader.reading left) left.registry.snapshot next) := by
  obtain ⟨next, left, advanced, kept, further⟩ := Loader.advance_bound follows phase state.site
  refine ⟨next, left, advanced, kept, fun unseen settled open_ => ?_⟩
  have sameWatch : left.watch = state.site.watch := congrArg (·.2.1) kept
  rw [follows.reading_of_setting kept]
  apply further
  rw [sameWatch] at open_
  cases phase with
  | begun => trivial
  | _ => exact bound (by simpa [ReloadPhase.isBegun] using unseen) settled open_

theorem Sound.load (follows : loader.Follows path answers) {state : WatchState}
    (sound : Sound loader answers state) : Sound loader answers (state.after loader .load) := by
  rw [WatchState.after]
  split
  · next phase loading =>
      obtain ⟨unwatched, settled, idle⟩ := sound.unwatched phase loading
      obtain ⟨next, left, advanced, kept, bound⟩ := Sound.advanced follows phase
        fun unseen settled open_ => by
          have before := sound.bound unseen settled open_
          rwa [Bound, idle, loading] at before
      have sameWatch : left.watch = state.site.watch := congrArg (·.2.1) kept
      rw [reloading, advanced]
      refine ⟨fun _ _ => ⟨?_, settled, idle⟩, fun unseen settled open_ => ?_⟩
      · show left.watch.subscription = none
        rw [sameWatch, unwatched]
      · show Bound loader answers _
        rw [Bound]
        simp only [idle]
        exact bound unseen settled open_
  · exact sound

theorem Sound.answer (follows : loader.Follows path answers) {state : WatchState}
    (sound : Sound loader answers state) : Sound loader answers (state.after loader .answer) := by
  rw [WatchState.after]
  split
  · next phase answering =>
      obtain ⟨next, left, advanced, kept, bound⟩ := Sound.advanced follows phase
        fun unseen settled open_ => by
          have before := sound.bound unseen settled open_
          rwa [Bound, answering] at before
      rw [reloading, advanced]
      refine ⟨fun phase loading => ?_, bound⟩
      have idle := (sound.unwatched phase loading).2.2
      rw [answering] at idle
      cases idle
  · exact sound

theorem Sound.hear {state : WatchState} (sound : Sound loader answers state) :
    Sound loader answers (state.after loader .hear) := by
  rw [WatchState.after]
  split
  · next waiting pending idle =>
      refine ⟨fun phase loading => ?_, fun _ _ open_ => ?_⟩
      · have settled := (sound.unwatched phase loading).2.1
        rw [pending] at settled
        cases settled
      · have heard : state.site.watch.closed = false := open_
        rw [Bound]
        simp only [heard, Bool.false_eq_true, if_false]
        trivial
  · exact sound

/-- The watch closes its ears to the failure of a reload: only a record is made. -/
theorem Sound.report (follows : loader.Follows path answers) {state : WatchState}
    (sound : Sound loader answers state) : Sound loader answers (state.after loader .report) := by
  rw [WatchState.after]
  split
  · next result answering =>
      have recorded := Loader.respects_report loader result state.site
      have kept := Loader.setting_of_recording recorded
      have sameWatch : ((loader.report result).after state.site).watch = state.site.watch :=
        congrArg (·.2.1) kept
      have sameReading := follows.reading_of_setting kept
      refine ⟨fun phase loading => ?_, fun unseen settled open_ => ?_⟩
      · have idle := (sound.unwatched phase loading).2.2
        rw [answering] at idle
        cases idle
      · have bound := sound.bound unseen settled (sameWatch ▸ open_)
        rw [Bound, answering] at bound
        rw [Bound]
        cases starting : state.starting with
        | loading phase =>
            have idle := (sound.unwatched phase starting).2.2
            rw [answering] at idle
            cases idle
        | returned _ =>
            simp only [sameReading, Frame.registry_of_recording recorded]
            exact Loader.current_of_ended bound
        | failed _ => trivial
  · exact sound

theorem Sound.subscribe (follows : loader.Follows path answers) {state : WatchState}
    (sound : Sound loader answers state) :
    Sound loader answers (state.after loader .subscribe) := by
  rw [WatchState.after]
  split
  · next snapshot starting =>
      have idle := (sound.unwatched _ starting).2.2
      have kept := follows.respects_subscribe state.site
      split
      · next left subscribed =>
          rw [Action.after_of_ok subscribed] at kept
          have same := Prod.mk.inj kept
          refine ⟨fun _ loading => StartPhase.noConfusion loading, fun unseen settled open_ => ?_⟩
          have wasOpen : state.site.watch.closed = false := (Prod.mk.inj same.2).2 ▸ open_
          have bound := sound.bound unseen settled wasOpen
          rw [Bound, idle, starting] at bound
          have sameReading : loader.reading left = loader.reading state.site :=
            follows.reading_congr (congrArg (Workspace.probe · path) same.1)
          rw [Bound]
          simp only [idle, sameReading, (Prod.mk.inj same.2).1]
          exact Loader.current_of_ended bound
      · next failure left failed =>
          refine ⟨fun _ loading => StartPhase.noConfusion loading, fun _ _ _ => ?_⟩
          rw [Bound]
          simp only [idle]
  · next failure starting =>
      have idle := (sound.unwatched _ starting).2.2
      refine ⟨fun _ loading => StartPhase.noConfusion loading, fun _ _ _ => ?_⟩
      rw [Bound]
      simp only [idle]
  · exact sound

/-- Once the watch is closed nothing is promised of the registry any more. -/
theorem Sound.close (follows : loader.Follows path answers) {state : WatchState}
    (sound : Sound loader answers state) : Sound loader answers (state.after loader .close) := by
  have kept := follows.watch_of_close state.site
  refine ⟨fun phase loading => ⟨?_, (sound.unwatched phase loading).2⟩, fun _ _ open_ => ?_⟩
  · show (loader.close.after state.site).watch.subscription = none
    rw [kept]
  · have ended : (loader.close.after state.site).watch.closed = false := open_
    rw [kept] at ended
    cases ended

theorem Sound.after (follows : loader.Follows path answers) {state : WatchState}
    (sound : Sound loader answers state) (move : WatchMove) :
    Sound loader answers (state.after loader move) := by
  cases move with
  | change workspace => exact sound.changed workspace
  | load => exact sound.load follows
  | subscribe => exact sound.subscribe follows
  | hear => exact sound.hear
  | answer => exact sound.answer follows
  | report => exact sound.report follows
  | close => exact sound.close follows

/-! ### Everything that can come about -/

/-- What can come about from a state, in any number of steps. -/
def Reaches (loader : Loader) (path : Path) : WatchState → WatchState → Prop :=
  Relation.ReflTransGen (Step loader path)

theorem reaches_afterAll (loader : Loader) (path : Path) (state : WatchState)
    (moves : List WatchMove) : Reaches loader path state (state.afterAll loader moves) := by
  induction moves generalizing state with
  | nil => exact .refl
  | cons move rest inductionHypothesis =>
      exact .head (.move state move) (inductionHypothesis _)

/-- The invariant holds of everything that comes about at a loader that nobody has started yet. -/
theorem Reaches.sound (follows : loader.Follows path answers) {site : Site}
    (unwatched : site.watch.subscription = none) {state : WatchState}
    (reached : Reaches loader path { site } state) : Sound loader answers state := by
  induction reached with
  | refl => exact sound_initial loader answers unwatched
  | tail _ step inductionHypothesis =>
      cases step with
      | move move => exact inductionHypothesis.after follows move
      | changeElsewhere workspace same => exact inductionHypothesis.changeElsewhere follows same

/-- The start has returned and the watch is not closed, no notice waits, and no reload is under
way. -/
structure IsAtRest (state : WatchState) : Prop where
  returned : state.starting.hasReturned = true
  open_ : state.site.watch.closed = false
  settled : state.pending = 0
  idle : state.answering.isNone = true

end WatchState

/-- However the file changes while a loader starts and watches it: at rest the current snapshot is
the one that a reload would publish, unless the file has changed unseen since it was last read. The
start reads the file before it watches it, so a change between the two is such a change. -/
theorem Loader.snapshot_is_current_at_rest {loader : Loader} {path : Path}
    {answers : String → Environment → Except Failure (List String)}
    (follows : loader.Follows path answers) {site : Site}
    (unwatched : site.watch.subscription = none) {state : WatchState}
    (reached : WatchState.Reaches loader path { site } state) (rests : state.IsAtRest)
    (seen : state.unseen = false) {snapshot : Snapshot} {left : Site}
    (reloaded : loader.reload state.site = .ok snapshot left) :
    state.site.registry.snapshot = snapshot := by
  have bound := (reached.sound follows unwatched).bound seen rests.settled rests.open_
  have idle : state.answering = none := Option.isNone_iff_eq_none.mp rests.idle
  obtain ⟨published, starting⟩ := StartPhase.exists_of_hasReturned rests.returned
  rw [WatchState.Bound, idle, starting] at bound
  exact bound snapshot (Loader.bound?_of_reload follows reloaded)

/-! ### A change that is noticed, and one that is lost -/

/-- What a tool announces: pages under its own name, and grids too under another. -/
def announced : String → Environment → Except Failure (List String) :=
  fun executable _ => .ok (if executable = "other" then ["PDF", "XYZ"] else ["PDF"])

/-- The directory of a configuration file, with or without the file. -/
def confDirectory (withFile : Bool) : Workspace where
  here := []
  entries := (["conf"], .directory) ::
    if withFile then [(["conf", "tool.xml"], .file [])] else []

/-- A loader whose file, if it is there, names the other tool. -/
def confLoader : Loader where
  source := FileSource.source ⟨.single, ["conf", "tool.xml"]⟩
  default := Catalog.gdal
  read := fun _ => .ok { Catalog.gdal with executable := "other" }
  probe := pdfLoader.probe
  ask := fun executable environment => Action.ofExcept (announced executable environment)

theorem confLoader_follows :
    confLoader.Follows ⟨.single, ["conf", "tool.xml"]⟩ announced where
  source := rfl
  answered := fun _ _ _ => rfl
  undisturbed := fun _ _ _ => rfl

/-- A file that is written while the loader watches, and the answer to the notice of it. -/
def noticedMoves : List WatchMove :=
  [.load, .load, .load, .load, .subscribe, .change (confDirectory true), .hear, .answer, .answer,
    .answer, .answer, .report]

/-- The new file is read, so what a reload would publish is current. -/
theorem noticed_change_is_current :
    let initial : WatchState := { site := { workspace := confDirectory false } }
    let state := initial.afterAll confLoader noticedMoves
    confLoader.Follows ⟨.single, ["conf", "tool.xml"]⟩ announced ∧
      initial.site.watch.subscription = none ∧
      WatchState.Reaches confLoader ⟨.single, ["conf", "tool.xml"]⟩ initial state ∧
      state.IsAtRest ∧ state.unseen = false ∧ state.site.isWatched = true ∧
      ∃ snapshot left, confLoader.reload state.site = .ok snapshot left ∧
        snapshot.executable = "other" ∧ state.site.registry.snapshot = snapshot := by
  intro initial state
  have reached : WatchState.Reaches confLoader ⟨.single, ["conf", "tool.xml"]⟩ initial state :=
    WatchState.reaches_afterAll _ _ _ _
  have rests : state.IsAtRest :=
    ⟨by decide +kernel, by decide +kernel, by decide +kernel, by decide +kernel⟩
  have seen : state.unseen = false := by decide +kernel
  refine ⟨confLoader_follows, rfl, reached, rests, seen, by decide +kernel, ?_⟩
  have executable : ((confLoader.reload.ending state.site).toOption.map (·.executable)) =
      some "other" := by decide +kernel
  cases reloaded : confLoader.reload state.site with
  | ok snapshot left =>
      rw [Action.ending_of_ok reloaded] at executable
      exact ⟨snapshot, left, rfl, Option.some.inj executable,
        Loader.snapshot_is_current_at_rest confLoader_follows rfl reached rests seen reloaded⟩
  | error failure left =>
      rw [Action.ending_of_error reloaded] at executable
      cases executable

/-- The same file, written once the start has read and before it watches, goes unnoticed: the
loader is at rest and watches, and yet a reload would publish another snapshot. -/
theorem change_before_watching_is_lost :
    let initial : WatchState := { site := { workspace := confDirectory false } }
    let state := initial.afterAll confLoader
      [.load, .change (confDirectory true), .load, .load, .load, .subscribe]
    WatchState.Reaches confLoader ⟨.single, ["conf", "tool.xml"]⟩ initial state ∧
      state.IsAtRest ∧ state.site.isWatched = true ∧ state.unseen = true ∧
      state.site.registry.snapshot.executable = "gdal_translate" ∧
      (confLoader.reload.ending state.site).toOption.map (·.executable) = some "other" :=
  ⟨WatchState.reaches_afterAll _ _ _ _,
    ⟨by decide +kernel, by decide +kernel, by decide +kernel, by decide +kernel⟩,
    by decide +kernel, by decide +kernel, by decide +kernel, by decide +kernel⟩

end GeoBridge
