import GeoBridge.Proofs.ReloadPhases
import GeoBridge.Proofs.Watching
import Mathlib.Data.List.Induction

/-!
Owns the life of the watch over a configuration, whatever happens to its loader and whatever fails.

Owns:
- the subscriptions that the journal tells of, and the frame of what leaves the watch alone;
- what reloads, subscriptions, ends and notices do to the watch, by how their parts end;
- the phases of a watch and where a step leads from each, and with them what every history of steps
  comes to.
-/

namespace GeoBridge

/-- What the journal tells of a subscription. -/
inductive SubscriptionEvent where
  | obtained
  | ended
deriving DecidableEq, Repr

def Event.subscription? : Event → Option SubscriptionEvent
  | .subscribed => some .obtained
  | .unsubscribed => some .ended
  | _ => none

namespace Site

/-- The subscriptions in the journal, obtained and ended. -/
def subscriptions (site : Site) : List SubscriptionEvent :=
  site.journal.filterMap Event.subscription?

theorem subscriptions_entered (site : Site) (event : Event) :
    (site.entered event).subscriptions = site.subscriptions ++ event.subscription?.toList := by
  unfold subscriptions entered
  rw [List.filterMap_append]
  cases told : event.subscription? <;> simp [told]

end Site

theorem Watch.open_iff {watch : Watch} :
    (watch.subscription.isNone && !watch.closed) = true ↔ watch = {} := by
  obtain ⟨subscription, closed⟩ := watch
  cases subscription <;> cases closed <;> simp

namespace Frame

/-- The watch stays as it is, and the journal tells of no further subscription. -/
def watching : Frame := (same (·.watch)).both (same (·.subscriptions))

theorem watching_entered (site : Site) {event : Event} (silent : event.subscription? = none) :
    watching.allows site (site.entered event) := by
  refine ⟨rfl, ?_⟩
  change (site.entered event).subscriptions = site.subscriptions
  rw [Site.subscriptions_entered, silent]
  exact List.append_nil _

theorem watching_ignoresRecords : watching.IgnoresRecords := fun site _ => watching_entered site rfl

theorem watching_ignoresCalls : watching.IgnoresCalls := fun site _ => watching_entered site rfl

end Frame

namespace Loader

variable {loader : Loader} {frame : Frame} {site left : Site}

/-- The code that a loader is given stays within a frame: the source and the probe. -/
structure Within (loader : Loader) (frame : Frame) : Prop where
  reads : loader.source.read.Respects frame
  asks : ∀ executable environment, (loader.ask executable environment).Respects frame
  subscribes : loader.source.subscribe.Respects frame
  unsubscribes : ∀ subscription, (loader.source.unsubscribe subscription).Respects frame

/-! ### What the operations do -/

/-- A reload stays within the frame of its parts, but for the snapshot that it publishes when it
returns. -/
theorem reload_cases (reads : loader.source.read.Respects frame)
    (asks : ∀ executable environment, (loader.ask executable environment).Respects frame)
    (records : frame.IgnoresRecords)
    (questions : ∀ site executable environment,
      frame.allows site (site.entered (.asked executable environment))) (site : Site) :
    (∃ snapshot answered left, loader.reload site = .ok snapshot left ∧
      frame.allows site answered ∧ Published snapshot answered left) ∨
    ∃ failure left, loader.reload site = .error failure left ∧ frame.allows site left := by
  have read := reads site
  cases passedOn : loader.passedOn? (loader.source.read.ending site) with
  | some failure =>
      exact .inr ⟨failure, _, Action.bind_of_error (readConfiguration_of_passedOn passedOn), read⟩
  | none =>
      obtain ⟨configured, ended, recorded⟩ := readConfiguration_of_excused passedOn
      -- Between the reading and the question nothing happens but records.
      have toConfigured := frame.chain read (records.allows_of_recording recorded)
      have whole : loader.reload site = loader.activate _ configured := Action.bind_of_ok ended
      let configuration := loader.inEffect (loader.source.read.ending site)
      let environment := configuration.effectiveEnvironment loader.dataVariable
      have asking : (loader.askProbe configuration.executable environment).Respects frame :=
        Action.Respects.bind (fun site => questions site _ _) fun _ => asks _ _
      cases answer : loader.askProbe configuration.executable environment configured with
      | error failure left =>
          exact .inr ⟨failure, left, whole.trans (activate_of_silence answer),
            frame.chain toConfigured (asking.of_error answer)⟩
      | ok supported answered =>
          obtain ⟨left, activated, published⟩ := activate_of_answer loader answer
          exact .inl ⟨_, answered, left, whole.trans activated,
            frame.chain toConfigured (asking.of_ok answer), published⟩

/-- A reload stays within a frame that its parts are within and that does not see what is
published. -/
theorem respects_reload_of (reads : loader.source.read.Respects frame)
    (asks : ∀ executable environment, (loader.ask executable environment).Respects frame)
    (records : frame.IgnoresRecords)
    (questions : ∀ site executable environment,
      frame.allows site (site.entered (.asked executable environment)))
    (publishes : ∀ (site : Site) registry, frame.allows site { site with registry }) :
    loader.reload.Respects frame := by
  intro site
  rcases reload_cases reads asks records questions site with
    ⟨snapshot, answered, left, ended, toAnswered, published⟩ | ⟨failure, left, ended, toLeft⟩
  · rw [Action.after_of_ok ended]
    exact frame.chain toAnswered
      (frame.chain (publishes answered _) (records.allows_of_recording published))
  · rwa [Action.after_of_error ended]

/-- A reload does not touch the watch. -/
theorem respects_reload (within : loader.Within .watching) :
    loader.reload.Respects .watching :=
  respects_reload_of within.reads within.asks Frame.watching_ignoresRecords
    (fun site _ _ => Frame.watching_entered site rfl) fun _ _ => ⟨rfl, rfl⟩

/-- Whether a reload that begins at a site returns. -/
def returns (loader : Loader) (site : Site) : Bool := (loader.reload.ending site).isOk

/-- Where nobody else publishes, a reload counts once if it returns. -/
theorem generation_after_reload (within : loader.Within (.same (·.registry))) (site : Site) :
    (loader.reload.after site).registry.generation =
      site.registry.generation + (loader.returns site).toNat := by
  unfold returns
  rcases reload_cases within.reads within.asks (fun _ _ => rfl) (fun _ _ _ => rfl) site with
    ⟨snapshot, answered, left, ended, toAnswered, published⟩ | ⟨failure, left, ended, toLeft⟩
  · have sameRegistry : answered.registry = site.registry := toAnswered
    rw [Action.after_of_ok ended, Action.ending_of_ok ended, published.registry_eq, sameRegistry]
    rfl
  · have sameRegistry : left.registry = site.registry := toLeft
    rw [Action.after_of_error ended, Action.ending_of_error ended, sameRegistry]
    rfl

theorem after_subscribe_of_error {failure : Failure} (fresh : site.watch = {})
    (refused : loader.source.subscribe site = .error failure left) :
    loader.subscribe.after site = left := by
  unfold subscribe
  rw [Action.after_get_bind, if_pos (Watch.open_iff.mpr fresh)]
  exact Action.after_of_error (Action.bind_of_error refused)

theorem after_subscribe_of_ok {subscription : Subscription} (fresh : site.watch = {})
    (obtained : loader.source.subscribe site = .ok subscription left) :
    loader.subscribe.after site = { left.entered .subscribed with
      watch := { left.watch with subscription := some subscription } } := by
  unfold subscribe
  rw [Action.after_get_bind, if_pos (Watch.open_iff.mpr fresh)]
  exact Action.after_congr (Action.bind_of_ok obtained)

theorem after_subscribe_of_held (held : site.watch ≠ {}) : loader.subscribe.after site = site := by
  unfold subscribe
  rw [Action.after_get_bind, if_neg (mt Watch.open_iff.mp held)]
  rfl

/-- Subscribing does nothing where the watch is over or has a subscription. Otherwise the source is
asked for one, which is kept if it comes. -/
theorem subscribe_cases (loader : Loader) (site : Site) :
    (site.watch ≠ {} ∧ loader.subscribe.after site = site) ∨
    (site.watch = {} ∧ ∃ failure left, loader.source.subscribe site = .error failure left ∧
      loader.subscribe.after site = left) ∨
    site.watch = {} ∧ ∃ subscription left, loader.source.subscribe site = .ok subscription left ∧
      loader.subscribe.after site = { left.entered .subscribed with
        watch := { left.watch with subscription := some subscription } } := by
  by_cases fresh : site.watch = {}
  · cases obtained : loader.source.subscribe site with
    | error failure left =>
        exact .inr (.inl ⟨fresh, failure, left, rfl, after_subscribe_of_error fresh obtained⟩)
    | ok subscription left =>
        exact .inr (.inr ⟨fresh, subscription, left, rfl, after_subscribe_of_ok fresh obtained⟩)
  · exact .inl ⟨fresh, after_subscribe_of_held fresh⟩

theorem after_start (loader : Loader) (site : Site) :
    loader.start.after site =
      if loader.returns site then loader.subscribe.after (loader.reload.after site)
      else loader.reload.after site := by
  have whole : loader.start = (loader.reload >>= fun snapshot =>
      loader.subscribe >>= fun _ => pure snapshot) := rfl
  rw [whole, Action.after_bind, returns]
  cases loader.reload.ending site with
  | error failure => rfl
  | ok snapshot =>
      change Action.after (loader.subscribe >>= fun _ => pure snapshot) _ = _
      rw [Action.after_bind]
      cases loader.subscribe.ending (loader.reload.after site) <;> rfl

theorem after_close_of_free (free : site.watch.subscription = none) :
    loader.close.after site = { site with watch := { closed := true } } := by
  unfold close
  rw [Action.after_get_bind, free]
  rfl

/-- The watch is over before the subscription is ended. -/
theorem after_close_of_held {subscription : Subscription}
    (held : site.watch.subscription = some subscription) :
    loader.close.after site = (loader.source.unsubscribe subscription).after
      (Site.entered { site with watch := { closed := true } } .unsubscribed) := by
  unfold close
  rw [Action.after_get_bind, held]
  rfl

theorem noticeChange_of_closed (closed : site.watch.closed = true) :
    loader.noticeChange site = .ok () site := by
  unfold noticeChange
  rw [Action.get_bind, closed]
  rfl

theorem noticeChange_of_open (loader : Loader) (open_ : site.watch.closed = false) :
    ∃ left, loader.noticeChange site = .ok () left ∧
      Frame.recording.allows (loader.reload.after site) left := by
  rw [noticeChange_eq loader open_]
  cases loader.reload.ending site with
  | ok snapshot => exact ⟨_, rfl, Frame.recording.rest _⟩
  | error failure => exact ⟨_, rfl, Frame.recording_entered _ _⟩

/-- No failure reaches whoever gives a notice. -/
theorem noticeChange_returns (loader : Loader) (site : Site) :
    ∃ left, loader.noticeChange site = .ok () left := by
  cases closed : site.watch.closed with
  | true => exact ⟨site, noticeChange_of_closed closed⟩
  | false =>
      obtain ⟨left, ended, -⟩ := noticeChange_of_open loader closed
      exact ⟨left, ended⟩

end Loader

/-! ### Steps -/

/-- A step in the life of a loader: it is started or its `with` block is entered, it reloads, it is
closed or its block is left, a change is noticed, or others change the files. -/
inductive LoaderStep where
  | start
  | enter
  | reload
  | close
  | exit
  | notice
  | alter (workspace : Workspace)

namespace LoaderStep

/-- The site that a step leaves behind. Whether it returns or fails does not matter. -/
def after (loader : Loader) (site : Site) : LoaderStep → Site
  | .start | .enter => loader.start.after site
  | .reload => loader.reload.after site
  | .close | .exit => loader.close.after site
  | .notice => loader.noticeChange.after site
  | .alter workspace => { site with workspace }

def starts : LoaderStep → Bool
  | .start | .enter => true
  | _ => false

def closes : LoaderStep → Bool
  | .close | .exit => true
  | _ => false

/-- Whether a step reloads, by whether the watch was closed before. -/
def reloads (closed : Bool) : LoaderStep → Bool
  | .start | .enter | .reload => true
  | .notice => !closed
  | .close | .exit | .alter _ => false

end LoaderStep

/-- How far a watch has come: it waits for a subscription, holds one, or is over, with or without a
subscription that was ended. -/
inductive WatchPhase where
  | waiting
  | held (subscription : Subscription)
  | closed (ended : Bool)

namespace WatchPhase

def watch : WatchPhase → Watch
  | .waiting => {}
  | .held subscription => { subscription := some subscription }
  | .closed _ => { closed := true }

/-- What the journal has been told of subscriptions by the time of a phase. -/
def told : WatchPhase → List SubscriptionEvent
  | .waiting | .closed false => []
  | .held _ => [.obtained]
  | .closed true => [.obtained, .ended]

/-- A phase describes a site: the watch is that of the phase, and the journal has been told what the
phase says since the watch began. -/
structure Describes (phase : WatchPhase) (begun site : Site) : Prop where
  watches : site.watch = phase.watch
  tells : site.subscriptions = begun.subscriptions ++ phase.told

/-- Where a step leads to from a phase. Only a start leads to a subscription, and only from the
phase in which none was obtained. -/
inductive Leads (loader : Loader) (site : Site) : LoaderStep → WatchPhase → WatchPhase → Prop
  | stay {step : LoaderStep} {phase : WatchPhase} :
      step.closes = false → Leads loader site step phase phase
  | obtain {step : LoaderStep} {subscription : Subscription} {left : Site} :
      step.starts = true →
      loader.source.subscribe (loader.reload.after site) = .ok subscription left →
      Leads loader site step .waiting (.held subscription)
  | closeWaiting {step : LoaderStep} :
      step.closes = true → Leads loader site step .waiting (.closed false)
  | closeHeld {step : LoaderStep} {subscription : Subscription} :
      step.closes = true → Leads loader site step (.held subscription) (.closed true)
  | closeAgain {step : LoaderStep} {ended : Bool} :
      step.closes = true → Leads loader site step (.closed ended) (.closed ended)

variable {loader : Loader} {begun site left : Site} {phase next : WatchPhase} {step : LoaderStep}

/-- Nothing but an end of the watch closes it, and nothing opens it again. -/
theorem Leads.closed_eq (leads : Leads loader site step phase next) :
    next.watch.closed = (phase.watch.closed || step.closes) := by
  cases leads with
  | stay remains => rw [remains, Bool.or_false]
  | obtain starts _ => cases step <;> first | rfl | cases starts
  | closeWaiting closes | closeHeld closes | closeAgain closes =>
      rw [closes, Bool.or_true]
      rfl

theorem Describes.fresh (fresh : site.watch = {}) : WatchPhase.waiting.Describes site site :=
  ⟨fresh, (List.append_nil _).symm⟩

/-- What leaves the watch alone leaves it in its phase. -/
theorem Describes.of_watching (described : phase.Describes begun site)
    (allowed : Frame.watching.allows site left) : phase.Describes begun left :=
  ⟨allowed.1.trans described.watches, allowed.2.trans described.tells⟩

theorem Describes.reload (within : loader.Within .watching)
    (described : phase.Describes begun site) :
    phase.Describes begun (loader.reload.after site) :=
  described.of_watching (loader.respects_reload within site)

/-- A start leaves the watch in its phase, unless the watch waits and the source gives the
subscription that it waits for. -/
theorem Describes.start (within : loader.Within .watching)
    (described : phase.Describes begun site) :
    phase.Describes begun (loader.start.after site) ∨
      phase = .waiting ∧ ∃ subscription left,
        loader.source.subscribe (loader.reload.after site) = .ok subscription left ∧
        (held subscription).Describes begun (loader.start.after site) := by
  have reloaded := described.reload within
  rw [Loader.after_start]
  split
  · rcases loader.subscribe_cases (loader.reload.after site) with
      ⟨-, nothing⟩ | ⟨-, failure, left, failed, ended⟩ |
        ⟨fresh, subscription, left, obtained, ended⟩
    · rw [nothing]
      exact .inl reloaded
    · rw [ended]
      exact .inl (reloaded.of_watching (within.subscribes.of_error failed))
    · have waits : phase = .waiting := by
        have watches := reloaded.watches.symm.trans fresh
        cases phase <;> first | rfl | cases watches
      subst waits
      have subscribed := reloaded.of_watching (within.subscribes.of_ok obtained)
      refine .inr ⟨rfl, subscription, left, obtained, ?_⟩
      rw [ended]
      constructor
      · change { left.watch with subscription := some subscription } = _
        rw [subscribed.watches]
        rfl
      · change (left.entered .subscribed).subscriptions = _
        rw [Site.subscriptions_entered, subscribed.tells, List.append_assoc]
        rfl
  · exact .inl reloaded

/-- Closing ends the watch, and with it the subscription where one is held. -/
theorem Describes.close (within : loader.Within .watching) (described : phase.Describes begun site)
    (closes : step.closes = true) :
    ∃ next, Leads loader site step phase next ∧ next.Describes begun (loader.close.after site) := by
  cases phase with
  | waiting =>
      have free : site.watch.subscription = none := by rw [described.watches]; rfl
      rw [Loader.after_close_of_free free]
      exact ⟨.closed false, .closeWaiting closes, rfl, described.tells⟩
  | closed ended =>
      have free : site.watch.subscription = none := by rw [described.watches]; rfl
      rw [Loader.after_close_of_free free]
      exact ⟨.closed ended, .closeAgain closes, rfl, by cases ended <;> exact described.tells⟩
  | held subscription =>
      have held : site.watch.subscription = some subscription := by rw [described.watches]; rfl
      rw [Loader.after_close_of_held held]
      -- The journal is told before the source is asked, so a failure of the source is too late.
      refine ⟨.closed true, .closeHeld closes,
        Describes.of_watching ⟨rfl, ?_⟩ (within.unsubscribes subscription _)⟩
      rw [Site.subscriptions_entered]
      change site.subscriptions ++ [.ended] = _
      rw [described.tells, List.append_assoc]
      rfl

theorem Describes.notice (within : loader.Within .watching)
    (described : phase.Describes begun site) :
    phase.Describes begun (loader.noticeChange.after site) := by
  cases closed : site.watch.closed with
  | true => rwa [Action.after_of_ok (Loader.noticeChange_of_closed closed)]
  | false =>
      obtain ⟨left, ended, records⟩ := loader.noticeChange_of_open closed
      rw [Action.after_of_ok ended]
      exact (described.reload within).of_watching
        (Frame.watching_ignoresRecords.allows_of_recording records)

/-- Every step leads from the phase of a site to that of the site it leaves behind. -/
theorem Describes.after (within : loader.Within .watching) (described : phase.Describes begun site)
    (step : LoaderStep) :
    ∃ next, Leads loader site step phase next ∧ next.Describes begun (step.after loader site) := by
  cases step with
  | start | enter =>
      rcases described.start within with stays | ⟨rfl, subscription, left, obtained, holds⟩
      · exact ⟨phase, .stay rfl, stays⟩
      · exact ⟨.held subscription, .obtain rfl obtained, holds⟩
  | reload => exact ⟨phase, .stay rfl, described.reload within⟩
  | close | exit => exact described.close within rfl
  | notice => exact ⟨phase, .stay rfl, described.notice within⟩
  | alter workspace => exact ⟨phase, .stay rfl, described.of_watching ⟨rfl, rfl⟩⟩

end WatchPhase

/-! ### Histories -/

namespace Loader

variable {loader : Loader} {begun site : Site} {phase : WatchPhase}

/-- The site that a history of steps leaves behind. -/
def afterAll (loader : Loader) (site : Site) (steps : List LoaderStep) : Site :=
  steps.foldl (fun reached step => step.after loader reached) site

theorem afterAll_concat (loader : Loader) (site : Site) (steps : List LoaderStep)
    (step : LoaderStep) :
    loader.afterAll site (steps ++ [step]) = step.after loader (loader.afterAll site steps) :=
  List.foldl_append

/-- The source gave a subscription to one of the starts of a history. -/
def HandedOut (loader : Loader) (begun : Site) (steps : List LoaderStep)
    (subscription : Subscription) : Prop :=
  ∃ before step rest left, steps = before ++ step :: rest ∧ step.starts = true ∧
    loader.source.subscribe (loader.reload.after (loader.afterAll begun before)) =
      .ok subscription left

/-- What a history has come to in a phase. -/
def Explains (loader : Loader) (begun : Site) (steps : List LoaderStep) : WatchPhase → Prop
  | .waiting => ∀ step ∈ steps, step.closes = false
  | .held subscription =>
      (∀ step ∈ steps, step.closes = false) ∧ loader.HandedOut begun steps subscription
  | .closed _ => ∃ step ∈ steps, step.closes = true

theorem HandedOut.concat {steps : List LoaderStep} {subscription : Subscription}
    (handedOut : loader.HandedOut begun steps subscription) (step : LoaderStep) :
    loader.HandedOut begun (steps ++ [step]) subscription := by
  obtain ⟨before, starting, rest, left, rfl, starts, obtained⟩ := handedOut
  exact ⟨before, starting, rest ++ [step], left, by simp, starts, obtained⟩

theorem explains_concat {steps : List LoaderStep} {step : LoaderStep} {next : WatchPhase}
    (explained : loader.Explains begun steps phase)
    (leads : phase.Leads loader (loader.afterAll begun steps) step next) :
    loader.Explains begun (steps ++ [step]) next := by
  have lastStep : step ∈ steps ++ [step] := by simp
  cases leads with
  | stay remains =>
      have remaining (open_ : ∀ earlier ∈ steps, earlier.closes = false) :
          ∀ every ∈ steps ++ [step], every.closes = false :=
        List.forall_mem_append.mpr ⟨open_, List.forall_mem_singleton.mpr remains⟩
      cases phase with
      | waiting => exact remaining explained
      | held subscription => exact ⟨remaining explained.1, explained.2.concat step⟩
      | closed ended =>
          obtain ⟨closing, member, closes⟩ := explained
          exact ⟨closing, List.mem_append_left _ member, closes⟩
  | obtain starts obtained =>
      have remains : step.closes = false := by cases step <;> first | rfl | cases starts
      refine ⟨List.forall_mem_append.mpr ⟨explained, List.forall_mem_singleton.mpr remains⟩, ?_⟩
      exact ⟨steps, step, [], _, rfl, starts, obtained⟩
  | closeWaiting closes | closeHeld closes | closeAgain closes => exact ⟨step, lastStep, closes⟩

/-- After every history the watch is in one of its phases, which explains the history. -/
theorem exists_phase (within : loader.Within .watching) (fresh : begun.watch = {})
    (steps : List LoaderStep) :
    ∃ phase : WatchPhase, phase.Describes begun (loader.afterAll begun steps) ∧
      loader.Explains begun steps phase := by
  -- From the end of the history: what the last step does depends on the phase before it.
  induction steps using List.reverseRecOn with
  | nil => exact ⟨.waiting, .fresh fresh, by simp [Explains]⟩
  | append_singleton steps step inductionHypothesis =>
      obtain ⟨phase, described, explained⟩ := inductionHypothesis
      obtain ⟨next, leads, describes⟩ := described.after within step
      rw [afterAll_concat]
      exact ⟨next, describes, explains_concat explained leads⟩

/-- A watch that is over stays so, and no subscription is obtained or ended any more. -/
theorem subscriptions_afterAll_of_over (within : loader.Within .watching) {ended : Bool}
    (closed : (WatchPhase.closed ended).Describes begun site) (steps : List LoaderStep) :
    (loader.afterAll site steps).subscriptions = site.subscriptions := by
  have remains : (WatchPhase.closed ended).Describes begun (loader.afterAll site steps) := by
    induction steps using List.reverseRecOn with
    | nil => exact closed
    | append_singleton steps step inductionHypothesis =>
        obtain ⟨next, leads, describes⟩ := inductionHypothesis.after within step
        rw [afterAll_concat]
        cases leads <;> exact describes
  rw [remains.tells, closed.tells]

/-- The reloads of a history that return: those of starts, explicit ones, and those that notices
lead to before the watch is closed. -/
def publications (loader : Loader) (closed : Bool) (site : Site) : List LoaderStep → Nat
  | [] => 0
  | step :: rest =>
      (step.reloads closed && loader.returns site).toNat +
        loader.publications (closed || step.closes) (step.after loader site) rest

theorem registry_after_subscribe (quiet : loader.Within (.same (·.registry))) (site : Site) :
    (loader.subscribe.after site).registry = site.registry := by
  rcases loader.subscribe_cases site with
    ⟨-, nothing⟩ | ⟨-, failure, left, failed, ended⟩ | ⟨-, subscription, left, obtained, ended⟩
  · rw [nothing]
  · rw [ended]
    exact quiet.subscribes.of_error failed
  · have kept : left.registry = site.registry := quiet.subscribes.of_ok obtained
    rw [ended]
    exact kept

theorem registry_after_close (quiet : loader.Within (.same (·.registry))) (site : Site) :
    (loader.close.after site).registry = site.registry := by
  cases held : site.watch.subscription with
  | none => rw [after_close_of_free held]
  | some subscription =>
      rw [after_close_of_held held]
      exact quiet.unsubscribes subscription _

/-- A step counts once if it reloads and its reload returns, and not at all otherwise. -/
theorem generation_after (quiet : loader.Within (.same (·.registry))) (site : Site)
    (step : LoaderStep) :
    (step.after loader site).registry.generation = site.registry.generation +
      (step.reloads site.watch.closed && loader.returns site).toNat := by
  have reloaded := generation_after_reload quiet site
  cases step with
  | start | enter =>
      change (loader.start.after site).registry.generation = _ + (loader.returns site).toNat
      rw [after_start, ← reloaded]
      split
      · rw [registry_after_subscribe quiet]
      · rfl
  | reload => exact reloaded
  | close | exit => exact congrArg Registry.generation (registry_after_close quiet site)
  | notice =>
      change (loader.noticeChange.after site).registry.generation = _
      cases closed : site.watch.closed with
      | true =>
          rw [Action.after_of_ok (noticeChange_of_closed closed)]
          rfl
      | false =>
          obtain ⟨left, ended, records⟩ := loader.noticeChange_of_open closed
          rw [Action.after_of_ok ended, Frame.registry_of_recording records]
          exact reloaded
  | alter workspace => rfl

theorem generation_afterAll (within : loader.Within .watching)
    (quiet : loader.Within (.same (·.registry))) (described : phase.Describes begun site)
    (steps : List LoaderStep) :
    (loader.afterAll site steps).registry.generation =
      site.registry.generation + loader.publications site.watch.closed site steps := by
  -- From the front, as the reloads are counted; the phase tells whether a step closes the watch.
  induction steps generalizing site phase with
  | nil => rfl
  | cons step rest inductionHypothesis =>
      obtain ⟨next, leads, describes⟩ := described.after within step
      have closed : (step.after loader site).watch.closed =
          (site.watch.closed || step.closes) := by
        rw [describes.watches, described.watches, leads.closed_eq]
      have further := inductionHypothesis describes
      rw [closed, generation_after quiet, Nat.add_assoc] at further
      exact further

/-- The life of the watch. Whatever happens to a loader, and whatever fails: at most one
subscription is ever obtained, and it is ended at most once. The first end of the watch after it was
obtained ends the subscription that the source gave. Once the watch was closed, notices do nothing
and no further subscription is obtained. A notice always returns. Where nobody else publishes, the
registry counts the reloads that returned. -/
theorem watch_life_cycle (within : loader.Within .watching) (fresh : begun.watch = {})
    (steps : List LoaderStep) :
    let site := loader.afterAll begun steps
    (∃ told, told <+: [.obtained, .ended] ∧ site.subscriptions = begun.subscriptions ++ told) ∧
    (site.subscriptions = begun.subscriptions ++ [.obtained] → ∀ step : LoaderStep,
      step.closes = true → ∃ subscription, loader.HandedOut begun steps subscription ∧
        step.after loader site = (loader.source.unsubscribe subscription).after
          (Site.entered { site with watch := { closed := true } } .unsubscribed) ∧
        (step.after loader site).subscriptions = begun.subscriptions ++ [.obtained, .ended]) ∧
    ((∃ step ∈ steps, step.closes = true) →
      loader.noticeChange site = .ok () site ∧
      ∀ further, (loader.afterAll site further).subscriptions = site.subscriptions) ∧
    (∃ left, loader.noticeChange site = .ok () left) ∧
    (loader.Within (.same (·.registry)) → site.registry.generation =
      begun.registry.generation + loader.publications false begun steps) := by
  intro site
  obtain ⟨phase, described, explained⟩ := exists_phase within fresh steps
  refine ⟨?_, ?_, ?_, loader.noticeChange_returns site, ?_⟩
  · refine ⟨phase.told, ?_, described.tells⟩
    rcases phase with _ | subscription | (_ | _) <;> simp [WatchPhase.told]
  · intro obtained step closes
    -- Only a watch that holds its subscription has told that it was obtained and nothing else.
    have told : phase.told = [.obtained] :=
      List.append_cancel_left (described.tells.symm.trans obtained)
    cases phase with
    | waiting => cases told
    | closed ended => cases ended <;> cases told
    | held subscription =>
        have held : site.watch.subscription = some subscription := by
          rw [described.watches]
          rfl
        obtain ⟨next, leads, describes⟩ := described.after within step
        refine ⟨subscription, explained.2, ?_, ?_⟩
        · rw [← after_close_of_held held]
          cases step <;> first | rfl | cases closes
        · rw [describes.tells]
          cases leads with
          | stay remains => rw [remains] at closes; cases closes
          | closeHeld => rfl
  · rintro ⟨step, member, closes⟩
    have open_ (remains : ∀ step ∈ steps, step.closes = false) : False := by
      rw [remains step member] at closes
      cases closes
    cases phase with
    | waiting => exact (open_ explained).elim
    | held subscription => exact (open_ explained.1).elim
    | closed ended =>
        have closed : site.watch.closed = true := by
          rw [described.watches]
          rfl
        exact ⟨noticeChange_of_closed closed, subscriptions_afterAll_of_over within described⟩
  · intro quiet
    have counted := generation_afterAll within quiet (.fresh fresh) steps
    rwa [fresh] at counted

end Loader

/-! ### A loader of which everything fails at some time -/

/-- A loader that gives no subscription while there are no files, that cannot reload while there is
one, and whose subscriptions never end without a failure. -/
def unreliableLoader : Loader where
  source :=
    { name := "gdal_translate.xml"
      read := do
        let site ← get
        if site.workspace.entries.length = 1 then throw .undecodable
        else throw (.outside (.system ⟨.missing, .none⟩))
      subscribe := do
        let site ← get
        if site.workspace.entries.isEmpty then throw .undecodable else pure (.observer 4)
      unsubscribe := fun _ => throw .undecodable }
  default := Catalog.gdal
  probe := pdfLoader.probe

theorem unreliableLoader_within {frame : Frame} (records : frame.IgnoresRecords)
    (calls : frame.IgnoresCalls) : unreliableLoader.Within frame where
  reads := by
    refine Action.respects_get_bind fun site => ?_
    split <;> exact frame.rest site
  asks _ _ := Probe.respects_supportedFormats records calls (Action.respects_pure _)
  subscribes := by
    refine Action.respects_get_bind fun site => ?_
    split <;> exact frame.rest site
  unsubscribes _ := Action.respects_throw _

/-- The first start gets no subscription, the second cannot reload, and the third gets what it asks
for. After the end of the watch only a start publishes. -/
def eventfulLife : List LoaderStep :=
  let file : List String × Entry := (["gdal_translate.xml"], .file [])
  [.start, .alter { here := [], entries := [file] }, .enter,
    .alter { here := [], entries := [file, file] }, .start, .notice, .start, .exit, .notice, .start,
    .close]

theorem watch_life_cycle_of_unreliable :
    let begun : Site := { workspace := { here := [], entries := [] } }
    let site := unreliableLoader.afterAll begun eventfulLife
    begun.watch = {} ∧ unreliableLoader.Within .watching ∧
    unreliableLoader.Within (.same (·.registry)) ∧
    site.subscriptions = [.obtained, .ended] ∧ site.registry.generation = 5 ∧
    unreliableLoader.noticeChange site = .ok () site := by
  intro begun site
  have fresh : begun.watch = {} := rfl
  have within := unreliableLoader_within Frame.watching_ignoresRecords Frame.watching_ignoresCalls
  have quiet : unreliableLoader.Within (.same (·.registry)) :=
    unreliableLoader_within (fun _ _ => rfl) fun _ _ => rfl
  obtain ⟨-, -, closes, -, counted⟩ := Loader.watch_life_cycle within fresh eventfulLife
  obtain ⟨nothing, -⟩ := closes ⟨.exit, by simp [eventfulLife], rfl⟩
  refine ⟨fresh, within, quiet, by decide +kernel, ?_, nothing⟩
  rw [counted quiet]
  decide +kernel

end GeoBridge
