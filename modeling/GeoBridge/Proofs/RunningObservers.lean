import GeoBridge.Proofs.ConfigurationChanges
import GeoBridge.Proofs.WatchLifeCycle

/-!
Owns the observers that attend to the watch over a configuration file.

Owns:
- subscribing to a file and ending the subscription: one equation for each way it goes;
- the attendance of a watch: the observer that it has, if any, and what the journal is told of
  observers, from the beginning through every history of steps;
- when a watch counts as watching: while an observer is running, and also while the start that
  asked for one has found no directory.
-/

namespace GeoBridge

/-! ### Subscribing to a file -/

/-- What an entry tells of observers. -/
def Event.observation? : Event → Option ObserverAction
  | .observed action => some action
  | _ => none

theorem Site.observations_entered (site : Site) (event : Event) :
    (site.entered event).observations = site.observations ++ event.observation?.toList := by
  cases event <;> simp [Site.observations, Site.entered, Event.observation?]

namespace FileSource

variable {path : Path} {site : Site}

/-- An observer of the directory of a file, from the working directory at a site. -/
def observerAt (path : Path) (site : Site) : Observer where
  file := path.absolute site.workspace.herePath
  directory := (path.absolute site.workspace.herePath).parent
  running := true

/-- Whether there is the directory of a file, unless that cannot be told. -/
def hasDirectory (path : Path) (site : Site) : Except Failure Bool :=
  (Action.isDirectory (observerAt path site).directory).ending site

/-- The site at which an observer of the directory has been scheduled and started. -/
def attendedAt (path : Path) (site : Site) : Site :=
  { (site.entered (.observed (.schedule (observerAt path site).directory.text false))).entered
      (.observed .start) with
    observers := site.observers ++ [observerAt path site] }

theorem isDirectory_eq (path : Path) (site : Site) :
    Action.isDirectory path site =
      match (Action.isDirectory path).ending site with
      | .ok there => .ok there site
      | .error failure => .error failure site := by
  have still := Action.after_isDirectory path site
  cases asked : Action.isDirectory path site with
  | ok there left =>
      rw [Action.after_of_ok asked] at still
      rw [Action.ending_of_ok asked, still]
  | error failure left =>
      rw [Action.after_of_error asked] at still
      rw [Action.ending_of_error asked, still]

theorem subscribe_of_unknown {failure : Failure} (unknown : hasDirectory path site = .error failure) :
    subscribe path site = .error failure site := by
  have asked := isDirectory_eq (observerAt path site).directory site
  rw [show (Action.isDirectory _).ending site = .error failure from unknown] at asked
  unfold subscribe
  rw [Action.get_bind]
  exact Action.bind_of_error asked

theorem subscribe_of_missing (missing : hasDirectory path site = .ok false) :
    ∃ record, subscribe path site = .ok .idle (site.entered (.recorded record)) := by
  have asked := isDirectory_eq (observerAt path site).directory site
  rw [show (Action.isDirectory _).ending site = .ok false from missing] at asked
  unfold subscribe
  rw [Action.get_bind]
  exact ⟨_, Action.bind_of_ok asked⟩

theorem subscribe_of_there (there : hasDirectory path site = .ok true) :
    subscribe path site = .ok (.observer site.observers.length) (attendedAt path site) := by
  have asked := isDirectory_eq (observerAt path site).directory site
  rw [show (Action.isDirectory _).ending site = .ok true from there] at asked
  unfold subscribe
  rw [Action.get_bind]
  exact Action.bind_of_ok asked

/-- To end a subscription stops and joins its observer, the last there is. -/
theorem after_unsubscribe {before : List Observer} {observer : Observer}
    (observers : site.observers = before ++ [observer]) (running : observer.running = true) :
    (unsubscribe (.observer before.length)).after site =
      { (site.entered (.observed .stop)).entered (.observed (.join 5)) with
        observers := before ++ [{ observer with running := false }] } := by
  have found : site.observers[before.length]? = some observer := by simp [observers]
  have stops : stopped site.observers before.length =
      before ++ [{ observer with running := false }] := by
    rw [stopped, observers, List.modify_eq_take_cons_drop (by simp)]
    simp
  unfold unsubscribe
  rw [Action.after_get_bind, found]
  simp only [running, if_true, stops]
  rfl

end FileSource

/-! ### Attendance -/

namespace Frame

/-- Neither the watch nor the observers change, and the journal is told of neither. -/
def attending : Frame :=
  (same (·.watch)).both ((same (·.observers)).both (same (·.observations)))

theorem attending_entered (site : Site) {event : Event} (silent : event.observation? = none) :
    attending.allows site (site.entered event) := by
  refine ⟨rfl, rfl, ?_⟩
  show (site.entered event).observations = site.observations
  rw [Site.observations_entered, silent]
  exact List.append_nil _

theorem attending_ignoresRecords : attending.IgnoresRecords :=
  fun site _ => attending_entered site rfl

end Frame

/-- The attendance of a watch: it waits for a subscription, has one that nobody serves because there
was no directory, has an observer, or is over, with or without an observer that was dismissed. -/
inductive Attendance where
  | waiting
  | missed
  | attended (observer : Observer)
  | ended (dismissed : Option Observer)

namespace Attendance

/-- The watch, where an observer would have the given number. -/
def watch (number : Nat) : Attendance → Watch
  | .waiting => {}
  | .missed => { subscription := some .idle }
  | .attended _ => { subscription := some (.observer number) }
  | .ended _ => { closed := true }

/-- The observer, once there is one. -/
def observers : Attendance → List Observer
  | .waiting | .missed | .ended none => []
  | .attended observer => [observer]
  | .ended (some observer) => [{ observer with running := false }]

/-- What the journal has been told of observers. -/
def told : Attendance → List ObserverAction
  | .waiting | .missed | .ended none => []
  | .attended observer => [.schedule observer.directory.text false, .start]
  | .ended (some observer) => [.schedule observer.directory.text false, .start, .stop, .join 5]

/-- An attendance describes a site: the watch is that of the attendance, and the observers and what
is told of them have come since the watch began. -/
structure Describes (attendance : Attendance) (begun site : Site) : Prop where
  watches : site.watch = attendance.watch begun.observers.length
  observes : site.observers = begun.observers ++ attendance.observers
  tells : site.observations = begun.observations ++ attendance.told
  runs : ∀ observer, attendance = .attended observer → observer.running = true

/-- What becomes of a watch that waits when it asks for a subscription. -/
def asking (path : Path) (site : Site) : Attendance :=
  match FileSource.hasDirectory path site with
  | .ok true => .attended (FileSource.observerAt path site)
  | .ok false => .missed
  | .error _ => .waiting

/-- What a start that begins at a site makes of an attendance. -/
def afterStart (loader : Loader) (path : Path) (site : Site) : Attendance → Attendance
  | .waiting => if loader.returns site then asking path (loader.reload.after site) else .waiting
  | attendance => attendance

/-- What the end of the watch makes of an attendance. -/
def afterClose : Attendance → Attendance
  | .waiting | .missed => .ended none
  | .attended observer => .ended (some observer)
  | .ended dismissed => .ended dismissed

/-- What a step makes of an attendance. -/
def after (loader : Loader) (path : Path) (site : Site) (attendance : Attendance)
    (step : LoaderStep) : Attendance :=
  if step.starts then attendance.afterStart loader path site
  else if step.closes then attendance.afterClose
  else attendance

variable {loader : Loader} {path : Path} {begun site left : Site} {attendance : Attendance}

theorem Describes.fresh (fresh : site.watch = {}) : waiting.Describes site site where
  watches := fresh
  observes := (List.append_nil _).symm
  tells := (List.append_nil _).symm
  runs _ other := by cases other

theorem Describes.of_attending (described : attendance.Describes begun site)
    (allowed : Frame.attending.allows site left) : attendance.Describes begun left where
  watches := allowed.1.trans described.watches
  observes := allowed.2.1.trans described.observes
  tells := allowed.2.2.trans described.tells
  runs := described.runs

theorem watch_eq_fresh_iff {number : Nat} : attendance.watch number = {} ↔ attendance = .waiting := by
  cases attendance <;> simp [watch]

section Steps

variable (served : loader.source = FileSource.source path)
  (asks : ∀ executable environment, (loader.ask executable environment).Respects .attending)

include served asks

theorem respects_reload : loader.reload.Respects .attending := by
  apply Loader.respects_reload_of _ asks Frame.attending_ignoresRecords
  · exact fun site _ _ => Frame.attending_entered site rfl
  · exact fun site registry => ⟨rfl, rfl, rfl⟩
  · rw [served]
    exact Action.respects_of_after_eq (FileSource.after_source_read path)

theorem Describes.reload (described : attendance.Describes begun site) :
    attendance.Describes begun (loader.reload.after site) :=
  described.of_attending (respects_reload served asks site)

omit asks in
/-- A watch that waits asks for a subscription, and goes without only if it cannot be told whether
there is a directory. -/
theorem Describes.subscribe (described : waiting.Describes begun site) :
    (asking path site).Describes begun (loader.subscribe.after site) := by
  have subscribes : loader.source.subscribe = FileSource.subscribe path := by rw [served]; rfl
  have fresh : site.watch = {} := described.watches
  unfold asking
  cases answered : FileSource.hasDirectory path site with
  | error failure =>
      have refused := FileSource.subscribe_of_unknown answered
      rw [← subscribes] at refused
      rw [Loader.after_subscribe_of_error fresh refused]
      exact described
  | ok there =>
      cases there with
      | false =>
          obtain ⟨record, missed⟩ := FileSource.subscribe_of_missing answered
          rw [← subscribes] at missed
          rw [Loader.after_subscribe_of_ok fresh missed]
          refine ⟨?_, described.observes, ?_, nofun⟩
          · show ({ site.watch with subscription := some .idle } : Watch) = _
            rw [fresh]
            rfl
          · show ((site.entered (.recorded record)).entered .subscribed).observations = _
            simp [Site.observations_entered, Event.observation?, described.tells, told]
      | true =>
          have obtained := FileSource.subscribe_of_there answered
          rw [← subscribes] at obtained
          rw [Loader.after_subscribe_of_ok fresh obtained]
          have observes : site.observers = begun.observers := by
            rw [described.observes, observers, List.append_nil]
          refine ⟨?_, ?_, ?_, fun observer same => ?_⟩
          · show ({ site.watch with
              subscription := some (.observer site.observers.length) } : Watch) = _
            rw [fresh, observes]
            rfl
          · rw [← observes]
            rfl
          · show ((FileSource.attendedAt path site).entered .subscribed).observations = _
            rw [Site.observations_entered]
            show ((site.entered (.observed (.schedule _ false))).entered
              (.observed .start)).observations ++ [] = _
            simp [Site.observations_entered, Event.observation?, described.tells, told]
          · cases same
            rfl

theorem Describes.start (described : attendance.Describes begun site) :
    (attendance.afterStart loader path site).Describes begun (loader.start.after site) := by
  have reloaded := described.reload served asks
  rw [Loader.after_start]
  cases attendance with
  | waiting =>
      rw [afterStart]
      cases loader.returns site with
      | false => exact reloaded
      | true => exact reloaded.subscribe served
  | missed | attended observer | ended dismissed =>
      rcases loader.subscribe_cases (loader.reload.after site) with
        ⟨-, nothing⟩ | ⟨fresh, -⟩ | ⟨fresh, -⟩
      · rw [nothing, ite_self]
        exact reloaded
      all_goals
        rw [reloaded.watches] at fresh
        cases watch_eq_fresh_iff.mp fresh

omit asks in
theorem Describes.close (described : attendance.Describes begun site) :
    attendance.afterClose.Describes begun (loader.close.after site) := by
  have ends (subscription : Subscription) : loader.source.unsubscribe subscription =
      FileSource.unsubscribe subscription := by rw [served]; rfl
  cases attendance with
  | waiting | ended dismissed =>
      have free : site.watch.subscription = none := by rw [described.watches]; rfl
      rw [Loader.after_close_of_free free]
      exact ⟨rfl, described.observes, described.tells, nofun⟩
  | missed =>
      have held : site.watch.subscription = some .idle := by rw [described.watches]; rfl
      rw [Loader.after_close_of_held held, ends]
      refine ⟨rfl, described.observes, ?_, nofun⟩
      show (site.entered .unsubscribed).observations = _
      simp [Site.observations_entered, Event.observation?, described.tells, told, afterClose]
  | attended observer =>
      have held : site.watch.subscription = some (.observer begun.observers.length) := by
        rw [described.watches]
        rfl
      have observes : (Site.entered { site with watch := { closed := true } }
          .unsubscribed).observers = begun.observers ++ [observer] := described.observes
      rw [Loader.after_close_of_held held, ends,
        FileSource.after_unsubscribe observes (described.runs observer rfl)]
      refine ⟨rfl, rfl, ?_, nofun⟩
      show (((site.entered .unsubscribed).entered (.observed .stop)).entered
        (.observed (.join 5))).observations = _
      simp [Site.observations_entered, Event.observation?, described.tells, told, afterClose]

theorem Describes.notice (described : attendance.Describes begun site) :
    attendance.Describes begun (loader.noticeChange.after site) := by
  cases closed : site.watch.closed with
  | true => rwa [Action.after_of_ok (Loader.noticeChange_of_closed closed)]
  | false =>
      obtain ⟨left, ended, records⟩ := loader.noticeChange_of_open closed
      rw [Action.after_of_ok ended]
      exact (described.reload served asks).of_attending
        (Frame.attending_ignoresRecords.allows_of_recording records)

/-- Every step makes of the attendance of a site that of the site it leaves behind. -/
theorem Describes.after (described : attendance.Describes begun site) (step : LoaderStep) :
    (attendance.after loader path site step).Describes begun (step.after loader site) := by
  cases step with
  | start | enter => exact described.start served asks
  | reload => exact described.reload served asks
  | close | exit => exact described.close served
  | notice => exact described.notice served asks
  | alter workspace => exact described.of_attending ⟨rfl, rfl, rfl⟩

end Steps

end Attendance

/-! ### Histories -/

namespace Loader

variable {loader : Loader} {path : Path} {begun asked : Site} {steps : List LoaderStep}

/-- A start of a history asks for a subscription at a site: nothing had become of the watch before,
and the reload of the start has returned and left this site. -/
def AsksAt (loader : Loader) (begun : Site) (steps : List LoaderStep) (asked : Site) : Prop :=
  ∃ before step rest, steps = before ++ step :: rest ∧ step.starts = true ∧
    (loader.afterAll begun before).watch = {} ∧
    loader.returns (loader.afterAll begun before) = true ∧
    asked = loader.reload.after (loader.afterAll begun before)

theorem asksAt_concat {step : LoaderStep} : loader.AsksAt begun (steps ++ [step]) asked ↔
    loader.AsksAt begun steps asked ∨
      step.starts = true ∧ (loader.afterAll begun steps).watch = {} ∧
        loader.returns (loader.afterAll begun steps) = true ∧
        asked = loader.reload.after (loader.afterAll begun steps) := by
  constructor
  · rintro ⟨before, starting, rest, parts, asks⟩
    cases rest using List.reverseRecOn with
    | nil =>
        obtain ⟨rfl, same⟩ := List.append_inj' parts rfl
        cases same
        exact .inr asks
    | append_singleton rest last =>
        rw [← List.cons_append, ← List.append_assoc] at parts
        obtain ⟨rfl, -⟩ := List.append_inj' parts rfl
        exact .inl ⟨before, starting, rest, rfl, asks⟩
  · rintro (⟨before, starting, rest, rfl, asks⟩ | asks)
    · exact ⟨before, starting, rest ++ [step], by simp, asks⟩
    · exact ⟨steps, step, [], rfl, asks⟩

/-- The attendance of a watch that was not closed: it waits as long as no subscription was given,
and from then on it is what asking for one came to. -/
structure IsGiven (loader : Loader) (path : Path) (begun : Site) (steps : List LoaderStep)
    (attendance : Attendance) : Prop where
  comes : attendance = .waiting ∨
    ∃ asked, loader.AsksAt begun steps asked ∧ Attendance.asking path asked = attendance
  remains : ∀ asked, loader.AsksAt begun steps asked →
    Attendance.asking path asked = .waiting ∨ Attendance.asking path asked = attendance

variable {attendance : Attendance}

/-- A start that a waiting watch sees through asks for a subscription. -/
theorem IsGiven.concat_asking (given : loader.IsGiven path begun steps .waiting) {step : LoaderStep}
    (starts : step.starts = true) (fresh : (loader.afterAll begun steps).watch = {})
    (returned : loader.returns (loader.afterAll begun steps) = true) :
    loader.IsGiven path begun (steps ++ [step])
      (.asking path (loader.reload.after (loader.afterAll begun steps))) := by
  constructor
  · exact .inr ⟨_, asksAt_concat.mpr (.inr ⟨starts, fresh, returned, rfl⟩), rfl⟩
  · intro asked asksAt
    rcases asksAt_concat.mp asksAt with earlier | ⟨-, -, -, rfl⟩
    · exact .inl ((given.remains asked earlier).elim id id)
    · exact .inr rfl

/-- A step that does not ask for a subscription gives none. -/
theorem IsGiven.concat_silent (given : loader.IsGiven path begun steps attendance)
    {step : LoaderStep}
    (silent : ¬ (step.starts = true ∧ (loader.afterAll begun steps).watch = {} ∧
      loader.returns (loader.afterAll begun steps) = true)) :
    loader.IsGiven path begun (steps ++ [step]) attendance := by
  constructor
  · rcases given.comes with waits | ⟨asked, asksAt, comes⟩
    · exact .inl waits
    · exact .inr ⟨asked, asksAt_concat.mpr (.inl asksAt), comes⟩
  · intro asked asksAt
    rcases asksAt_concat.mp asksAt with earlier | ⟨starts, fresh, returned, -⟩
    · exact given.remains asked earlier
    · exact (silent ⟨starts, fresh, returned⟩).elim

theorem IsGiven.concat (given : loader.IsGiven path begun steps attendance)
    (described : attendance.Describes begun (loader.afterAll begun steps)) {step : LoaderStep}
    (stays : step.closes = false) :
    loader.IsGiven path begun (steps ++ [step])
      (attendance.after loader path (loader.afterAll begun steps) step) := by
  have fresh_iff : (loader.afterAll begun steps).watch = {} ↔ attendance = .waiting := by
    rw [described.watches, Attendance.watch_eq_fresh_iff]
  by_cases asks : step.starts = true ∧ (loader.afterAll begun steps).watch = {} ∧
      loader.returns (loader.afterAll begun steps) = true
  · obtain ⟨starts, fresh, returned⟩ := asks
    obtain rfl := fresh_iff.mp fresh
    rw [Attendance.after, if_pos starts, Attendance.afterStart, if_pos returned]
    exact given.concat_asking starts fresh returned
  · have keeps : attendance.after loader path (loader.afterAll begun steps) step = attendance := by
      rw [Attendance.after]
      split
      next starts =>
        cases attendance with
        | waiting => exact if_neg fun returned => asks ⟨starts, fresh_iff.mpr rfl, returned⟩
        | missed | attended observer | ended dismissed => rfl
      · rw [stays]
        rfl
    rw [keeps]
    exact given.concat_silent asks

/-- An attendance explains a history: it is over if the watch was closed, and else as given. -/
def Attended (loader : Loader) (path : Path) (begun : Site) (steps : List LoaderStep)
    (attendance : Attendance) : Prop :=
  if ∀ step ∈ steps, step.closes = false then loader.IsGiven path begun steps attendance
  else ∃ dismissed, attendance = .ended dismissed

theorem Attended.concat (explained : loader.Attended path begun steps attendance)
    (described : attendance.Describes begun (loader.afterAll begun steps)) (step : LoaderStep) :
    loader.Attended path begun (steps ++ [step])
      (attendance.after loader path (loader.afterAll begun steps) step) := by
  rw [Attended] at explained ⊢
  cases stays : step.closes with
  | true =>
      have starts : step.starts = false := by cases step <;> first | rfl | cases stays
      rw [if_neg (by simp [stays]), Attendance.after, starts, stays]
      cases attendance <;> exact ⟨_, rfl⟩
  | false =>
      by_cases open_ : ∀ step ∈ steps, step.closes = false
      · rw [if_pos open_] at explained
        rw [if_pos (by simpa [or_imp, forall_and, stays] using open_)]
        exact explained.concat described stays
      · rw [if_neg open_] at explained
        obtain ⟨dismissed, rfl⟩ := explained
        rw [if_neg (fun all => open_ fun step member => all step (by simp [member]))]
        refine ⟨dismissed, ?_⟩
        rw [Attendance.after, stays]
        split <;> rfl

/-- After every history the watch has an attendance, which explains the history. -/
theorem exists_attendance (served : loader.source = FileSource.source path)
    (asks : ∀ executable environment, (loader.ask executable environment).Respects .attending)
    (fresh : begun.watch = {}) (steps : List LoaderStep) :
    ∃ attendance : Attendance, attendance.Describes begun (loader.afterAll begun steps) ∧
      loader.Attended path begun steps attendance := by
  induction steps using List.reverseRecOn with
  | nil =>
      refine ⟨.waiting, .fresh fresh, ?_⟩
      rw [Attended, if_pos (by simp)]
      refine ⟨.inl rfl, ?_⟩
      rintro asked ⟨before, step, rest, parts, -⟩
      simp at parts
  | append_singleton steps step inductionHypothesis =>
      obtain ⟨attendance, described, explained⟩ := inductionHypothesis
      refine ⟨attendance.after loader path (loader.afterAll begun steps) step, ?_,
        explained.concat described step⟩
      rw [afterAll_concat]
      exact described.after served asks step

/-- A watch has a subscription of some kind exactly if it was never closed and a start that asked
for one got it. -/
theorem Attended.eq_iff (explained : loader.Attended path begun steps attendance)
    (held : Attendance) (waitsNot : held ≠ .waiting) (lasts : ∀ dismissed, held ≠ .ended dismissed) :
    attendance = held ↔ (∀ step ∈ steps, step.closes = false) ∧
      ∃ asked, loader.AsksAt begun steps asked ∧ Attendance.asking path asked = held := by
  rw [Attended] at explained
  constructor
  · rintro rfl
    split at explained
    next open_ =>
      rcases explained.comes with waits | comes
      · exact (waitsNot waits).elim
      · exact ⟨open_, comes⟩
    · obtain ⟨dismissed, isOver⟩ := explained
      exact (lasts dismissed isOver).elim
  · rintro ⟨open_, asked, asksAt, comes⟩
    rw [if_pos open_] at explained
    rcases explained.remains asked asksAt with waits | remains
    · exact (waitsNot (comes.symm.trans waits)).elim
    · exact remains.symm.trans comes

end Loader

namespace Attendance

variable {path : Path} {begun site asked : Site} {attendance : Attendance} {observer : Observer}

theorem asking_eq_missed_iff :
    asking path asked = .missed ↔ FileSource.hasDirectory path asked = .ok false := by
  unfold asking
  split <;> simp_all

theorem asking_eq_attended_iff : asking path asked = .attended observer ↔
    FileSource.hasDirectory path asked = .ok true ∧
      FileSource.observerAt path asked = observer := by
  unfold asking
  split <;> simp_all

/-- An observer was scheduled on its directory and started since a site, and was not stopped. -/
structure IsRunning (observer : Observer) (begun site : Site) : Prop where
  told : site.observations =
    begun.observations ++ [.schedule observer.directory.text false, .start]
  observers : site.observers = begun.observers ++ [observer]
  running : observer.running = true

theorem Describes.isRunning_iff (described : attendance.Describes begun site) :
    IsRunning observer begun site ↔ attendance = .attended observer := by
  constructor
  · intro runs
    have observed := List.append_cancel_left (described.observes.symm.trans runs.observers)
    rcases attendance with _ | _ | other | (_ | dismissed)
    · cases observed
    · cases observed
    · cases observed
      rfl
    · cases observed
    · cases observed
      cases runs.running
  · rintro rfl
    exact ⟨described.tells, described.observes, described.runs observer rfl⟩

theorem Describes.isWatching_iff (described : attendance.Describes begun site) :
    site.watch.isWatching = true ↔
      attendance = .missed ∨ ∃ observer, attendance = .attended observer := by
  rw [described.watches]
  cases attendance <;> simp [watch, Watch.isWatching]

end Attendance

open Attendance in
/-- The watch over a configuration file, after every history. It counts as watching exactly while an
observer is running or, so long as the watch is not closed, if the start that asked for a
subscription found no directory. The observer is running exactly if the start that asked found the
directory of the file and the watch was not closed since. Where it found none, there is no
observer. -/
theorem Loader.watching_iff {loader : Loader} {path : Path} {begun : Site}
    (served : loader.source = FileSource.source path)
    (asks : ∀ executable environment, (loader.ask executable environment).Respects .attending)
    (fresh : begun.watch = {}) (steps : List LoaderStep) :
    let site := loader.afterAll begun steps
    let missed := (∀ step ∈ steps, step.closes = false) ∧
      ∃ asked, loader.AsksAt begun steps asked ∧ FileSource.hasDirectory path asked = .ok false
    (site.watch.isWatching = true ↔
      (∃ observer, IsRunning observer begun site) ∨ missed) ∧
    (∀ observer, IsRunning observer begun site ↔ (∀ step ∈ steps, step.closes = false) ∧
      ∃ asked, loader.AsksAt begun steps asked ∧
        FileSource.hasDirectory path asked = .ok true ∧
        FileSource.observerAt path asked = observer) ∧
    (missed → site.observations = begun.observations ∧ site.observers = begun.observers) := by
  intro site missed
  obtain ⟨attendance, described, explained⟩ := exists_attendance served asks fresh steps
  have missed_iff : attendance = .missed ↔ missed := by
    rw [explained.eq_iff .missed nofun nofun]
    simp only [asking_eq_missed_iff, missed]
  refine ⟨?_, ?_, ?_⟩
  · rw [described.isWatching_iff, missed_iff, or_comm]
    simp only [described.isRunning_iff, site]
  · intro observer
    rw [described.isRunning_iff, explained.eq_iff (.attended observer) nofun nofun]
    simp only [asking_eq_attended_iff]
  · intro missing
    obtain rfl := missed_iff.mpr missing
    exact ⟨described.tells.trans (List.append_nil _), described.observes.trans (List.append_nil _)⟩

/-- A loader is started without the directory of its file, and once more when the directory has
come. -/
def belatedLife : List LoaderStep := [.start, .alter (confDirectory true), .start]

/-- Its watch counts as watching, and there is no observer. -/
theorem idle_watch_counts_as_watching :
    let begun : Site := { workspace := { here := [], entries := [] } }
    let site := confLoader.afterAll begun belatedLife
    site.watch.isWatching = true ∧ site.observations = [] ∧
      ∀ observer, ¬ Attendance.IsRunning observer begun site := by
  intro begun site
  have served : confLoader.source = FileSource.source ⟨.single, ["conf", "tool.xml"]⟩ := rfl
  have asks (executable : String) (environment : Environment) :
      (confLoader.ask executable environment).Respects .attending :=
    Action.respects_ofExcept (announced executable environment)
  have fresh : begun.watch = {} := rfl
  obtain ⟨watching, -, nothing⟩ := Loader.watching_iff served asks fresh belatedLife
  have open_ : ∀ step ∈ belatedLife, step.closes = false := by simp [belatedLife, LoaderStep.closes]
  have returned : confLoader.returns begun = true := by decide +kernel
  have asksAt : confLoader.AsksAt begun belatedLife (confLoader.reload.after begun) :=
    ⟨[], .start, _, rfl, rfl, fresh, returned, rfl⟩
  have missing : FileSource.hasDirectory ⟨.single, ["conf", "tool.xml"]⟩
      (confLoader.reload.after begun) = .ok false := by
    decide +kernel
  obtain ⟨unobserved, alone⟩ := nothing ⟨open_, _, asksAt, missing⟩
  refine ⟨watching.mpr (.inr ⟨open_, _, asksAt, missing⟩), unobserved, ?_⟩
  intro observer runs
  have observers := runs.observers
  rw [alone] at observers
  cases observers

end GeoBridge
