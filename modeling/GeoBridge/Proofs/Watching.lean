import GeoBridge.FileSource
import GeoBridge.Proofs.Backing

/-!
Owns the watch over a configuration: its beginning and end, and what notices and events lead to.

Owns:
- subscriptions and their ends, none of which publishes;
- the start of a loader, which is a reload;
- notices of change and events, which lead to a reload or to nothing.
-/

namespace GeoBridge

/-! ### Subscriptions -/

namespace Frame

/-- Whatever is entered into the journal, and whatever becomes of the observers, is within a
frame. -/
structure IgnoresObserving (frame : Frame) : Prop where
  entries : ∀ site event, frame.allows site (site.entered event)
  observers : ∀ (site : Site) (observers : List Observer), frame.allows site { site with observers }

theorem later_ignoresObserving : later.IgnoresObserving :=
  ⟨later_entered, fun site _ => later.rest site⟩

end Frame

namespace FileSource

variable {frame : Frame}

theorem respects_subscribe (ignored : frame.IgnoresObserving) (path : Path) :
    (subscribe path).Respects frame := by
  refine Action.respects_get_bind fun site => ?_
  refine Action.Respects.bind (Action.respects_of_after_eq (Action.after_isDirectory _))
    (fun isDirectory => ?_) site
  cases isDirectory with
  | false =>
      exact (Action.respects_enter fun site => ignored.entries site _).bind fun _ =>
        Action.respects_pure _
  | true =>
      refine (Action.respects_enter fun site => ignored.entries site _).bind fun _ => ?_
      refine (Action.respects_enter fun site => ignored.entries site _).bind fun _ => ?_
      refine Action.Respects.bind ?_ fun _ => Action.respects_pure _
      exact fun site => ignored.observers site _

theorem respects_unsubscribe (ignored : frame.IgnoresObserving) (subscription : Subscription) :
    (unsubscribe subscription).Respects frame := by
  cases subscription with
  | idle => exact Action.respects_pure ()
  | observer number =>
      refine Action.respects_get_bind fun site => ?_
      cases found : site.observers[number]? with
      | none => exact frame.rest site
      | some observer =>
          simp only
          by_cases running : observer.running
          · rw [if_pos running]
            have stopped := ignored.observers site (stopped site.observers number)
            exact frame.chain stopped (frame.chain (ignored.entries _ (.observed .stop))
              (ignored.entries _ (.observed (.join 5))))
          · rw [if_neg running]
            exact frame.rest site

end FileSource

namespace Loader

variable {loader : Loader} {frame : Frame}

theorem respects_subscribe (subscribes : loader.source.subscribe.Respects frame)
    (ignored : frame.IgnoresObserving)
    (held : ∀ (site : Site) (subscription : Subscription),
      frame.allows site
        { site with watch := { site.watch with subscription := some subscription } }) :
    loader.subscribe.Respects frame := by
  refine Action.respects_get_bind fun site => ?_
  by_cases open_ : (site.watch.subscription.isNone && !site.watch.closed) = true
  · rw [if_pos open_]
    refine Action.Respects.bind subscribes (fun subscription => ?_) site
    refine (Action.respects_enter fun site => ignored.entries site _).bind fun _ => ?_
    exact fun site => held site subscription
  · rw [if_neg open_]
    exact frame.rest site

/-- What closing does is within a frame, once the end of the watch is. -/
theorem allows_close {site : Site}
    (unsubscribes : ∀ subscription, (loader.source.unsubscribe subscription).Respects frame)
    (ignored : frame.IgnoresObserving) :
    frame.allows { site with watch := { subscription := none, closed := true } }
      (loader.close.after site) := by
  unfold close
  rw [Action.after_get_bind]
  cases watched : site.watch.subscription with
  | none => exact frame.rest _
  | some subscription =>
      have entered := ignored.entries
        { site with watch := { subscription := none, closed := true } } .unsubscribed
      exact frame.chain entered (unsubscribes subscription _)

theorem respects_close
    (unsubscribes : ∀ subscription, (loader.source.unsubscribe subscription).Respects .later) :
    loader.close.Respects .later :=
  fun _ => allows_close unsubscribes Frame.later_ignoresObserving

/-! ### Starts, notices and events -/

/-- A loader that starts has reloaded, and published nothing after that. -/
theorem reload_of_start (subscribes : loader.source.subscribe.Respects .later)
    {snapshot : Snapshot} {begun opened : Site}
    (started : loader.start begun = .ok snapshot opened) :
    ∃ left, loader.reload begun = .ok snapshot left ∧ Frame.later.allows left opened := by
  obtain ⟨found, left, reloaded, rest⟩ := Action.bind_eq_ok.mp started
  obtain ⟨_, reached, subscribing, ended⟩ := Action.bind_eq_ok.mp rest
  cases ended
  have subscribed := respects_subscribe subscribes Frame.later_ignoresObserving
    (fun site _ => Frame.later.rest site) left
  rw [Action.after_of_ok subscribing] at subscribed
  exact ⟨left, reloaded, subscribed⟩

/-- A notice of change does nothing once the watch is closed. Until then it reloads, and publishes
nothing after that. -/
theorem after_noticeChange (loader : Loader) (site : Site) :
    (site.watch.closed = true ∧ loader.noticeChange.after site = site) ∨
      site.watch.closed = false ∧
        Frame.later.allows (loader.reload.after site) (loader.noticeChange.after site) := by
  unfold noticeChange
  rw [Action.after_get_bind]
  cases closed : site.watch.closed with
  | true => exact .inl ⟨rfl, rfl⟩
  | false =>
      refine .inr ⟨rfl, ?_⟩
      have reloaded := Action.outcome_eq loader.reload site
      simp only [Bool.not_false, if_true]
      rw [Action.after_bind, Action.ending_of_ok reloaded, Action.after_of_ok reloaded]
      cases loader.reload.ending site with
      | ok snapshot => exact Frame.later.rest _
      | error failure => exact Frame.later_entered _ _

end Loader

namespace FileSource

/-- The record of a change. -/
def changeRecord (event : FileEvent) : Record :=
  ⟨.debug, .source, "configuration change detected: " ++ event.source.shown, none⟩

/-- An event that is a change is passed on after the record of it, and any other does nothing. -/
theorem after_handle (target : Path) (event : FileEvent) (onChange : Action Unit) (site : Site) :
    (handle target event onChange).after site =
      if event.canChange && event.touches target site.workspace.herePath then
        onChange.after (site.entered (.recorded (changeRecord event)))
      else site := by
  have here : Action.here site = .ok site.workspace.herePath site := rfl
  unfold handle
  rw [Action.after_bind, Action.ending_of_ok here, Action.after_of_ok here]
  simp only
  split
  · have recorded : Action.record .debug .source
        ("configuration change detected: " ++ event.source.shown) none site =
          .ok () (site.entered (.recorded (changeRecord event))) := rfl
    rw [Action.after_bind, Action.ending_of_ok recorded, Action.after_of_ok recorded]
    simp only
    rw [Action.after_bind]
    cases onChange.ending (site.entered (.recorded (changeRecord event))) <;> rfl
  · rfl

end FileSource

end GeoBridge
