import GeoBridge.Proofs.Reload

/-!
Owns the phases that a reload goes through, so that other things can happen between them.

Owns:
- the phases, and the step from each of them to the next;
- the reload as its four steps, and the notice of change as a reload and a report of its failure;
- the snapshot that a reload comes to, by how the reading of the source ended.
-/

namespace GeoBridge

/-- How far a reload has come: nothing is done, the source is read, the configuration is settled,
the probe has answered, or the reload is over. -/
inductive ReloadPhase where
  | begun
  | read (reading : Except Failure Xml.Document)
  | configured (configuration : Configuration)
  | probed (configuration : Configuration) (supported : List String)
  | ended (result : Except Failure Snapshot)

/-- Where a reload goes on once an action has ended: to a phase with its value, or to the end with
its failure. -/
def ReloadPhase.onward {α : Type} (next : α → ReloadPhase) : Except Failure α → ReloadPhase
  | .ok value => next value
  | .error failure => .ended (.error failure)

namespace Loader

variable {loader : Loader} {site left : Site}

/-- One step of a reload. -/
def advance (loader : Loader) : ReloadPhase → Action ReloadPhase
  | .begun => .read <$> loader.source.read.outcome
  | .read reading => .onward .configured <$> (loader.settle reading).outcome
  | .configured configuration =>
      .onward (.probed configuration) <$>
        (loader.askProbe configuration.executable
          (configuration.effectiveEnvironment loader.dataVariable)).outcome
  | .probed configuration supported =>
      .onward (fun snapshot => .ended (.ok snapshot)) <$>
        (loader.announce configuration supported).outcome
  | .ended result => pure (.ended result)

/-- Report how a reload ended that nobody waits for. -/
def report (loader : Loader) : Except Failure Snapshot → Action Unit
  | .ok _ => pure ()
  | .error failure =>
      Action.record .error .loader ("Reloading " ++ loader.source.name ++ " failed") (some failure)

/-! ### The steps together -/

section Steps

variable (loader : Loader) (site : Site)

theorem advance_begun :
    loader.advance .begun site =
      .ok (.read (loader.source.read.ending site)) (loader.source.read.after site) :=
  Action.map_outcome _ _ site

theorem advance_read (reading : Except Failure Xml.Document) :
    loader.advance (.read reading) site =
      .ok (.onward .configured ((loader.settle reading).ending site))
        ((loader.settle reading).after site) :=
  Action.map_outcome _ _ site

theorem advance_configured (configuration : Configuration) :
    let asking := loader.askProbe configuration.executable
      (configuration.effectiveEnvironment loader.dataVariable)
    loader.advance (.configured configuration) site =
      .ok (.onward (.probed configuration) (asking.ending site)) (asking.after site) :=
  Action.map_outcome _ _ site

theorem advance_probed (configuration : Configuration) (supported : List String) :
    let announcing := loader.announce configuration supported
    loader.advance (.probed configuration supported) site =
      .ok (.onward (fun snapshot => .ended (.ok snapshot)) (announcing.ending site))
        (announcing.after site) :=
  Action.map_outcome _ _ site

theorem iterate_ended (count : Nat) (result : Except Failure Snapshot) :
    Action.iterate loader.advance count (.ended result) site = .ok (.ended result) site := by
  have fixed : loader.advance (.ended result) = pure (.ended result) := rfl
  rw [Action.iterate_of_fixed fixed]
  rfl

end Steps

/-- The four steps of a reload do what the reload does, and end as it ends. -/
theorem iterate_begun (loader : Loader) (site : Site) :
    Action.iterate loader.advance 4 .begun site =
      .ok (.ended (loader.reload.ending site)) (loader.reload.after site) := by
  have reading := readConfiguration_eq loader site
  rw [Action.iterate_succ (advance_begun loader site),
    Action.iterate_succ (advance_read loader _ _)]
  cases settled : loader.settle (loader.source.read.ending site)
      (loader.source.read.after site) with
  | error failure left =>
      have whole : loader.reload site = .error failure left :=
        Action.bind_of_error (reading.trans settled)
      rw [Action.ending_of_error settled, Action.after_of_error settled, ReloadPhase.onward,
        iterate_ended, Action.ending_of_error whole, Action.after_of_error whole]
  | ok configuration middle =>
      have activation : loader.reload site = loader.activate configuration middle :=
        Action.bind_of_ok (reading.trans settled)
      rw [activate_eq] at activation
      rw [Action.ending_of_ok settled, Action.after_of_ok settled, ReloadPhase.onward,
        Action.iterate_succ (advance_configured loader middle configuration)]
      cases answer : loader.askProbe configuration.executable
          (configuration.effectiveEnvironment loader.dataVariable) middle with
      | error failure left =>
          have whole := activation.trans (Action.bind_of_error answer)
          rw [Action.ending_of_error answer, Action.after_of_error answer, ReloadPhase.onward,
            iterate_ended, Action.ending_of_error whole, Action.after_of_error whole]
      | ok supported answered =>
          have announcement := activation.trans (Action.bind_of_ok answer)
          rw [Action.ending_of_ok answer, Action.after_of_ok answer, ReloadPhase.onward,
            Action.iterate_succ (advance_probed loader answered configuration supported)]
          cases announced : loader.announce configuration supported answered with
          | error failure left =>
              have whole := announcement.trans announced
              rw [Action.ending_of_error announced, Action.after_of_error announced,
                ReloadPhase.onward, iterate_ended, Action.ending_of_error whole,
                Action.after_of_error whole]
          | ok snapshot left =>
              have whole := announcement.trans announced
              rw [Action.ending_of_ok announced, Action.after_of_ok announced, ReloadPhase.onward,
                iterate_ended, Action.ending_of_ok whole, Action.after_of_ok whole]

/-- A notice of change that is heard is the steps of a reload and the report of how it ended. -/
theorem noticeChange_eq (loader : Loader) {site : Site} (open_ : site.watch.closed = false) :
    loader.noticeChange site =
      loader.report (loader.reload.ending site) (loader.reload.after site) := by
  unfold noticeChange
  rw [Action.get_bind, open_]
  simp only [Bool.not_false, if_true]
  rw [Action.bind_of_ok (Action.outcome_eq loader.reload site)]
  cases loader.reload.ending site <;> rfl

theorem after_noticeChange_of_open (loader : Loader) {site : Site}
    (open_ : site.watch.closed = false) :
    loader.noticeChange.after site =
      (loader.report (loader.reload.ending site)).after (loader.reload.after site) :=
  Action.after_congr (noticeChange_eq loader open_)

end Loader

end GeoBridge
