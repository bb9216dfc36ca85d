import GeoBridge.Proofs.BrokenConfiguration
import GeoBridge.Proofs.Conversions
import GeoBridge.Proofs.Backing
import GeoBridge.Proofs.FamilyModules
import GeoBridge.Session

/-!
Owns sessions that are started once, used, and closed.

Owns:
- the load that starts a session: one call, and what is active after it;
- the end of a session, which changes neither the calls nor how its use ends.
-/

namespace GeoBridge

/-! ### The load that starts a session -/

theorem FileState.haveDistinctNames_of_accepted {configuration : Configuration}
    (state : FileState) (accepted : state.accepted? = some configuration) :
    HaveDistinctNames configuration.formats := by
  cases state with
  | unreadable | irregular => cases accepted
  | content octets =>
      cases read : Configuration.read (.octets octets) with
      | error unreadable =>
          rw [FileState.accepted?, read] at accepted
          cases accepted
      | ok found =>
          rw [FileState.accepted?, read] at accepted
          cases accepted
          exact Configuration.haveDistinctNames_of_read read

namespace Loader

variable {loader : Loader} {begun : Site}

/-- To activate a configuration is to make one call, for its executable and in its environment. It
leaves the formats that the call announces, unless the call fails in a way of its own. -/
theorem activate_of_silent
    (asks : ∀ executable environment, loader.ask executable environment =
      loader.probe.supportedFormats executable (some environment))
    (runs : ∀ call, (loader.probe.runner call).Respects .sameCalls)
    (configuration : Configuration) (read : Site) :
    let environment := configuration.effectiveEnvironment loader.dataVariable
    let call := loader.probe.probeCall configuration.executable (some environment)
    let asking := read.entered (.asked configuration.executable environment)
    let asked := asking.entered (.called call asking.workspace)
    let snapshot := loader.snapshotOf configuration
      (loader.probe.announcedAt configuration.executable environment asked)
    (∀ failure, (loader.probe.runner call).ending asked = .error failure →
      failure.leavesSilent = true) →
    ∃ left, loader.activate configuration read = .ok snapshot left ∧
      left.registry.snapshot = snapshot ∧
      left.calls = read.calls ++ [(call, read.workspace)] := by
  intro environment call asking asked snapshot silent
  have sameCalls := Frame.sameCalls_ignoresWork.records
  rcases Probe.supportedFormats_cases loader.probe configuration.executable (some environment)
      asking with ⟨answered, answer, recorded⟩ | ⟨failure, refused, loud, -⟩
  · -- A call that fails silently is answered as well, with nothing announced.
    have answer := (congrFun (asks configuration.executable environment) asking).trans answer
    obtain ⟨left, activated, published⟩ := activate_of_answer loader answer
    refine ⟨left, activated, by rw [published.registry_eq]; rfl, ?_⟩
    have ran : (loader.probe.probeAfter configuration.executable (some environment) asking).calls =
        asked.calls := runs call asked
    have answeredCalls : answered.calls = (loader.probe.probeAfter configuration.executable
        (some environment) asking).calls := sameCalls.allows_of_recording recorded
    have before : asking.calls = read.calls := by simp [asking, Site.calls, Site.entered]
    have leftCalls : left.calls = answered.calls := by
      obtain ⟨records, rfl⟩ := published
      simp [Site.calls]
    calc left.calls
      _ = asked.calls := by rw [leftCalls, answeredCalls, ran]
      _ = asking.calls ++ [(call, asking.workspace)] := Site.calls_entered_called asking call _
      _ = read.calls ++ [(call, read.workspace)] := by
          rw [before]
          rfl
  · rw [silent failure refused] at loud
    cases loud

/-- A reload that begins at a site, where no failure of the reading is passed on, activates the
configuration in effect. -/
theorem reload_of_silent
    (asks : ∀ executable environment, loader.ask executable environment =
      loader.probe.supportedFormats executable (some environment))
    (still : ∀ site, loader.source.read.after site = site)
    (runs : ∀ call, (loader.probe.runner call).Respects .sameCalls)
    (excused : loader.passedOn? (loader.source.read.ending begun) = none)
    {configuration : Configuration}
    (inEffect : loader.inEffect (loader.source.read.ending begun) = configuration) :
    let environment := configuration.effectiveEnvironment loader.dataVariable
    let call := loader.probe.probeCall configuration.executable (some environment)
    let asked := loader.askedAt configuration.executable environment begun
    let snapshot := loader.snapshotOf configuration
      (loader.probe.announcedAt configuration.executable environment asked)
    (∀ failure, (loader.probe.runner call).ending asked = .error failure →
      failure.leavesSilent = true) →
    ∃ left, loader.reload begun = .ok snapshot left ∧ left.registry.snapshot = snapshot ∧
      left.calls = begun.calls ++ [(call, begun.workspace)] := by
  obtain ⟨read, configured, recorded⟩ := readConfiguration_of_excused excused
  rw [inEffect] at configured
  rw [still] at recorded
  have whole : loader.reload begun = loader.activate configuration read :=
    Action.bind_of_ok configured
  have sameCalls : read.calls = begun.calls :=
    Frame.sameCalls_ignoresWork.records.allows_of_recording recorded
  have sameFiles : read.workspace = begun.workspace := Frame.workspace_of_recording recorded
  unfold askedAt
  rw [Action.after_of_ok configured, whole, ← sameCalls, ← sameFiles]
  exact activate_of_silent asks runs configuration read

end Loader

/-! ### The file and the end of a session -/

namespace FileSource

/-- A file is read from the files, whatever else there is at a site. -/
theorem ending_source_read_congr (path : Path) {site other : Site}
    (same : site.workspace = other.workspace) :
    (source path).read.ending site = (source path).read.ending other := by
  have ended (site : Site) : (source path).read.ending site =
      ((read path).ending site).map .octets := Action.ending_map _ _ site
  rw [ended, ended, read, Action.ending_bind, Action.ending_bind, Action.ending_inspecting,
    Action.ending_inspecting, same]
  cases other.workspace.probe path with
  | error obstacle => rfl
  | ok found =>
      cases found with
      | none => rfl
      | some entry => cases entry <;> rfl

theorem ending_source_read_of_missing {path : Path} {site : Site}
    (missing : site.workspace.probe path = .ok none) :
    (source path).read.ending site =
      (FileState.unreadable ⟨.missing, .plain path.text⟩).reading := by
  have inspected : Action.inspecting path (·.probe path) site = .ok none site :=
    Action.inspecting_of_ok missing
  have unread : read path site = .error (.system ⟨.missing, .plain path.text⟩) site := by
    unfold read
    rw [Action.bind_of_ok inspected]
    rfl
  have ended : (source path).read.ending site = ((read path).ending site).map .octets :=
    Action.ending_map _ _ site
  rw [ended, Action.ending_of_error unread]
  rfl

theorem unsubscribe_returns (subscription : Subscription) (site : Site) :
    ∃ left, unsubscribe subscription site = .ok () left ∧ left.calls = site.calls := by
  cases subscription with
  | idle => exact ⟨site, rfl, rfl⟩
  | observer number =>
      rw [unsubscribe, Action.get_bind]
      cases site.observers[number]? with
      | none => exact ⟨site, rfl, rfl⟩
      | some observer =>
          simp only
          by_cases running : observer.running
          · rw [if_pos running]
            refine ⟨_, rfl, ?_⟩
            simp [Site.calls]
          · rw [if_neg running]
            exact ⟨site, rfl, rfl⟩

end FileSource

namespace Session

variable {surroundings : Surroundings} {family : Family} {limit : Option Limit} {file : Path}

theorem close_returns (surroundings : Surroundings) (family : Family) (limit : Option Limit)
    (file : Path) (site : Site) :
    ∃ left, (prepare surroundings family limit file).close site = .ok () left ∧
      left.calls = site.calls := by
  unfold close Loader.close
  rw [Action.get_bind]
  cases site.watch.subscription with
  | none => exact ⟨_, rfl, rfl⟩
  | some subscription =>
      obtain ⟨left, ended, same⟩ := FileSource.unsubscribe_returns subscription
        (Site.entered { site with watch := { subscription := none, closed := true } }
          .unsubscribed)
      refine ⟨left, ended, same.trans ?_⟩
      simp [Site.calls, Site.entered]

/-- The end of a session changes neither how its use ends nor the calls. -/
theorem during_prepared {α : Type} (use : Session → Action α) (site : Site) :
    let session := prepare surroundings family limit file
    (session.during use).ending site = (use session).ending site ∧
      ((session.during use).after site).calls = ((use session).after site).calls := by
  intro session
  obtain ⟨left, closed, same⟩ := close_returns surroundings family limit file
    ((use session).after site)
  have used := Action.outcome_eq (use session) site
  have whole : session.during use site = Action.ofExcept ((use session).ending site) left := by
    unfold during Action.finally_
    rw [Action.bind_of_ok used, Action.bind_of_ok closed]
  rw [Action.ending_congr whole, Action.after_congr whole, Action.ending_ofExcept,
    Action.after_ofExcept]
  exact ⟨rfl, same⟩

end Session

end GeoBridge
