import GeoBridge.Proofs.Probing
import GeoBridge.Proofs.Reload

/-!
Owns what stands behind a snapshot: the probe call that announced its formats.

Owns:
- the frame of everything that comes later without publishing;
- the site at which a reload asks the tool, and what the call announces there;
- the backing of the current snapshot by the reload that published it, which later work keeps and
  which every reload that returns establishes.
-/

namespace GeoBridge

namespace Frame

/-- The registry stays the same and the journal only grows. -/
def later : Frame := (same (·.registry)).both (grows (·.journal))

theorem later_entered (site : Site) (event : Event) : later.allows site (site.entered event) :=
  ⟨rfl, List.prefix_append _ _⟩

theorem later_ignoresRecords : later.IgnoresRecords := fun site _ => later_entered site _

theorem later_ignoresCalls : later.IgnoresCalls := fun site _ => later_entered site _

theorem later_of_recording {site left : Site} (recorded : recording.allows site left) :
    later.allows site left :=
  later_ignoresRecords.allows_of_recording recorded

end Frame

namespace Probe

/-- The codes that the probe call announces when the runner is called at a site. -/
def announcedAt (probe : Probe) (executable : String) (environment : Environment) (asked : Site) :
    List String :=
  probe.profile.codesOf
    ((probe.runner (probe.probeCall executable (some environment))).ending asked)

end Probe

namespace Loader

variable {loader : Loader} {begun site left : Site}

/-- The site at which a reload that began at a site asks the tool: the configuration has been read,
and the call has just been entered into the journal. -/
def askedAt (loader : Loader) (executable : String) (environment : Environment) (begun : Site) :
    Site :=
  let asking := (loader.readConfiguration.after begun).entered (.asked executable environment)
  asking.entered
    (.called (loader.probe.probeCall executable (some environment)) asking.workspace)

/-- The reload that began at a site is the last to have published. It made its probe call with the
executable and the environment of the current snapshot, and the call announced every format that is
active. -/
structure Backs (loader : Loader) (begun site : Site) : Prop where
  published : ∃ left, loader.reload begun = .ok site.registry.snapshot left ∧
    left.registry = site.registry
  last : site.registry.generation = begun.registry.generation + 1
  called : (loader.askedAt site.registry.snapshot.executable site.registry.snapshot.environment
    begun).journal <+: site.journal
  announced : ∀ format ∈ site.registry.snapshot.active, format.toolCode ∈
    loader.probe.announcedAt site.registry.snapshot.executable site.registry.snapshot.environment
      (loader.askedAt site.registry.snapshot.executable site.registry.snapshot.environment begun)

/-- What comes later without publishing keeps the backing. -/
theorem Backs.later (backs : loader.Backs begun site) (allowed : Frame.later.allows site left) :
    loader.Backs begun left := by
  obtain ⟨sameRegistry, grown⟩ := allowed
  obtain ⟨published, last, called, announced⟩ := backs
  have registry : left.registry = site.registry := sameRegistry
  constructor
  · rw [registry]
    exact published
  · rw [registry]
    exact last
  · rw [registry]
    exact called.trans grown
  · rw [registry]
    exact announced

/-- The probe call that backs a snapshot is among the calls. -/
theorem Backs.probeCall_mem_calls (backs : loader.Backs begun site) :
    ∃ found, (loader.probe.probeCall site.registry.snapshot.executable
      (some site.registry.snapshot.environment), found) ∈ site.calls := by
  obtain ⟨later, grown⟩ := backs.called
  refine ⟨(loader.readConfiguration.after begun).workspace, ?_⟩
  unfold Site.calls
  rw [← grown]
  simp [askedAt, Site.entered]

/-- A reload that publishes what its own probe call announced backs the snapshot. -/
theorem backs_of_published {snapshot : Snapshot} {answered : Site}
    (ended : loader.reload begun = .ok snapshot left)
    (published : Published snapshot answered left)
    (sameRegistry : answered.registry = begun.registry)
    (answers : Frame.later.allows
      (loader.askedAt snapshot.executable snapshot.environment begun) answered)
    (announced : ∀ format ∈ snapshot.active, format.toolCode ∈
      loader.probe.announcedAt snapshot.executable snapshot.environment
        (loader.askedAt snapshot.executable snapshot.environment begun)) :
    loader.Backs begun left := by
  have registry : left.registry = begun.registry.publish snapshot := by
    rw [published.registry_eq, sameRegistry]
  have current : left.registry.snapshot = snapshot := by
    rw [registry]
    rfl
  constructor
  · rw [current]
    exact ⟨left, ended, rfl⟩
  · rw [registry]
    rfl
  · rw [current]
    obtain ⟨records, rfl⟩ := published
    exact answers.2.trans (List.prefix_append _ _)
  · rw [current]
    exact announced

/-- Once the configuration is read, a reload that returns leaves a snapshot that is backed by it,
and one that fails does not publish. -/
theorem backs_of_configured {configuration : Configuration} {read : Site}
    (asks : ∀ executable environment,
      loader.ask executable environment =
        loader.probe.supportedFormats executable (some environment))
    (runs : ∀ call, (loader.probe.runner call).Respects .later)
    (configured : loader.readConfiguration begun = .ok configuration read)
    (sinceBegun : Frame.later.allows begun read) :
    (∃ snapshot left, loader.reload begun = .ok snapshot left ∧ loader.Backs begun left) ∨
      ∃ failure left, loader.reload begun = .error failure left ∧
        Frame.later.allows begun left := by
  have whole : loader.reload begun = loader.activate configuration read :=
    Action.bind_of_ok configured
  let environment := configuration.effectiveEnvironment loader.dataVariable
  let call := loader.probe.probeCall configuration.executable (some environment)
  let asking := read.entered (.asked configuration.executable environment)
  let asked := asking.entered (.called call asking.workspace)
  have atCall : loader.askedAt configuration.executable environment begun = asked := by
    unfold askedAt
    rw [Action.after_of_ok configured]
  have toAsked : Frame.later.allows begun asked :=
    Frame.later.chain sinceBegun (Frame.later.chain (Frame.later_entered read _)
      (Frame.later_entered asking _))
  have ran : Frame.later.allows asked
      (loader.probe.probeAfter configuration.executable (some environment) asking) :=
    runs call asked
  rcases Probe.supportedFormats_cases loader.probe configuration.executable (some environment)
      asking with ⟨answered, answer, silent⟩ | ⟨failure, -, -, silence⟩
  · have answers := Frame.later.chain ran (Frame.later_of_recording silent)
    have answer := (congrFun (asks configuration.executable environment) asking).trans answer
    obtain ⟨left, ended, published⟩ := activate_of_answer loader answer
    have sameRegistry : answered.registry = begun.registry :=
      (Frame.later.chain toAsked answers).1
    refine .inl ⟨_, left, whole.trans ended,
      backs_of_published (whole.trans ended) published sameRegistry (atCall ▸ answers) ?_⟩
    intro format member
    have selected := List.mem_filter.mp (Snapshot.mem_of_mem_build_active member)
    change format.toolCode ∈ loader.probe.announcedAt configuration.executable environment
      (loader.askedAt configuration.executable environment begun)
    rw [atCall]
    have announced : format.toolCode ∈ loader.probe.profile.codesOf
        (loader.probe.probeEnding configuration.executable (some environment) asking) := by
      simpa [Format.isSupported] using selected.2
    exact announced
  · have silence := (congrFun (asks configuration.executable environment) asking).trans silence
    exact .inr ⟨failure, _, whole.trans (activate_of_silence silence),
      Frame.later.chain toAsked ran⟩

/-- A reload that returns leaves a snapshot that is backed by it, and one that fails does not
publish. -/
theorem reload_backs (loader : Loader)
    (asks : ∀ executable environment,
      loader.ask executable environment =
        loader.probe.supportedFormats executable (some environment))
    (reads : loader.source.read.Respects .later)
    (runs : ∀ call, (loader.probe.runner call).Respects .later) (begun : Site) :
    (∃ snapshot left, loader.reload begun = .ok snapshot left ∧ loader.Backs begun left) ∨
      ∃ failure left, loader.reload begun = .error failure left ∧
        Frame.later.allows begun left := by
  have sourceRead := reads begun
  cases passedOn : loader.passedOn? (loader.source.read.ending begun) with
  | some failure =>
      have whole : loader.reload begun = .error failure (loader.source.read.after begun) :=
        Action.bind_of_error (readConfiguration_of_passedOn passedOn)
      exact .inr ⟨_, _, whole, sourceRead⟩
  | none =>
      obtain ⟨read, configured, recorded⟩ := readConfiguration_of_excused passedOn
      exact backs_of_configured asks runs configured
        (Frame.later.chain sourceRead (Frame.later_of_recording recorded))

end Loader

end GeoBridge
