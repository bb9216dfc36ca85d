import GeoBridge.Catalog
import GeoBridge.Loader
import GeoBridge.Proofs.Probing
import GeoBridge.Proofs.Snapshots

/-!
Owns what a reload does: which configuration it goes by, what it asks the probe, and what it
publishes.

Owns:
- the configuration in effect, or the failure that is passed on, by how the reading of the source
  ended;
- the phases of a reload, one statement for each, and the reload as a whole;
- the frames that sources and probes keep, and a reload with them.
-/

namespace GeoBridge

/-- The failures of a source for which the default takes its place: whatever the operating system
reports, and a source that is no regular file. -/
def Failure.isUselessSource : Failure → Bool
  | .outside (.system _) | .irregularSource _ => true
  | _ => false

theorem mapError_eq_ok {ε ζ α : Type} {result : Except ε α} {change : ε → ζ} {value : α} :
    result.mapError change = .ok value ↔ result = .ok value := by
  cases result with
  | ok found =>
      constructor
      · intro mapped
        cases mapped
        rfl
      · intro same
        cases same
        rfl
  | error failure =>
      constructor
      · intro mapped
        cases mapped
      · intro same
        cases same

namespace Loader

variable {loader : Loader} {site left : Site}

/-- The configuration that is in effect once the reading of the source has ended: what its content
is read as, or else the default. -/
def inEffect (loader : Loader) : Except Failure Xml.Document → Configuration
  | .ok document =>
      match loader.read document with
      | .ok configuration => configuration
      | .error _ => loader.default
  | .error _ => loader.default

/-- The failure that is passed on once the reading of the source has ended, if there is one: that of
a source that is not merely useless, or of a document that is not merely rejected. -/
def passedOn? (loader : Loader) : Except Failure Xml.Document → Option Failure
  | .ok document =>
      match loader.read document with
      | .ok _ => none
      | .error failure => if failure.rejectsConfiguration then none else some failure
  | .error failure => if failure.isUselessSource then none else some failure

/-! ### Reading -/

/-- The record of a source whose content is of no use. -/
def uselessRecord (loader : Loader) (activity : String) (failure : Failure) : Record :=
  ⟨.error, .loader, "Error " ++ activity ++ " the " ++ loader.source.name
    ++ " configuration file, using internal defaults", some failure⟩

/-- The configuration that is in effect once the reading of the source has ended, and the records
that are made of it: none of content that is accepted, and one if the default takes its place, which
tells why. -/
inductive Fallback (loader : Loader) :
    Except Failure Xml.Document → Configuration → List Record → Prop
  | accepted {document : Xml.Document} {configuration : Configuration} :
      loader.read document = .ok configuration → Fallback loader (.ok document) configuration []
  | missing {fault : SystemFault} : fault.condition = .missing →
      Fallback loader (.error (.outside (.system fault))) loader.default
        [⟨.info, .loader, "Could not find the " ++ loader.source.name
          ++ " configuration file, using internal defaults", none⟩]
  | irregular (message : String) :
      Fallback loader (.error (.irregularSource message)) loader.default
        [⟨.warning, .loader, message ++ ", using internal defaults", none⟩]
  | unreadable {fault : SystemFault} : fault.condition ≠ .missing →
      Fallback loader (.error (.outside (.system fault))) loader.default
        [loader.uselessRecord "reading" (.outside (.system fault))]
  | rejected {document : Xml.Document} {failure : Failure} :
      loader.read document = .error failure → failure.rejectsConfiguration = true →
      Fallback loader (.ok document) loader.default [loader.uselessRecord "parsing" failure]

/-- The configuration once the source has been read. -/
def settle (loader : Loader) : Except Failure Xml.Document → Action Configuration
  | .ok document => loader.parse document
  | .error failure => do
      loader.excuse failure
      pure loader.default

theorem excuse_of_useless (loader : Loader) {failure : Failure}
    (useless : failure.isUselessSource = true) :
    ∃ record, loader.Fallback (.error failure) loader.default [record] ∧
      (loader.excuse failure).Records () [record] := by
  unfold excuse
  split
  · next fault =>
      by_cases missing : fault.condition = .missing
      · rw [if_pos missing]
        exact ⟨_, .missing missing, Action.records_record _ _ _ _⟩
      · rw [if_neg missing]
        exact ⟨_, .unreadable missing, Action.records_record _ _ _ _⟩
  · exact ⟨_, .irregular _, Action.records_record _ _ _ _⟩
  · next noFault regular =>
      unfold Failure.isUselessSource at useless
      split at useless
      · next fault => exact absurd rfl (noFault fault)
      · next message => exact absurd rfl (regular message)
      · cases useless

theorem excuse_of_fault {failure : Failure} (fault : failure.isUselessSource = false) :
    loader.excuse failure site = .error failure site := by
  unfold excuse
  split
  · cases fault
  · cases fault
  · rfl

theorem content_of_ok {document : Xml.Document}
    (read : loader.source.read site = .ok document left) :
    loader.content site = .ok (some document) left := by
  unfold content
  rw [Action.bind_of_ok (Action.outcome_of_ok read)]
  rfl

theorem readConfiguration_eq (loader : Loader) (site : Site) :
    loader.readConfiguration site =
      loader.settle (loader.source.read.ending site) (loader.source.read.after site) := by
  unfold readConfiguration
  cases read : loader.source.read site with
  | ok document left =>
      have found : (loader.content site) = .ok (some document) left := content_of_ok read
      rw [Action.ending_of_ok read, Action.after_of_ok read]
      exact Action.bind_of_ok found
  | error failure left =>
      rw [Action.ending_of_error read, Action.after_of_error read, settle]
      cases excused : loader.excuse failure left with
      | ok _ recorded =>
          have none_ : loader.content site = .ok none recorded :=
            (Action.bind_of_ok (Action.outcome_of_error read)).trans (Action.bind_of_ok excused)
          rw [Action.bind_of_ok excused]
          exact Action.bind_of_ok none_
      | error passedOn recorded =>
          have failed : loader.content site = .error passedOn recorded :=
            (Action.bind_of_ok (Action.outcome_of_error read)).trans (Action.bind_of_error excused)
          rw [Action.bind_of_error excused]
          exact Action.bind_of_error failed

theorem parse_of_ok {document : Xml.Document} {configuration : Configuration}
    (accepted : loader.read document = .ok configuration) :
    (loader.parse document).Records configuration [] := by
  unfold parse
  rw [accepted]
  exact Action.records_pure configuration

theorem parse_of_rejection {document : Xml.Document} {failure : Failure}
    (rejects : failure.rejectsConfiguration = true)
    (rejected : loader.read document = .error failure) :
    (loader.parse document).Records loader.default [loader.uselessRecord "parsing" failure] := by
  unfold parse
  rw [rejected]
  simp only [rejects, if_true]
  exact (Action.records_record _ _ _ _).bind (Action.records_pure loader.default)

theorem parse_of_fault {document : Xml.Document} {failure : Failure}
    (fault : failure.rejectsConfiguration = false)
    (rejected : loader.read document = .error failure) :
    loader.parse document site = .error failure site := by
  unfold parse
  rw [rejected]
  simp only [fault, Bool.false_eq_true, if_false]
  rfl

/-- Unless a failure is passed on, the configuration in effect is settled by records alone. -/
theorem settle_records {reading : Except Failure Xml.Document}
    (excused : loader.passedOn? reading = none) :
    ∃ records, loader.Fallback reading (loader.inEffect reading) records ∧
      (loader.settle reading).Records (loader.inEffect reading) records := by
  cases reading with
  | ok document =>
      rw [settle]
      cases parsed : loader.read document with
      | ok configuration =>
          simp only [inEffect, parsed]
          exact ⟨_, .accepted parsed, parse_of_ok parsed⟩
      | error failure =>
          have rejects : failure.rejectsConfiguration = true := by
            simpa [passedOn?, parsed] using excused
          simp only [inEffect, parsed]
          exact ⟨_, .rejected parsed rejects, parse_of_rejection rejects parsed⟩
  | error failure =>
      have useless : failure.isUselessSource = true := by simpa [passedOn?] using excused
      obtain ⟨record, fallback, excuses⟩ := excuse_of_useless loader useless
      exact ⟨_, fallback, excuses.bind (Action.records_pure loader.default)⟩

theorem settle_of_passedOn {reading : Except Failure Xml.Document} {failure : Failure}
    (passedOn : loader.passedOn? reading = some failure) (site : Site) :
    loader.settle reading site = .error failure site := by
  cases reading with
  | ok document =>
      rw [settle]
      cases parsed : loader.read document with
      | ok configuration => simp [passedOn?, parsed] at passedOn
      | error refusal =>
          obtain ⟨fault, rfl⟩ : refusal.rejectsConfiguration = false ∧ refusal = failure := by
            simpa [passedOn?, parsed] using passedOn
          exact parse_of_fault fault parsed
  | error refusal =>
      obtain ⟨fault, rfl⟩ : refusal.isUselessSource = false ∧ refusal = failure := by
        simpa [passedOn?] using passedOn
      exact Action.bind_of_error (excuse_of_fault fault)

theorem settle_of_excused {reading : Except Failure Xml.Document}
    (excused : loader.passedOn? reading = none) (site : Site) :
    ∃ left, loader.settle reading site = .ok (loader.inEffect reading) left ∧
      Frame.recording.allows site left := by
  obtain ⟨records, -, settles⟩ := settle_records excused
  exact settles.recording site

/-- Unless a failure is passed on, the reading of a configuration ends with the one in effect, and
only records once the source has been read. -/
theorem readConfiguration_of_excused
    (excused : loader.passedOn? (loader.source.read.ending site) = none) :
    ∃ left, loader.readConfiguration site =
        .ok (loader.inEffect (loader.source.read.ending site)) left ∧
      Frame.recording.allows (loader.source.read.after site) left := by
  rw [readConfiguration_eq]
  exact settle_of_excused excused _

theorem readConfiguration_of_passedOn {failure : Failure}
    (passedOn : loader.passedOn? (loader.source.read.ending site) = some failure) :
    loader.readConfiguration site = .error failure (loader.source.read.after site) := by
  rw [readConfiguration_eq]
  exact settle_of_passedOn passedOn _

/-! ### Publishing -/

/-- The record of a declared format that the tool does not support. -/
def skippedRecord (executable : String) (format : Format) : Record :=
  ⟨.error, .loader, "Skipping '" ++ format.publicName ++ "' as its tool format '"
    ++ format.toolCode ++ "' is not among the ones supported by " ++ executable, none⟩

/-- The record of a snapshot that is published: how many of the declared formats are in it. -/
def loadedRecord (executable : String) (published declared : Nat) : Record :=
  ⟨.info, .loader, "Loaded " ++ toString published ++ " of " ++ toString declared
    ++ " formats for " ++ executable, none⟩

/-- One record for each declared format that the tool does not support, in their order. -/
theorem select_records (configuration : Configuration) (supported : List String) :
    (select configuration supported).Records (configuration.supportedFormats supported)
      ((configuration.formats.filter (!·.isSupported supported)).map
        (skippedRecord configuration.executable)) := by
  let made (format : Format) : List Record :=
    if format.isSupported supported then [] else [skippedRecord configuration.executable format]
  have skipped : (configuration.formats.filter (!·.isSupported supported)).map
      (skippedRecord configuration.executable) = configuration.formats.flatMap made ++ [] := by
    rw [List.append_nil]
    induction configuration.formats with
    | nil => rfl
    | cons format rest inductionHypothesis =>
        rw [List.flatMap_cons, ← inductionHypothesis]
        by_cases supports : format.isSupported supported <;> simp [made, supports]
  rw [skipped]
  unfold select
  refine (Action.records_forIn (fun format => ?_) _).bind (Action.records_pure _)
  by_cases supports : format.isSupported supported
  · simp only [made, supports, Bool.not_true, Bool.false_eq_true, if_false, if_true]
    exact Action.records_pure _
  · simp only [made, supports, Bool.not_false, Bool.false_eq_true, if_false, if_true]
    exact (Action.records_record _ _ _ _).bind (Action.records_pure _)

/-- What is left once a snapshot is published at a site: it is current, the count has grown by one,
and some records have been made. -/
def Published (snapshot : Snapshot) (site left : Site) : Prop :=
  Frame.recording.allows { site with registry := site.registry.publish snapshot } left

theorem Published.registry_eq {snapshot : Snapshot} (published : Published snapshot site left) :
    left.registry = site.registry.publish snapshot := by
  obtain ⟨records, rfl⟩ := published
  rfl

theorem Published.questions_eq {snapshot : Snapshot} (published : Published snapshot site left) :
    left.questions = site.questions := by
  obtain ⟨records, rfl⟩ := published
  simp [Site.questions]

/-- The snapshot that a configuration comes to with an answer of the probe. -/
def snapshotOf (loader : Loader) (configuration : Configuration) (supported : List String) :
    Snapshot :=
  .build configuration.executable (configuration.effectiveEnvironment loader.dataVariable)
    (configuration.supportedFormats supported)

/-- Publish what a tool supports of a configuration, once it has answered. -/
def announce (loader : Loader) (configuration : Configuration) (supported : List String) :
    Action Snapshot := do
  let accepted ← select configuration supported
  let snapshot := Snapshot.build configuration.executable
    (configuration.effectiveEnvironment loader.dataVariable) accepted
  publish snapshot
  Action.record .info .loader
    ("Loaded " ++ toString accepted.length ++ " of " ++ toString configuration.formats.length
      ++ " formats for " ++ configuration.executable)
  pure snapshot

theorem activate_eq (loader : Loader) (configuration : Configuration) :
    loader.activate configuration =
      (loader.askProbe configuration.executable
        (configuration.effectiveEnvironment loader.dataVariable) >>=
          loader.announce configuration) := rfl

variable {configuration : Configuration} {supported : List String} {answered : Site}

/-- The announcement of what a tool supports: the records of what is skipped, the publication, and
the record of what is loaded. -/
theorem announce_eq (loader : Loader) (configuration : Configuration) (supported : List String)
    (site : Site) :
    let snapshot := loader.snapshotOf configuration supported
    loader.announce configuration supported site = .ok snapshot
      (Site.recorded { site with registry := site.registry.publish snapshot }
        ((configuration.formats.filter (!·.isSupported supported)).map
            (skippedRecord configuration.executable) ++
          [loadedRecord configuration.executable (configuration.supportedFormats supported).length
            configuration.formats.length])) := by
  intro snapshot
  unfold announce
  rw [Action.bind_of_ok (select_records configuration supported site), Site.recorded_append]
  rfl

theorem announce_published (loader : Loader) (configuration : Configuration)
    (supported : List String) (site : Site) :
    ∃ left, loader.announce configuration supported site =
        .ok (loader.snapshotOf configuration supported) left ∧
      Published (loader.snapshotOf configuration supported) site left :=
  ⟨_, announce_eq loader configuration supported site, _, rfl⟩

theorem activate_of_answer (loader : Loader)
    (answer : loader.askProbe configuration.executable
      (configuration.effectiveEnvironment loader.dataVariable) site = .ok supported answered) :
    ∃ left, loader.activate configuration site =
        .ok (loader.snapshotOf configuration supported) left ∧
      Published (loader.snapshotOf configuration supported) answered left := by
  rw [activate_eq, Action.bind_of_ok answer]
  exact announce_published loader configuration supported answered

theorem activate_of_silence {failure : Failure}
    (silence : loader.askProbe configuration.executable
      (configuration.effectiveEnvironment loader.dataVariable) site = .error failure answered) :
    loader.activate configuration site = .error failure answered :=
  Action.bind_of_error silence

/-! ### The reload as a whole -/

/-- What it takes for a reload to return: no failure is passed on, and the probe answers. The
records of the reload follow its reading and its question. -/
theorem reload_eq_ok {snapshot : Snapshot} (reloaded : loader.reload site = .ok snapshot left) :
    let configuration := loader.inEffect (loader.source.read.ending site)
    ∃ records supported answered,
      loader.Fallback (loader.source.read.ending site) configuration records ∧
      loader.askProbe configuration.executable
          (configuration.effectiveEnvironment loader.dataVariable)
          ((loader.source.read.after site).recorded records) = .ok supported answered ∧
      loader.announce configuration supported answered = .ok snapshot left := by
  intro configuration
  cases passedOn : loader.passedOn? (loader.source.read.ending site) with
  | some failure =>
      have whole : loader.reload site = .error failure _ :=
        Action.bind_of_error (readConfiguration_of_passedOn passedOn)
      rw [whole] at reloaded
      cases reloaded
  | none =>
      obtain ⟨records, fallback, settles⟩ := settle_records passedOn
      have configured : loader.readConfiguration site =
          .ok configuration ((loader.source.read.after site).recorded records) :=
        (readConfiguration_eq loader site).trans (settles _)
      have whole : loader.reload site = loader.activate configuration _ :=
        Action.bind_of_ok configured
      rw [whole, activate_eq, Action.bind_eq_ok] at reloaded
      obtain ⟨supported, answered, answer, announced⟩ := reloaded
      exact ⟨records, supported, answered, fallback, answer, announced⟩

/-- The snapshot that a reload returns is current. -/
theorem snapshot_of_reload {snapshot : Snapshot}
    (reloaded : loader.reload site = .ok snapshot left) :
    let configuration := loader.inEffect (loader.source.read.ending site)
    left.registry.snapshot = snapshot ∧
      ∃ supported, snapshot = loader.snapshotOf configuration supported := by
  intro configuration
  obtain ⟨_, supported, answered, -, -, announced⟩ := reload_eq_ok reloaded
  rw [announce_eq] at announced
  cases announced
  exact ⟨rfl, supported, rfl⟩

/-- What a loader is promised: configurations name every format once, as validated ones do, and
neither the source nor the probe publishes a snapshot or puts a question of its own. -/
structure IsPromised (loader : Loader) : Prop where
  defaultDistinct : HaveDistinctNames loader.default.formats
  readDistinct : ∀ document configuration, loader.read document = .ok configuration →
    HaveDistinctNames configuration.formats
  sourceQuiet : loader.source.read.Respects .quiet
  probeQuiet : ∀ executable environment, (loader.ask executable environment).Respects .quiet

theorem distinct_inEffect (defaultDistinct : HaveDistinctNames loader.default.formats)
    (readDistinct : ∀ document configuration, loader.read document = .ok configuration →
      HaveDistinctNames configuration.formats)
    (reading : Except Failure Xml.Document) :
    HaveDistinctNames (loader.inEffect reading).formats := by
  cases reading with
  | error failure => exact defaultDistinct
  | ok document =>
      cases read : loader.read document with
      | error failure => simpa only [inEffect, read] using defaultDistinct
      | ok configuration =>
          simpa only [inEffect, read] using readDistinct document configuration read

theorem IsPromised.distinct_inEffect (promised : loader.IsPromised)
    (reading : Except Failure Xml.Document) :
    HaveDistinctNames (loader.inEffect reading).formats :=
  Loader.distinct_inEffect promised.defaultDistinct promised.readDistinct reading

/-- The snapshot of a configuration with an answer of the probe: its executable, the environment,
and those of its formats that are among the supported ones, in their order. -/
theorem snapshotOf_eq (distinct : HaveDistinctNames configuration.formats)
    (supported : List String) :
    loader.snapshotOf configuration supported =
      ⟨configuration.executable, configuration.effectiveEnvironment loader.dataVariable,
        (configuration.formats.filter fun format => format.toolCode ∈ supported).map
          fun format => (format.publicName, format)⟩ := by
  have selected : configuration.supportedFormats supported =
      configuration.formats.filter fun format => format.toolCode ∈ supported := by
    simp [Configuration.supportedFormats, Format.isSupported]
  rw [snapshotOf, selected, Snapshot.build_of_distinct (distinct.filter _)]

/-- What it is to activate a configuration at a site, with the environment of its tool and the codes
that the probe answers. -/
structure Activated (loader : Loader) (configuration : Configuration) (environment : Environment)
    (supported : List String) (site left : Site) (snapshot : Snapshot) : Prop where
  runsIn : configuration.RunsIn loader.dataVariable environment
  askedOnce : left.questions = site.questions ++ [(configuration.executable, environment)]
  answered : ∃ asking answered, asking.registry = site.registry ∧
    asking.questions = left.questions ∧
    loader.ask configuration.executable environment asking = .ok supported answered
  holds : snapshot = ⟨configuration.executable, environment,
    (configuration.formats.filter fun format => format.toolCode ∈ supported).map
      fun format => (format.publicName, format)⟩
  current : left.registry = ⟨snapshot, site.registry.generation + 1⟩

theorem activate_refines (promised : loader.IsPromised)
    (distinct : HaveDistinctNames configuration.formats) (site : Site) :
    match loader.activate configuration site with
    | .ok snapshot left => ∃ environment supported,
        loader.Activated configuration environment supported site left snapshot
    | .error _ left => left.registry = site.registry := by
  let environment := configuration.effectiveEnvironment loader.dataVariable
  let asking := site.entered (.asked configuration.executable environment)
  have probeQuiet := promised.probeQuiet configuration.executable environment asking
  cases answer : loader.ask configuration.executable environment asking with
  | ok supported answered =>
      obtain ⟨sameRegistry, sameQuestions⟩ :
          answered.registry = asking.registry ∧ answered.questions = asking.questions := by
        rwa [Action.after_of_ok answer] at probeQuiet
      obtain ⟨left, ended, published⟩ := activate_of_answer loader answer
      rw [ended]
      have asked : left.questions = asking.questions := published.questions_eq.trans sameQuestions
      refine ⟨environment, supported, ?_⟩
      exact {
        runsIn := configuration.runsIn_effectiveEnvironment loader.dataVariable
        askedOnce := asked.trans (Site.questions_entered_asked site _ _)
        answered := ⟨asking, answered, rfl, asked.symm, answer⟩
        holds := snapshotOf_eq distinct supported
        current := by
          rw [published.registry_eq, Registry.publish, sameRegistry]
          rfl }
  | error failure answered =>
      rw [activate_of_silence answer]
      rw [Action.after_of_error answer] at probeQuiet
      exact probeQuiet.1

/-- A reload that returns has put one question to the probe, with the executable and the environment
of the configuration in effect. It returns the snapshot of that configuration with the answer, which
is now the current one in place of whatever was current before, and the count has grown by one. A
reload that fails leaves the registry as it was. -/
theorem reload_refines (loader : Loader) (promised : loader.IsPromised) (site : Site) :
    match loader.reload site with
    | .ok snapshot left => ∃ environment supported,
        loader.Activated (loader.inEffect (loader.source.read.ending site)) environment supported
          site left snapshot
    | .error _ left => left.registry = site.registry := by
  have sourceQuiet := promised.sourceQuiet site
  cases passedOn : loader.passedOn? (loader.source.read.ending site) with
  | none =>
      obtain ⟨middle, configured, recorded⟩ := readConfiguration_of_excused passedOn
      obtain ⟨sameRegistry, sameQuestions⟩ :
          middle.registry = site.registry ∧ middle.questions = site.questions :=
        Frame.quiet.chain sourceQuiet (Frame.quiet_ignoresRecords.allows_of_recording recorded)
      have activation := activate_refines promised
        (promised.distinct_inEffect (loader.source.read.ending site)) middle
      have whole : loader.reload site = loader.activate _ middle := Action.bind_of_ok configured
      rw [whole]
      split at activation
      · next snapshot left ended =>
          obtain ⟨environment, supported, activated⟩ := activation
          obtain ⟨asking, answered, before, after, answer⟩ := activated.answered
          refine ⟨environment, supported, ?_⟩
          exact {
            runsIn := activated.runsIn
            askedOnce := by rw [activated.askedOnce, sameQuestions]
            answered := ⟨asking, answered, before.trans sameRegistry, after, answer⟩
            holds := activated.holds
            current := by rw [activated.current, sameRegistry] }
      · next failure left ended => exact activation.trans sameRegistry
  | some failure =>
      have whole : loader.reload site = .error failure (loader.source.read.after site) :=
        Action.bind_of_error (readConfiguration_of_passedOn passedOn)
      rw [whole]
      exact sourceQuiet.1

end Loader

/-- A loader of the raster tool whose source is missing, and whose tool announces one format. -/
def pdfLoader : Loader where
  source := .still "gdal_translate.xml" (.error (.system ⟨.missing, .none⟩))
  default := Catalog.gdal
  probe := { profile := .gdalTranslate, runner := fun _ => pure ⟨0, "  PDF: Geospatial PDF\n"⟩ }
  dataVariable := some "GDAL_DATA"

theorem pdfLoader_isPromised : pdfLoader.IsPromised where
  defaultDistinct := by decide
  readDistinct _ _ accepted := Configuration.haveDistinctNames_of_read (mapError_eq_ok.mp accepted)
  sourceQuiet := Action.respects_ofExcept (.error (.system ⟨.missing, .none⟩))
  probeQuiet executable environment := by
    refine Probe.respects_supportedFormats Frame.quiet_ignoresRecords Frame.quiet_ignoresCalls ?_
    exact Action.respects_pure _

/-- Without its source the loader goes by the default, of which one format is left. -/
theorem reload_refines_without_source :
    let site : Site := { workspace := { here := [], entries := [] }, registry := ⟨.empty, 7⟩ }
    pdfLoader.IsPromised ∧
    (pdfLoader.reload.after site).registry.snapshot.names = ["GDAL-PDF"] ∧
    (pdfLoader.reload.after site).registry.generation = 8 ∧
    match pdfLoader.reload site with
    | .ok snapshot left => ∃ environment supported,
        pdfLoader.Activated (pdfLoader.inEffect (pdfLoader.source.read.ending site)) environment
          supported site left snapshot
    | .error _ left => left.registry = site.registry :=
  ⟨pdfLoader_isPromised, by decide +kernel, by decide +kernel,
    Loader.reload_refines pdfLoader pdfLoader_isPromised _⟩

end GeoBridge
