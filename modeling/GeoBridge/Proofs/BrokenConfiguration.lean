import GeoBridge.Catalog
import GeoBridge.FileSource
import GeoBridge.Proofs.DocumentFaults
import GeoBridge.Proofs.Reload

/-!
Owns what becomes of a loader whose configuration file is broken.

Owns:
- the states of a configuration file as its source reports them;
- runners that only fail as processes do, and the answer of the probe with them;
- the reload at every state of the file: it publishes the accepted configuration or the default,
  unless the file names an encoding of no use.
-/

namespace GeoBridge

/-! ### States of a configuration file -/

/-- What the reading of a configuration file can come to: a fault of the operating system, among
them that there is no such file, something that is no regular file, or any octets whatsoever. -/
inductive FileState where
  | unreadable (fault : SystemFault)
  | irregular (message : String)
  | content (octets : List UInt8)
deriving DecidableEq, Repr

namespace FileState

/-- How the reading of a source ends in a state of its file. -/
def reading : FileState → Except Failure Xml.Document
  | .unreadable fault => .error (.system fault)
  | .irregular message => .error (.irregularSource message)
  | .content octets => .ok (.octets octets)

/-- The configuration that the file holds, if its content is accepted as one. -/
def accepted? : FileState → Option Configuration
  | .content octets => (Configuration.read (.octets octets)).toOption
  | _ => none

/-- The file holds octets that name an encoding of no use. -/
def NamesUnusableEncoding (state : FileState) (problem : Xml.EncodingProblem) : Prop :=
  ∃ octets, state = .content octets ∧ Xml.NamesUnusableEncoding octets problem

end FileState

namespace FileSource

theorem after_read (path : Path) (site : Site) : (read path).after site = site := by
  unfold read
  rw [Action.after_bind, Action.after_inspecting]
  cases (Action.inspecting path (·.probe path)).ending site with
  | error failure => rfl
  | ok found =>
      cases found with
      | none => rfl
      | some entry => cases entry <;> rfl

theorem probe_eq_error {workspace : Workspace} {path : Path} {obstacle : Obstacle}
    (blocked : workspace.probe path = .error obstacle) : obstacle = .nameTooLong := by
  unfold Workspace.probe at blocked
  split at blocked <;> cases blocked
  rfl

theorem after_source_read (path : Path) (site : Site) : (source path).read.after site = site :=
  (Action.after_map _ _ site).trans (after_read path site)

/-- Whatever there is at a path, reading it shows one of the states. -/
theorem exists_state (path : Path) (site : Site) :
    ∃ state : FileState, (source path).read.ending site = state.reading := by
  have ended : (source path).read.ending site = ((read path).ending site).map .octets :=
    Action.ending_map _ _ site
  rw [ended, read, Action.ending_bind, Action.ending_inspecting]
  cases probed : site.workspace.probe path with
  | error obstacle =>
      rw [probe_eq_error probed]
      exact ⟨.unreadable _, rfl⟩
  | ok found =>
      cases found with
      | none => exact ⟨.unreadable _, rfl⟩
      | some entry =>
          cases entry with
          | directory => exact ⟨.irregular _, rfl⟩
          | file octets => exact ⟨.content octets, rfl⟩

end FileSource

/-! ### Reloads -/

/-- A runner ends with an outcome or with a fault of running a process. -/
def FailsAsProcess (runner : Runner) : Prop :=
  ∀ call site failure, (runner call).ending site = .error failure →
    ∃ fault, failure = .outside fault ∧ fault.concernsProcess = true

theorem Probe.supportedFormats_of_failsAsProcess {probe : Probe}
    (runs : FailsAsProcess probe.runner) (executable : String)
    (environment : Option Environment) (site : Site) :
    ∃ left, probe.supportedFormats executable environment site =
        .ok (probe.profile.codesOf (probe.probeEnding executable environment site)) left ∧
      Frame.recording.allows (probe.probeAfter executable environment site) left := by
  rcases supportedFormats_cases probe executable environment site with
    answered | ⟨failure, ended, loud, -⟩
  · exact answered
  · obtain ⟨fault, rfl, concerns⟩ := runs _ _ _ ended
    simp [Failure.leavesSilent, concerns] at loud

namespace Loader

variable {loader : Loader} {state : FileState}

/-- The loader reads documents the way the library does. -/
def ReadsDocuments (loader : Loader) : Prop :=
  ∀ document, loader.read document = (Configuration.read document).mapError .ofUnreadable

theorem inEffect_reading (reads : loader.ReadsDocuments) (state : FileState) :
    loader.inEffect state.reading = state.accepted?.getD loader.default := by
  cases state with
  | unreadable fault => rfl
  | irregular message => rfl
  | content octets =>
      rw [FileState.reading, inEffect, reads, FileState.accepted?]
      cases Configuration.read (.octets octets) <;> rfl

theorem passedOn?_reading_of_unusable (reads : loader.ReadsDocuments)
    {problem : Xml.EncodingProblem} (unusable : state.NamesUnusableEncoding problem) :
    loader.passedOn? state.reading = some (.undecoded problem) := by
  obtain ⟨octets, rfl, names⟩ := unusable
  rw [FileState.reading, passedOn?, reads, Configuration.read_of_unusableEncoding names]
  rfl

theorem passedOn?_reading_of_usable (reads : loader.ReadsDocuments)
    (usable : ∀ problem, ¬ state.NamesUnusableEncoding problem) :
    loader.passedOn? state.reading = none := by
  cases state with
  | unreadable fault => rfl
  | irregular message => rfl
  | content octets =>
      rw [FileState.reading, passedOn?, reads]
      cases read : Configuration.read (.octets octets) with
      | ok configuration => rfl
      | error unreadable =>
          rcases Configuration.read_eq_error read with
            ⟨rejection, rfl⟩ | ⟨_, problem, same, names, rfl⟩
          · rfl
          · cases same
            exact absurd ⟨octets, rfl, names⟩ (usable problem)

/-- A reload at a site goes by a configuration: once the source is read, the tool is asked in the
effective environment, and the snapshot of the configuration with what the tool announces is both
returned and published at the registry that the asking leaves. -/
def Publishes (loader : Loader) (configuration : Configuration) (site : Site) : Prop :=
  let environment := configuration.effectiveEnvironment loader.dataVariable
  ∃ asking left,
    asking.workspace = (loader.source.read.after site).workspace ∧
    asking.registry = (loader.source.read.after site).registry ∧
    let snapshot := Snapshot.build configuration.executable environment
      (configuration.supportedFormats (loader.probe.profile.codesOf
        (loader.probe.probeEnding configuration.executable (some environment) asking)))
    loader.reload site = .ok snapshot left ∧
    left.registry = (loader.probe.probeAfter configuration.executable (some environment)
      asking).registry.publish snapshot

theorem publishes_of_excused (loader : Loader)
    (asks : ∀ executable environment,
      loader.ask executable environment =
        loader.probe.supportedFormats executable (some environment))
    (runs : FailsAsProcess loader.probe.runner) {site : Site}
    (excused : loader.passedOn? (loader.source.read.ending site) = none) :
    loader.Publishes (loader.inEffect (loader.source.read.ending site)) site := by
  obtain ⟨middle, configured, recorded⟩ := readConfiguration_of_excused excused
  generalize loader.inEffect (loader.source.read.ending site) = configuration at configured ⊢
  let environment := configuration.effectiveEnvironment loader.dataVariable
  let asking := middle.entered (.asked configuration.executable environment)
  obtain ⟨answered, answer, silent⟩ := Probe.supportedFormats_of_failsAsProcess runs
    configuration.executable (some environment) asking
  have asked := (congrFun (asks configuration.executable environment) asking).trans answer
  obtain ⟨left, ended, published⟩ := activate_of_answer loader asked
  have whole : loader.reload site = loader.activate configuration middle :=
    Action.bind_of_ok configured
  have sameWorkspace := Frame.workspace_of_recording recorded
  have sameRegistry := Frame.registry_of_recording recorded
  refine ⟨asking, left, sameWorkspace, sameRegistry, whole.trans ended, ?_⟩
  rw [published.registry_eq, Frame.registry_of_recording silent]
  rfl

/-- At every state of its file a loader publishes the configuration that the file holds, or the
default where it holds none, unless the file names an encoding of no use. Then the problem of the
encoding is passed on and nothing is published. All other documents that are no configuration are
rejected as such. -/
theorem reload_of_file_state (source : Source) (default : Configuration) (probe : Probe)
    (dataVariable : Option String) (site : Site) (state : FileState)
    (reads : source.read.ending site = state.reading) (runs : FailsAsProcess probe.runner) :
    let loader : Loader := { source, default, probe, dataVariable }
    ((∀ problem, ¬ state.NamesUnusableEncoding problem) →
      loader.Publishes (state.accepted?.getD default) site) ∧
    (∀ problem, state.NamesUnusableEncoding problem →
      loader.reload site = .error (.undecoded problem) (source.read.after site)) ∧
    (∀ document failure, loader.read document = .error failure →
      (∃ rejection, failure = .rejected rejection) ∨
      ∃ octets problem, document = .octets octets ∧
        Xml.NamesUnusableEncoding octets problem ∧ failure = .undecoded problem) := by
  intro loader
  have reading : loader.source.read.ending site = state.reading := reads
  have documents : loader.ReadsDocuments := fun _ => rfl
  refine ⟨fun usable => ?_, fun problem unusable => ?_, fun document failure refused => ?_⟩
  · have excused := passedOn?_reading_of_usable documents usable
    rw [← reading] at excused
    have published := publishes_of_excused loader (fun _ _ => rfl) runs excused
    rwa [reading, inEffect_reading documents] at published
  · have passedOn := passedOn?_reading_of_unusable documents unusable
    rw [← reading] at passedOn
    exact Action.bind_of_error (readConfiguration_of_passedOn passedOn)
  · rw [documents document] at refused
    cases unread : Configuration.read document with
    | ok configuration =>
        rw [unread] at refused
        cases refused
    | error unreadable =>
        rw [unread] at refused
        cases refused
        rcases Configuration.read_eq_error unread with
          ⟨rejection, rfl⟩ | ⟨octets, problem, rfl, names, rfl⟩
        · exact .inl ⟨rejection, rfl⟩
        · exact .inr ⟨octets, problem, rfl, names, rfl⟩

end Loader

/-- A file that names an encoding that nobody knows. -/
def bogusFile : List UInt8 :=
  Text.Utf8.encode "<?xml version=\"1.0\" encoding=\"bogus\"?><ToolConfiguration/>"

theorem bogusFile_namesUnusableEncoding :
    Xml.NamesUnusableEncoding bogusFile (.unknown "bogus") := by
  refine ⟨" version=\"1.0\" encoding=\"bogus\"".toList, 38, { encoding := some "bogus" }, "bogus",
    by decide +kernel, by decide +kernel, rfl, ?_⟩
  have refused : (match (Xml.Encoding.detect bogusFile).1.adopt "bogus" with
      | .ok _ => none
      | .error fault => some fault) = some (.encoding (.unknown "bogus")) := by decide +kernel
  cases adopted : (Xml.Encoding.detect bogusFile).1.adopt "bogus" with
  | ok encoding => simp [adopted] at refused
  | error fault => simpa [adopted] using refused

/-- A loader whose file names the encoding fails, and one whose file is missing does not. -/
theorem reload_of_bogus_file :
    let site : Site := { workspace := { here := [], entries := [] } }
    let bogus : Loader :=
      { source := .still "gdal_translate.xml" (.ok (.octets bogusFile))
        default := Catalog.gdal
        probe := pdfLoader.probe
        dataVariable := some "GDAL_DATA" }
    let missing : Loader :=
      { source := .still "gdal_translate.xml" (.error (.system ⟨.missing, .none⟩))
        default := Catalog.gdal
        probe := pdfLoader.probe
        dataVariable := some "GDAL_DATA" }
    FailsAsProcess pdfLoader.probe.runner ∧
    bogus.reload site = .error (.undecoded (.unknown "bogus")) site ∧
    missing.Publishes Catalog.gdal site := by
  have runs : FailsAsProcess pdfLoader.probe.runner := fun _ _ _ ended => nomatch ended
  refine ⟨runs, ?_, ?_⟩
  · exact (Loader.reload_of_file_state _ _ _ _ _ (.content bogusFile) rfl runs).2.1 _
      ⟨bogusFile, rfl, bogusFile_namesUnusableEncoding⟩
  · refine (Loader.reload_of_file_state _ _ _ _ _ (.unreadable ⟨.missing, .none⟩) rfl runs).1 ?_
    rintro problem ⟨octets, same, -⟩
    cases same

end GeoBridge
