import GeoBridge.Probe
import GeoBridge.Proofs.Frame

/-!
Owns what comes of asking a tool for the formats it supports.

Owns:
- the call that asks, and the site at which it is made;
- the codes that its end announces, and the failures that leave a tool silent;
- how the question ends: with the codes, unless the runner fails in another way.
-/

namespace GeoBridge

/-- The codes that the end of a probe call announces: none unless it ended with an outcome. -/
def Profile.codesOf (profile : Profile) : Except Failure CommandOutcome → List String
  | .ok outcome => profile.announced outcome.output
  | .error _ => []

/-- The failures of a runner that only leave the tool silent. -/
def Failure.leavesSilent : Failure → Bool
  | .outside fault => fault.concernsProcess
  | .unprobed _ _ => true
  | _ => false

namespace Probe

variable {probe : Probe} {executable : String} {environment : Option Environment} {site : Site}

/-- The call by which a tool is asked for its formats. -/
def probeCall (probe : Probe) (executable : String) (environment : Option Environment) :
    CommandCall :=
  ⟨executable :: probe.profile.probeArguments, environment, probe.limit⟩

/-- The end of the call that asks for the formats, when it is made at a site. -/
def probeEnding (probe : Probe) (executable : String) (environment : Option Environment)
    (site : Site) : Except Failure CommandOutcome :=
  let call := probe.probeCall executable environment
  (probe.runner call).ending (site.entered (.called call site.workspace))

/-- The site that the call leaves behind. -/
def probeAfter (probe : Probe) (executable : String) (environment : Option Environment)
    (site : Site) : Site :=
  let call := probe.probeCall executable environment
  (probe.runner call).after (site.entered (.called call site.workspace))

theorem ask_probeArguments :
    probe.ask executable environment probe.profile.probeArguments site =
      .ok (probe.probeEnding executable environment site)
        (probe.probeAfter executable environment site) :=
  Action.outcome_eq (Action.call probe.runner (probe.probeCall executable environment)) site

theorem listFormats_of_outcome {outcome : CommandOutcome}
    (ended : probe.probeEnding executable environment site = .ok outcome) :
    probe.listFormats executable environment site =
      .ok (probe.profile.announced outcome.output)
        (probe.probeAfter executable environment site) := by
  unfold listFormats
  rw [Action.bind_of_ok ask_probeArguments, ended]
  rfl

theorem listFormats_of_silence {failure : Failure} (silent : failure.leavesSilent = true)
    (ended : probe.probeEnding executable environment site = .error failure) :
    ∃ name cause, probe.listFormats executable environment site =
      .error (.unprobed name cause) (probe.probeAfter executable environment site) := by
  unfold listFormats
  rw [Action.bind_of_ok ask_probeArguments, ended]
  cases failure with
  | outside fault =>
      have concerns : fault.concernsProcess = true := silent
      refine ⟨executable, fault, ?_⟩
      simp only [concerns, if_true]
      rfl
  | unprobed name cause => exact ⟨name, cause, rfl⟩
  | _ => cases silent

theorem listFormats_of_fault {failure : Failure} (fault : failure.leavesSilent = false)
    (ended : probe.probeEnding executable environment site = .error failure) :
    probe.listFormats executable environment site =
      .error failure (probe.probeAfter executable environment site) := by
  unfold listFormats
  rw [Action.bind_of_ok ask_probeArguments, ended]
  cases failure with
  | outside cause =>
      have passes : cause.concernsProcess = false := fault
      simp only [passes, Bool.false_eq_true, if_false]
      rfl
  | unprobed name cause => cases fault
  | _ => rfl

/-- The question ends with the codes that its call announces, and after the call the probe makes one
record of its own. Only a failure that does not leave the tool silent is passed on. -/
theorem supportedFormats_records (probe : Probe) (executable : String)
    (environment : Option Environment) (site : Site) :
    (∃ record : Record, record.area = .probe ∧
      probe.supportedFormats executable environment site =
        .ok (probe.profile.codesOf (probe.probeEnding executable environment site))
          ((probe.probeAfter executable environment site).entered (.recorded record))) ∨
    ∃ failure, probe.probeEnding executable environment site = .error failure ∧
      failure.leavesSilent = false ∧
      probe.supportedFormats executable environment site =
        .error failure (probe.probeAfter executable environment site) := by
  unfold supportedFormats
  cases ended : probe.probeEnding executable environment site with
  | ok outcome =>
      rw [Action.bind_of_ok (Action.outcome_of_ok (listFormats_of_outcome ended))]
      exact .inl ⟨_, rfl, rfl⟩
  | error failure =>
      cases silent : failure.leavesSilent with
      | true =>
          obtain ⟨name, cause, reported⟩ := listFormats_of_silence silent ended
          rw [Action.bind_of_ok (Action.outcome_of_error reported)]
          exact .inl ⟨_, rfl, rfl⟩
      | false =>
          have reported := listFormats_of_fault silent ended
          rw [Action.bind_of_ok (Action.outcome_of_error reported)]
          refine .inr ⟨failure, rfl, silent, ?_⟩
          cases failure with
          | unprobed name cause => cases silent
          | _ => rfl

/-- The question ends with the codes that its call announces, and nothing is done after the call
but to record. Only a failure that does not leave the tool silent is passed on. -/
theorem supportedFormats_cases (probe : Probe) (executable : String)
    (environment : Option Environment) (site : Site) :
    (∃ left, probe.supportedFormats executable environment site =
        .ok (probe.profile.codesOf (probe.probeEnding executable environment site)) left ∧
      Frame.recording.allows (probe.probeAfter executable environment site) left) ∨
    ∃ failure, probe.probeEnding executable environment site = .error failure ∧
      failure.leavesSilent = false ∧
      probe.supportedFormats executable environment site =
        .error failure (probe.probeAfter executable environment site) := by
  rcases supportedFormats_records probe executable environment site with
    ⟨record, -, ended⟩ | failed
  · exact .inl ⟨_, ended, Frame.recording_entered _ _⟩
  · exact .inr failed

/-- Asking stays within every frame that calls, the records of probes and the runner are within. -/
theorem respects_supportedFormats_of_area {frame : Frame}
    (probeRecords : ∀ site (record : Record), record.area = .probe →
      frame.allows site (site.entered (.recorded record)))
    (ignoresCalls : frame.IgnoresCalls)
    (runs : (probe.runner (probe.probeCall executable environment)).Respects frame) :
    (probe.supportedFormats executable environment).Respects frame := by
  intro site
  have called : frame.allows site (probe.probeAfter executable environment site) :=
    frame.chain (ignoresCalls site _) (runs _)
  rcases supportedFormats_records probe executable environment site with
    ⟨record, ofProbe, ended⟩ | ⟨failure, _, _, ended⟩
  · rw [Action.after_of_ok ended]
    exact frame.chain called (probeRecords _ record ofProbe)
  · rw [Action.after_of_error ended]
    exact called

/-- Asking stays within every frame that calls, records and the runner are within. -/
theorem respects_supportedFormats {frame : Frame} (ignoresRecords : frame.IgnoresRecords)
    (ignoresCalls : frame.IgnoresCalls)
    (runs : (probe.runner (probe.probeCall executable environment)).Respects frame) :
    (probe.supportedFormats executable environment).Respects frame :=
  respects_supportedFormats_of_area (fun site record _ => ignoresRecords site record)
    ignoresCalls runs

end Probe

end GeoBridge
