import GeoBridge.Family
import GeoBridge.Proofs.TrimmedText

/-!
Owns what registrations leave in a registry of families.

Owns:
- the verdict on a candidate, from which registration follows;
- the candidates that a registration offers, and the registry that they leave behind;
- lists of candidates, of which those before the first refused one are registered;
- what a registry shows: the most recent family under each trimmed name, in ascending order.
-/

namespace GeoBridge

/-! ### Verdicts -/

namespace FamilyCandidate

/-- The family that a candidate is registered as, or why it is refused. -/
def verdict : FamilyCandidate → Except Failure Family
  | .unnamed => .error (.family .blankName)
  | .misnamed failure => .error failure
  | .family offered =>
      if Text.isBlankText offered.name then .error (.family .blankName) else .ok offered

/-- Whether a candidate has no name, or one of blanks only. -/
def hasBlankName : FamilyCandidate → Bool
  | .unnamed => true
  | .misnamed _ => false
  | .family offered => Text.isBlankText offered.name

theorem verdict_of_blank {candidate : FamilyCandidate} (blank : candidate.hasBlankName = true) :
    candidate.verdict = .error (.family .blankName) := by
  cases candidate with
  | unnamed => rfl
  | misnamed failure => cases blank
  | family offered => exact if_pos blank

/-- The families among candidates that are registered. -/
def admitted (candidates : List FamilyCandidate) : List Family :=
  candidates.filterMap fun candidate => candidate.verdict.toOption

theorem admitted_append (first second : List FamilyCandidate) :
    admitted (first ++ second) = admitted first ++ admitted second :=
  List.filterMap_append

theorem isBlankText_of_verdict {candidate : FamilyCandidate} {family : Family}
    (verdict : candidate.verdict = .ok family) : Text.isBlankText family.name = false := by
  cases candidate with
  | unnamed => cases verdict
  | misnamed failure => cases verdict
  | family offered =>
      cases blank : Text.isBlankText offered.name with
      | true => simp [FamilyCandidate.verdict, blank] at verdict
      | false =>
          simp only [FamilyCandidate.verdict, blank, Bool.false_eq_true, if_false,
            Except.ok.injEq] at verdict
          rwa [← verdict]

theorem isBlankText_of_mem_admitted {candidates : List FamilyCandidate} {family : Family}
    (member : family ∈ admitted candidates) : Text.isBlankText family.name = false := by
  obtain ⟨candidate, -, told⟩ := List.mem_filterMap.mp member
  cases verdict : candidate.verdict with
  | error failure => simp [verdict, Except.toOption] at told
  | ok offered =>
      simp only [verdict, Except.toOption, Option.some.injEq] at told
      exact told ▸ isBlankText_of_verdict verdict

end FamilyCandidate

open FamilyCandidate (admitted)

namespace FamilyRegistry

variable {registry : FamilyRegistry} {candidate : FamilyCandidate}

/-! ### Registrations -/

/-- The registry with one more family, which takes the place of one with the same trimmed name. -/
def holding (registry : FamilyRegistry) (family : Family) : FamilyRegistry :=
  { registry with families := registry.families.put (Text.trim family.name) family }

theorem register_eq (registry : FamilyRegistry) (candidate : FamilyCandidate) :
    registry.register candidate = candidate.verdict.map registry.holding := by
  cases candidate with
  | unnamed => rfl
  | misnamed failure => rfl
  | family family =>
      simp only [register, FamilyCandidate.verdict, Text.trim_isEmpty]
      split <;> rfl

/-- The candidates that a registration offers, in order, whether they are refused or not. -/
def offers (registry : FamilyRegistry) : Registration → List FamilyCandidate
  | .returns | .fails _ => []
  | .looks next => registry.offers (next registry)
  | .offers candidate next =>
      candidate :: match registry.register candidate with
        | .ok extended => extended.offers (next none)
        | .error failure => registry.offers (next (some failure))

theorem carryOut_of_admitted {family : Family} (verdict : candidate.verdict = .ok family)
    (next : Option Failure → Registration) :
    registry.carryOut (.offers candidate next) =
      (registry.holding family).carryOut (next none) := by
  rw [carryOut, register_eq, verdict]
  rfl

theorem carryOut_of_refused {failure : Failure} (verdict : candidate.verdict = .error failure)
    (next : Option Failure → Registration) :
    registry.carryOut (.offers candidate next) = registry.carryOut (next (some failure)) := by
  rw [carryOut, register_eq, verdict]
  rfl

/-- Whatever a registration does, it leaves the registry with the admitted among its offers. -/
theorem carryOut_fst (registry : FamilyRegistry) (registration : Registration) :
    (registry.carryOut registration).1 =
      (admitted (registry.offers registration)).foldl holding registry := by
  induction registration generalizing registry with
  | returns => rfl
  | fails failure => rfl
  | looks next inductionHypothesis => exact inductionHypothesis registry registry
  | offers candidate next inductionHypothesis =>
      rw [offers, register_eq]
      cases verdict : candidate.verdict with
      | ok family =>
          rw [carryOut_of_admitted verdict, inductionHypothesis]
          simp [admitted, verdict, Except.toOption, Except.map]
      | error failure =>
          rw [carryOut_of_refused verdict, inductionHypothesis]
          simp [admitted, verdict, Except.toOption, Except.map]

/-! ### Lists -/

/-- What offering a list of candidates comes to: either all are registered and the list ends as it
does, or those before the first that is refused are registered, and its refusal is the end. -/
inductive Takes (registry : FamilyRegistry) (candidates : List FamilyCandidate)
    (last : Option Failure) : FamilyRegistry × Option Failure → Prop
  | all (families : List Family) (verdicts : candidates.map (·.verdict) = families.map .ok) :
      Takes registry candidates last (families.foldl holding registry, last)
  | refused (before : List FamilyCandidate) (families : List Family)
      {candidate : FamilyCandidate} {rest : List FamilyCandidate} {failure : Failure}
      (parts : candidates = before ++ candidate :: rest)
      (verdicts : before.map (·.verdict) = families.map .ok)
      (verdict : candidate.verdict = .error failure) :
      Takes registry candidates last (families.foldl holding registry, some failure)

theorem Takes.cons {candidates : List FamilyCandidate} {last : Option Failure} {family : Family}
    {taken : FamilyRegistry × Option Failure} (verdict : candidate.verdict = .ok family)
    (takes : (registry.holding family).Takes candidates last taken) :
    registry.Takes (candidate :: candidates) last taken := by
  cases takes with
  | all families verdicts =>
      apply Takes.all (family :: families)
      simp [verdict, verdicts]
  | refused before families parts verdicts refusal =>
      exact Takes.refused (candidate :: before) (family :: families)
        (congrArg (candidate :: ·) parts) (by simp [verdict, verdicts]) refusal

theorem takes_series (registry : FamilyRegistry) (series : FamilySeries) :
    registry.Takes series.candidates series.failure (registry.carryOut series.registration) := by
  obtain ⟨candidates, last⟩ := series
  induction candidates generalizing registry with
  | nil =>
      cases last with
      | none => exact .all [] rfl
      | some failure => exact .all [] rfl
  | cons candidate rest inductionHypothesis =>
      rw [FamilySeries.registration, Registration.ofCandidates]
      cases verdict : candidate.verdict with
      | ok family =>
          rw [carryOut_of_admitted verdict]
          exact (inductionHypothesis (registry.holding family)).cons verdict
      | error failure =>
          rw [carryOut_of_refused verdict]
          exact .refused [] [] rfl rfl verdict

/-! ### What a registry shows -/

/-- The last of the families that were registered under a trimmed name. -/
def latest? (registered : List Family) (name : String) : Option Family :=
  (registered.filter fun family => Text.trim family.name = name).getLast?

/-- A registry shows what was registered: its names ascend strictly, none is blank or has blanks at
its ends, and under each of them it gives the family that was registered last. -/
structure Shows (registry : FamilyRegistry) (registered : List Family) : Prop where
  ascending : registry.names.Pairwise (· < ·)
  proper : ∀ name ∈ registry.names, name ≠ "" ∧ Text.trim name = name
  named : ∀ name, name ∈ registry.names ↔ ∃ family ∈ registered, Text.trim family.name = name
  found : ∀ name, registry.get name = match latest? registered name with
    | some family => .ok family
    | none => .error (.family (.unknown name registry.names))

/-- The families of a list, each under its trimmed name. -/
def entriesOf (registered : List Family) : Association String Family :=
  registered.map fun family => (Text.trim family.name, family)

theorem families_foldl_holding (registry : FamilyRegistry) (registered : List Family) :
    (registered.foldl holding registry).families =
      registry.families.putAll (entriesOf registered) := by
  induction registered generalizing registry with
  | nil => rfl
  | cons family rest inductionHypothesis => exact inductionHypothesis (registry.holding family)

theorem mem_keys_entriesOf {registered : List Family} {name : String} :
    name ∈ (entriesOf registered).keys ↔ ∃ family ∈ registered, Text.trim family.name = name := by
  simp [entriesOf, Association.keys]

theorem shows_of_registered {registered : List Family}
    (proper : ∀ family ∈ registered, Text.isBlankText family.name = false) :
    (registered.foldl holding {}).Shows registered := by
  have families : (registered.foldl holding {}).families =
      Association.ofEntries (entriesOf registered) := families_foldl_holding {} registered
  have names (name : String) : name ∈ (registered.foldl holding {}).names ↔
      ∃ family ∈ registered, Text.trim family.name = name := by
    rw [FamilyRegistry.names, (Text.ascending_perm _).mem_iff, families,
      Association.mem_keys_ofEntries, mem_keys_entriesOf]
  constructor
  · apply Text.ascending_strict
    rw [families]
    exact Association.nodup_keys_ofEntries _
  · intro name member
    obtain ⟨family, registeredOnce, rfl⟩ := (names name).mp member
    have filled := proper family registeredOnce
    rw [← Text.trim_isEmpty] at filled
    exact ⟨by simpa using filled, Text.trim_trim family.name⟩
  · exact names
  · intro name
    have last : (registered.foldl holding {}).families.find? name = latest? registered name := by
      rw [families, Association.find?_ofEntries]
      have behind := Association.find?_reverse_map registered
        (fun family => Text.trim family.name) id name
      rwa [Option.map_id] at behind
    cases found : latest? registered name <;> simp [FamilyRegistry.get, last, found]

end FamilyRegistry

end GeoBridge
