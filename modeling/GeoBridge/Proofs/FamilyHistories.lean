import GeoBridge.Proofs.FamilyModules
import GeoBridge.Proofs.FamilyRegistrations

/-!
Owns what a registry of families holds after any history of registrations and loads.

Owns:
- what a module contributes, by the first of the three ways in which it exposes families;
- the steps of a history, which may fail: the registry that each leaves, and what it offered;
- the registry after any history from the built-in families: it shows these and, after them, all
  that was offered and admitted.
-/

namespace GeoBridge

open FamilyCandidate (admitted)

/-! ### Modules -/

/-- What comes of a module that was found: what its own code does, else what comes of its list, else
what comes of its single family. -/
inductive FamilyModule.Contributes (registry : FamilyRegistry) :
    FamilyModule → FamilyRegistry × Option Failure → Prop
  | own {code : Registration} {families : Option FamilySeries} {family : Option FamilyCandidate} :
      Contributes registry (.exposing (some code) families family) (registry.carryOut code)
  | list {series : FamilySeries} {family : Option FamilyCandidate}
      {taken : FamilyRegistry × Option Failure}
      (takes : registry.Takes series.candidates series.failure taken) :
      Contributes registry (.exposing none (some series) family) taken
  | single {candidate : FamilyCandidate} {taken : FamilyRegistry × Option Failure}
      (takes : registry.Takes [candidate] none taken) :
      Contributes registry (.exposing none none (some candidate)) taken
  | nothing :
      Contributes registry (.exposing none none none) (registry, some (.family .exposesNothing))
  | failing {failure : Failure} :
      Contributes registry (.failing failure) (registry, some failure)

theorem FamilyModule.contributes (registry : FamilyRegistry) (content : FamilyModule) :
    content.Contributes registry (registry.registerModule content) := by
  cases content with
  | failing failure => exact .failing
  | exposing own families family =>
      cases own with
      | some code => exact .own
      | none =>
          cases families with
          | some series => exact .list (registry.takes_series series)
          | none =>
              cases family with
              | some candidate => exact .single (registry.takes_series { candidates := [candidate] })
              | none => exact .nothing

/-! ### Histories -/

/-- A step in the history of a registry: a registration, or the load of a module, with the modules
that there are and the site at that time. -/
inductive RegistryStep where
  | register (candidate : FamilyCandidate)
  | load (library : ModuleLibrary) (named : String) (site : Site)

namespace FamilyRegistry

variable {registry : FamilyRegistry}

/-- The registry that a step leaves, and the failure that it ends with, if it fails. -/
def outcome (registry : FamilyRegistry) : RegistryStep → FamilyRegistry × Option Failure
  | .register candidate =>
      match registry.register candidate with
      | .ok extended => (extended, none)
      | .error failure => (registry, some failure)
  | .load library named site =>
      match (registry.load library named).ending site with
      | .ok loaded => loaded
      | .error failure => (registry, some failure)

/-- The candidates that a module offers if it is found, in order. -/
def offersOfFound (registry : FamilyRegistry) :
    Except Failure FamilyModule → List FamilyCandidate
  | .ok content => registry.offers content.registration
  | .error _ => []

/-- The candidates that a step offers, in order, whether they are refused or not. -/
def offersOf (registry : FamilyRegistry) : RegistryStep → List FamilyCandidate
  | .register candidate => [candidate]
  | .load library named site => registry.offersOfFound ((library.find named).ending site)

/-- The registry after a history. -/
def afterAll (registry : FamilyRegistry) (steps : List RegistryStep) : FamilyRegistry :=
  steps.foldl (fun reached step => (reached.outcome step).1) registry

/-- The candidates that a history offers, in order. -/
def offersOfAll (registry : FamilyRegistry) : List RegistryStep → List FamilyCandidate
  | [] => []
  | step :: rest => registry.offersOf step ++ (registry.outcome step).1.offersOfAll rest

theorem outcome_register (registry : FamilyRegistry) (candidate : FamilyCandidate) :
    registry.outcome (.register candidate) =
      match candidate.verdict with
      | .ok family => (registry.holding family, none)
      | .error failure => (registry, some failure) := by
  unfold outcome
  simp only [register_eq]
  cases candidate.verdict <;> rfl

theorem outcome_load (registry : FamilyRegistry) (library : ModuleLibrary) (named : String)
    (site : Site) : registry.outcome (.load library named site) =
      registry.taking ((library.find named).ending site) := by
  unfold outcome
  simp only [Action.ending_of_ok (load_eq registry library named site)]

theorem taking_fst (registry : FamilyRegistry) (found : Except Failure FamilyModule) :
    (registry.taking found).1 = (admitted (registry.offersOfFound found)).foldl holding registry := by
  cases found with
  | ok content => exact carryOut_fst registry content.registration
  | error failure => rfl

/-- A step leaves the registry with the admitted among its offers. -/
theorem outcome_fst (registry : FamilyRegistry) (step : RegistryStep) :
    (registry.outcome step).1 = (admitted (registry.offersOf step)).foldl holding registry := by
  cases step with
  | register candidate =>
      show _ = (admitted [candidate]).foldl holding registry
      rw [outcome_register]
      cases verdict : candidate.verdict <;> simp [admitted, verdict, Except.toOption]
  | load library named site =>
      rw [outcome_load]
      exact taking_fst registry ((library.find named).ending site)

/-- A history leaves the registry with the admitted among all its offers. -/
theorem afterAll_eq (registry : FamilyRegistry) (steps : List RegistryStep) :
    registry.afterAll steps = (admitted (registry.offersOfAll steps)).foldl holding registry := by
  induction steps generalizing registry with
  | nil => rfl
  | cons step rest inductionHypothesis =>
      calc registry.afterAll (step :: rest)
        _ = (admitted ((registry.outcome step).1.offersOfAll rest)).foldl holding
              (registry.outcome step).1 := inductionHypothesis (registry.outcome step).1
        _ = (admitted (registry.offersOfAll (step :: rest))).foldl holding registry := by
            rw [offersOfAll, FamilyCandidate.admitted_append, List.foldl_append, ← outcome_fst]

/-! ### Blank names -/

theorem outcome_of_blank {candidate : FamilyCandidate} (blank : candidate.hasBlankName = true) :
    registry.outcome (.register candidate) = (registry, some (.family .blankName)) := by
  rw [outcome_register, FamilyCandidate.verdict_of_blank blank]

/-- Of a list, those before a blank name are registered, and it ends there. -/
theorem carryOut_of_blank {before rest : List FamilyCandidate} {families : List Family}
    {candidate : FamilyCandidate} (blank : candidate.hasBlankName = true)
    (verdicts : before.map (·.verdict) = families.map .ok) (last : Option Failure) :
    registry.carryOut (FamilySeries.registration ⟨before ++ candidate :: rest, last⟩) =
      (families.foldl holding registry, some (.family .blankName)) := by
  induction before generalizing registry families with
  | nil =>
      obtain rfl : families = [] := List.map_eq_nil_iff.mp verdicts.symm
      exact carryOut_of_refused (FamilyCandidate.verdict_of_blank blank) _
  | cons first further inductionHypothesis =>
      cases families with
      | nil => cases verdicts
      | cons family families =>
          rw [List.map_cons, List.map_cons, List.cons.injEq] at verdicts
          exact (carryOut_of_admitted verdicts.1 _).trans (inductionHypothesis verdicts.2)

/-- What is registered from a list has no blank name. -/
theorem isBlankText_of_verdicts {candidates : List FamilyCandidate} {families : List Family}
    (verdicts : candidates.map (·.verdict) = families.map .ok) :
    ∀ family ∈ families, Text.isBlankText family.name = false := by
  intro family member
  have verdict : Except.ok family ∈ candidates.map (·.verdict) :=
    verdicts ▸ List.mem_map_of_mem member
  obtain ⟨candidate, -, told⟩ := List.mem_map.mp verdict
  exact FamilyCandidate.isBlankText_of_verdict told

/-! ### The built-in families -/

/-- What is registered after a history: the built-in families, and all that was offered and
admitted. -/
def registeredAfter (steps : List RegistryStep) : List Family :=
  [Family.gdal, Family.ogr] ++ admitted (builtin.offersOfAll steps)

theorem builtin_eq : builtin = [Family.gdal, Family.ogr].foldl holding {} := by
  decide +kernel

theorem afterAll_builtin (steps : List RegistryStep) :
    builtin.afterAll steps = (registeredAfter steps).foldl holding {} := by
  rw [registeredAfter, List.foldl_append, ← builtin_eq]
  exact afterAll_eq builtin steps

theorem isBlankText_registeredAfter (steps : List RegistryStep) :
    ∀ family ∈ registeredAfter steps, Text.isBlankText family.name = false := by
  have builtin_ : ∀ family ∈ [Family.gdal, Family.ogr], Text.isBlankText family.name = false := by
    decide +kernel
  rw [registeredAfter, List.forall_mem_append]
  exact ⟨builtin_, fun family => FamilyCandidate.isBlankText_of_mem_admitted⟩

/-- After any history from the built-in families, a registry shows these and, after them, whatever
was offered and admitted. A module that is found contributes by the first of the ways in which it
exposes families. A blank name is refused as such and changes nothing: the code of a module goes on
with the same registry, and a list ends with those before the blank name registered. -/
theorem shows_after_history (steps : List RegistryStep) :
    let registry := builtin.afterAll steps
    registry.Shows (registeredAfter steps) ∧
    (∀ (library : ModuleLibrary) named site content,
      (library.find named).ending site = .ok content →
      content.Contributes registry (registry.outcome (.load library named site))) ∧
    (∀ (library : ModuleLibrary) named site failure,
      (library.find named).ending site = .error failure →
      registry.outcome (.load library named site) = (registry, some failure)) ∧
    ∀ candidate : FamilyCandidate, candidate.hasBlankName = true →
      registry.outcome (.register candidate) = (registry, some (.family .blankName)) ∧
      (∀ next, registry.carryOut (.offers candidate next) =
        registry.carryOut (next (some (.family .blankName)))) ∧
      ∀ before families rest last,
        before.map FamilyCandidate.verdict = families.map Except.ok →
        ∃ left, registry.carryOut
            (FamilySeries.registration ⟨before ++ candidate :: rest, last⟩) =
              (left, some (.family .blankName)) ∧
          left.Shows (registeredAfter steps ++ families) := by
  intro registry
  have held : registry = (registeredAfter steps).foldl holding {} := afterAll_builtin steps
  have proper := isBlankText_registeredAfter steps
  refine ⟨held ▸ shows_of_registered proper, ?_, ?_, ?_⟩
  · intro library named site content found
    rw [outcome_load, found]
    exact content.contributes registry
  · intro library named site failure missed
    rw [outcome_load, missed]
    rfl
  · intro candidate blank
    refine ⟨outcome_of_blank blank,
      carryOut_of_refused (FamilyCandidate.verdict_of_blank blank), ?_⟩
    intro before families rest last verdicts
    refine ⟨_, carryOut_of_blank blank verdicts last, ?_⟩
    rw [held, ← List.foldl_append]
    apply shows_of_registered
    exact List.forall_mem_append.mpr ⟨proper, isBlankText_of_verdicts verdicts⟩

/-- A family takes the place of a built-in one whose name differs only in blanks. -/
example : (builtin.afterAll [.register (.family { Family.gdal with name := "ogr\n" })]).get "ogr" =
    .ok { Family.gdal with name := "ogr\n" } := by
  decide +kernel

end FamilyRegistry

end GeoBridge
