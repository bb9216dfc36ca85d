import GeoBridge.Family
import GeoBridge.Proofs.Frame

/-!
Owns where a text that names a module of families leads, and what loading the module comes to.

Owns:
- the import of modules by name, which fails in one way only;
- the modules in files, and where a text leads: every way it can go, with one equation for each;
- the load of a module, which changes nothing at the site, and of several in turn.
-/

namespace GeoBridge

/-- Whether a failure says that something is wrong with a tool family. -/
def Failure.concernsFamilies : Failure → Bool
  | .family _ => true
  | _ => false

namespace ModuleLibrary

variable {library : ModuleLibrary} {named : String} {site : Site} {content : FamilyModule}
  {failure : Failure} {frame : Frame}

/-! ### Import by name -/

theorem importByName_eq_error (refused : library.importByName named = .error failure) :
    ∃ reason, failure = .family (.notImported named reason) := by
  unfold importByName at refused
  split at refused
  · cases refused
    exact ⟨_, rfl⟩
  · split at refused
    · cases refused
      exact ⟨_, rfl⟩
    · split at refused
      · cases refused
      · cases refused
        exact ⟨_, rfl⟩

/-- A module that fails is not imported by name. -/
theorem importByName_eq_ok (imported : library.importByName named = .ok content) :
    ∃ own families family, content = .exposing own families family := by
  unfold importByName at imported
  split at imported
  · cases imported
  · split at imported
    · cases imported
    next passed =>
      split at imported
      next found =>
        cases imported
        have whole : named ∈ importSteps named := by simp [importSteps]
        have faultless := List.findSome?_eq_none_iff.mp passed named whole
        cases content with
        | failing failure => simp [stepFault?, found] at faultless
        | exposing own families family => exact ⟨own, families, family, rfl⟩
      · cases imported

/-! ### Modules in files -/

/-- The module in the file that a path leads to. A file that holds none exposes nothing. -/
def contentAt (library : ModuleLibrary) (path : Path) (workspace : Workspace) : FamilyModule :=
  match workspace.locate path with
  | .ok place => (library.files.lookup place).getD (.exposing none none none)
  | .error _ => .exposing none none none

theorem respects_loadFile (library : ModuleLibrary) (path : Path) :
    (library.loadFile path).Respects frame := by
  unfold loadFile
  split
  · exact Action.respects_throw _
  · refine Action.respects_get_bind fun site => ?_
    cases site.workspace.locate path with
    | error obstacle => exact frame.rest site
    | ok place =>
        simp only
        split
        · exact frame.rest site
        · split <;> exact frame.rest site
        · exact frame.rest site

theorem respects_find (library : ModuleLibrary) (named : String) :
    (library.find named).Respects frame := by
  have asks : (Action.isThere (Path.ofString named)).Respects frame :=
    Action.Respects.bind (Action.respects_of_after_eq fun site => Action.after_inspecting _ _ site)
      fun _ => Action.respects_pure _
  refine asks.bind fun isThere => ?_
  cases isThere with
  | true => exact respects_loadFile library _
  | false => exact Action.respects_ofExcept _

theorem after_find (library : ModuleLibrary) (named : String) (site : Site) :
    (library.find named).after site = site :=
  @respects_find (.same id) library named site

section Paths

variable {path : Path} {entry : Entry} {form : ModuleForm} {octets : List UInt8}

theorem locate_of_probe (there : site.workspace.probe path = .ok (some entry)) :
    ∃ place, site.workspace.locate path = .ok place ∧
      site.workspace.entryAt? place = some entry := by
  unfold Workspace.probe Workspace.inspect at there
  cases located : site.workspace.locate path with
  | error obstacle => cases obstacle <;> simp [located] at there
  | ok place =>
      cases found : site.workspace.entryAt? place with
      | none => simp [located, found] at there
      | some other =>
          simp only [located, found, Except.ok.injEq, Option.some.injEq] at there
          exact ⟨place, rfl, by rw [found, there]⟩

theorem loadFile_of_formless (formless : ModuleForm.ofName? path.name = none) :
    (library.loadFile path).ending site = .error (.family (.unloadable path.text)) := by
  unfold loadFile
  rw [formless]
  rfl

theorem loadFile_of_directory (told : ModuleForm.ofName? path.name = some form)
    (there : site.workspace.probe path = .ok (some .directory)) :
    (library.loadFile path).ending site = .error
      (loadFile.directoryFailure form (path.absolute site.workspace.herePath).text) := by
  obtain ⟨place, located, found⟩ := locate_of_probe there
  unfold loadFile Action.ending
  rw [told]
  simp only [Action.get_bind, located, found]
  rfl

theorem loadFile_of_file (told : ModuleForm.ofName? path.name = some form)
    (there : site.workspace.probe path = .ok (some (.file octets))) :
    (library.loadFile path).ending site =
      match library.fault? form path.stem (path.absolute site.workspace.herePath).text octets with
      | some fault => .error (.outside fault)
      | none => .ok (library.contentAt path site.workspace) := by
  obtain ⟨place, located, found⟩ := locate_of_probe there
  unfold loadFile Action.ending contentAt
  rw [told]
  simp only [Action.get_bind, located, found]
  cases library.fault? form path.stem (path.absolute site.workspace.herePath).text octets <;> rfl

end Paths

/-! ### Where a text leads -/

/-- Where a text that names a module leads: to a path that cannot be asked, to an import by name if
the path leads to nothing, or to whatever the path leads to. -/
inductive Leads (library : ModuleLibrary) (named : String) (site : Site) :
    Except Failure FamilyModule → Prop
  | unasked {obstacle : Obstacle}
      (blocked : site.workspace.probe (Path.ofString named) = .error obstacle) :
      Leads library named site (.error (obstacle.failure (Path.ofString named).text))
  | byName (absent : site.workspace.probe (Path.ofString named) = .ok none) :
      Leads library named site (library.importByName named)
  | formless {entry : Entry}
      (there : site.workspace.probe (Path.ofString named) = .ok (some entry))
      (untold : ModuleForm.ofName? (Path.ofString named).name = none) :
      Leads library named site (.error (.family (.unloadable (Path.ofString named).text)))
  | directory {form : ModuleForm}
      (there : site.workspace.probe (Path.ofString named) = .ok (some .directory))
      (told : ModuleForm.ofName? (Path.ofString named).name = some form) :
      Leads library named site (.error (loadFile.directoryFailure form
        ((Path.ofString named).absolute site.workspace.herePath).text))
  | damaged {form : ModuleForm} {octets : List UInt8} {fault : Fault}
      (there : site.workspace.probe (Path.ofString named) = .ok (some (.file octets)))
      (told : ModuleForm.ofName? (Path.ofString named).name = some form)
      (flawed : library.fault? form (Path.ofString named).stem
        ((Path.ofString named).absolute site.workspace.herePath).text octets = some fault) :
      Leads library named site (.error (.outside fault))
  | opened {form : ModuleForm} {octets : List UInt8}
      (there : site.workspace.probe (Path.ofString named) = .ok (some (.file octets)))
      (told : ModuleForm.ofName? (Path.ofString named).name = some form)
      (sound : library.fault? form (Path.ofString named).stem
        ((Path.ofString named).absolute site.workspace.herePath).text octets = none) :
      Leads library named site (.ok (library.contentAt (Path.ofString named) site.workspace))

theorem find_of_blocked {obstacle : Obstacle}
    (blocked : site.workspace.probe (Path.ofString named) = .error obstacle) :
    (library.find named).ending site =
      .error (obstacle.failure (Path.ofString named).text) := by
  unfold find Action.isThere
  rw [Action.ending_bind, Action.ending_bind, Action.ending_inspecting, blocked]
  rfl

theorem isThere_of_answered {path : Path} {found : Option Entry}
    (answered : site.workspace.probe path = .ok found) :
    Action.isThere path site = .ok found.isSome site :=
  Action.bind_of_ok (Action.inspecting_of_ok answered)

theorem find_of_absent (absent : site.workspace.probe (Path.ofString named) = .ok none) :
    (library.find named).ending site = library.importByName named := by
  rw [find, Action.ending_congr (Action.bind_of_ok (isThere_of_answered absent))]
  exact Action.ending_ofExcept _ site

theorem find_of_there {entry : Entry}
    (there : site.workspace.probe (Path.ofString named) = .ok (some entry)) :
    (library.find named).ending site = (library.loadFile (Path.ofString named)).ending site := by
  rw [find, Action.ending_congr (Action.bind_of_ok (isThere_of_answered there))]
  rfl

/-- A text leads where the look-up of its module ends. -/
theorem leads_find (library : ModuleLibrary) (named : String) (site : Site) :
    library.Leads named site ((library.find named).ending site) := by
  cases answered : site.workspace.probe (Path.ofString named) with
  | error obstacle =>
      rw [find_of_blocked answered]
      exact .unasked answered
  | ok found =>
      cases found with
      | none =>
          rw [find_of_absent answered]
          exact .byName answered
      | some entry =>
          rw [find_of_there answered]
          cases told : ModuleForm.ofName? (Path.ofString named).name with
          | none =>
              rw [loadFile_of_formless told]
              exact .formless answered told
          | some form =>
              cases entry with
              | directory =>
                  rw [loadFile_of_directory told answered]
                  exact .directory answered told
              | file octets =>
                  rw [loadFile_of_file told answered]
                  split
                  next flawed => exact .damaged answered told flawed
                  next sound => exact .opened answered told sound

/-- A text leads nowhere else. -/
theorem Leads.ending_eq {ended : Except Failure FamilyModule}
    (leads : library.Leads named site ended) : (library.find named).ending site = ended := by
  cases leads with
  | unasked blocked => exact find_of_blocked blocked
  | byName absent => exact find_of_absent absent
  | formless there untold => rw [find_of_there there, loadFile_of_formless untold]
  | directory there told => rw [find_of_there there, loadFile_of_directory told there]
  | damaged there told flawed =>
      rw [find_of_there there, loadFile_of_file told there, flawed]
  | opened there told sound =>
      rw [find_of_there there, loadFile_of_file told there, sound]

end ModuleLibrary

/-! ### The load of modules -/

namespace FamilyRegistry

variable {library : ModuleLibrary} {registry extended : FamilyRegistry} {site : Site}
  {frame : Frame}

/-- What comes of a module that was found, or of the failure to find one. -/
def taking (registry : FamilyRegistry) :
    Except Failure FamilyModule → FamilyRegistry × Option Failure
  | .ok content => registry.registerModule content
  | .error failure => (registry, some failure)

/-- The load of a module always ends, and changes nothing at the site. -/
theorem load_eq (registry : FamilyRegistry) (library : ModuleLibrary) (named : String)
    (site : Site) : registry.load library named site =
      .ok (registry.taking ((library.find named).ending site)) site := by
  unfold load
  rw [Action.bind_of_ok (Action.outcome_eq (library.find named) site), ModuleLibrary.after_find]
  cases (library.find named).ending site <;> rfl

theorem respects_load (registry : FamilyRegistry) (library : ModuleLibrary) (named : String) :
    (registry.load library named).Respects frame := by
  intro site
  rw [Action.after_of_ok (load_eq registry library named site)]
  exact frame.rest site

theorem respects_loadAll (library : ModuleLibrary) (registry : FamilyRegistry)
    (modules : List String) : (loadAll library registry modules).Respects frame := by
  induction modules generalizing registry with
  | nil => exact Action.respects_pure registry
  | cons named rest inductionHypothesis =>
      refine (respects_load registry library named).bind fun loaded => ?_
      split
      · exact inductionHypothesis _
      · exact Action.respects_throw _

/-- Modules are loaded in turn, each into the registry that the one before it left. -/
theorem ending_loadAll_cons (registry : FamilyRegistry) (library : ModuleLibrary)
    (named : String) (rest : List String) (site : Site) :
    (loadAll library registry (named :: rest)).ending site =
      match registry.taking ((library.find named).ending site) with
      | (extended, none) => (loadAll library extended rest).ending site
      | (_, some failure) => .error failure := by
  rw [loadAll, Action.ending_congr (Action.bind_of_ok (load_eq registry library named site))]
  rcases registry.taking ((library.find named).ending site) with ⟨left, ended⟩
  cases ended <;> rfl

theorem ending_loadAll_of_failure {before rest : List String} {named : String}
    {failure : Failure} (loaded : (loadAll library registry before).ending site = .ok extended)
    (failed : (extended.taking ((library.find named).ending site)).2 = some failure) :
    (loadAll library registry (before ++ named :: rest)).ending site = .error failure := by
  induction before generalizing registry with
  | nil =>
      cases loaded
      rw [List.nil_append, ending_loadAll_cons]
      rcases taken : extended.taking ((library.find named).ending site) with ⟨left, ended⟩
      rw [taken] at failed
      cases failed
      rfl
  | cons first further inductionHypothesis =>
      rw [ending_loadAll_cons] at loaded
      rw [List.cons_append, ending_loadAll_cons]
      rcases taken : registry.taking ((library.find first).ending site) with ⟨left, ended⟩
      rw [taken] at loaded
      cases ended with
      | none => exact inductionHypothesis loaded
      | some failure => cases loaded

/-- Whatever modules are named, the look-up of a family changes nothing. -/
theorem after_resolve (library : ModuleLibrary) (modules : List String) (name : String)
    (site : Site) : (resolve library modules name).after site = site := by
  have still : (resolve library modules name).Respects (.same id) :=
    (respects_loadAll library builtin modules).bind fun registry => Action.respects_ofExcept _
  exact still site

end FamilyRegistry

end GeoBridge
