import GeoBridge.CommandLine
import GeoBridge.Crs.Geodesy
import GeoBridge.Proofs.FamilyModules

/-!
Owns what a command line answers when one of the modules that it names does not load.

Owns:
- the failures that escape a load, which are all that are not told as failures of a tool family;
- the answer of a command line: a misuse of it for what concerns tool families, and for what
  escapes, the failure itself.
-/

namespace GeoBridge

/-! ### What escapes a load -/

namespace FamilyRegistry

variable {registry : FamilyRegistry} {library : ModuleLibrary} {named : String} {site : Site}
  {failure : Failure}

/-- The failures of a load that are not told as failures of a tool family. Those of an import by
name all are, so these are failures on the way to a file, in a file, and in a registration. -/
inductive Escapes (registry : FamilyRegistry) (library : ModuleLibrary) (named : String)
    (site : Site) : Failure → Prop
  | unasked {obstacle : Obstacle}
      (blocked : site.workspace.probe (Path.ofString named) = .error obstacle) :
      Escapes registry library named site (obstacle.failure (Path.ofString named).text)
  | directory {form : ModuleForm}
      (there : site.workspace.probe (Path.ofString named) = .ok (some .directory))
      (told : ModuleForm.ofName? (Path.ofString named).name = some form) :
      Escapes registry library named site (ModuleLibrary.loadFile.directoryFailure form
        ((Path.ofString named).absolute site.workspace.herePath).text)
  | damaged {form : ModuleForm} {octets : List UInt8} {fault : Fault}
      (there : site.workspace.probe (Path.ofString named) = .ok (some (.file octets)))
      (told : ModuleForm.ofName? (Path.ofString named).name = some form)
      (flawed : library.fault? form (Path.ofString named).stem
        ((Path.ofString named).absolute site.workspace.herePath).text octets = some fault) :
      Escapes registry library named site (.outside fault)
  | raising {form : ModuleForm} {octets : List UInt8} {failure : Failure}
      (there : site.workspace.probe (Path.ofString named) = .ok (some (.file octets)))
      (told : ModuleForm.ofName? (Path.ofString named).name = some form)
      (sound : library.fault? form (Path.ofString named).stem
        ((Path.ofString named).absolute site.workspace.herePath).text octets = none)
      (raises : library.contentAt (Path.ofString named) site.workspace = .failing failure)
      (foreign : failure.concernsFamilies = false) :
      Escapes registry library named site failure
  | registering {own : Option Registration} {families : Option FamilySeries}
      {family : Option FamilyCandidate} {failure : Failure}
      (found : (library.find named).ending site = .ok (.exposing own families family))
      (fails : (registry.registerModule (.exposing own families family)).2 = some failure)
      (foreign : failure.concernsFamilies = false) :
      Escapes registry library named site failure

theorem concernsFamilies_obstacle (obstacle : Obstacle) (file : String) :
    (obstacle.failure file).concernsFamilies = false := by
  cases obstacle <;> rfl

theorem concernsFamilies_directoryFailure (form : ModuleForm) (file : String) :
    (ModuleLibrary.loadFile.directoryFailure form file).concernsFamilies = false := by
  unfold ModuleLibrary.loadFile.directoryFailure
  split <;> rfl

/-- Exactly the failures that escape are those with which a load fails and that do not concern
tool families. -/
theorem escapes_iff : registry.Escapes library named site failure ↔
    (registry.taking ((library.find named).ending site)).2 = some failure ∧
      failure.concernsFamilies = false := by
  constructor
  · intro escapes
    cases escapes with
    | unasked blocked =>
        rw [(ModuleLibrary.Leads.unasked blocked).ending_eq]
        exact ⟨rfl, concernsFamilies_obstacle _ _⟩
    | directory there told =>
        rw [(ModuleLibrary.Leads.directory there told).ending_eq]
        exact ⟨rfl, concernsFamilies_directoryFailure _ _⟩
    | damaged there told flawed =>
        rw [(ModuleLibrary.Leads.damaged there told flawed).ending_eq]
        exact ⟨rfl, rfl⟩
    | raising there told sound raises foreign =>
        rw [(ModuleLibrary.Leads.opened there told sound).ending_eq, raises]
        exact ⟨rfl, foreign⟩
    | registering found fails foreign =>
        rw [found]
        exact ⟨fails, foreign⟩
  · rintro ⟨fails, foreign⟩
    have leads := ModuleLibrary.leads_find library named site
    generalize found : (library.find named).ending site = ended at fails leads
    cases leads with
    | unasked blocked =>
        cases fails
        exact .unasked blocked
    | byName absent =>
        cases imported : library.importByName named with
        | error refusal =>
            obtain ⟨reason, rfl⟩ := ModuleLibrary.importByName_eq_error imported
            rw [imported] at fails
            cases fails
            cases foreign
        | ok content =>
            obtain ⟨own, families, family, rfl⟩ := ModuleLibrary.importByName_eq_ok imported
            rw [imported] at fails found
            exact .registering found fails foreign
    | formless there untold =>
        cases fails
        cases foreign
    | directory there told =>
        cases fails
        exact .directory there told
    | damaged there told flawed =>
        cases fails
        exact .damaged there told flawed
    | opened there told sound =>
        cases content : library.contentAt (Path.ofString named) site.workspace with
        | failing raised =>
            rw [content] at fails
            cases fails
            exact .raising there told sound content foreign
        | exposing own families family =>
            rw [content] at fails found
            exact .registering found fails foreign

end FamilyRegistry

/-! ### The answer of a command line -/

namespace CommandLine

/-- The answer of a command line to a failure on the way to its family. -/
def answerTo : Failure → Except Failure Ending
  | .family cause => .ok (.misused (.familyFault cause.message))
  | failure => .error failure

variable {site : Site} {failure : Failure}

theorem withFamily_of_error {α : Type} {action : Action α} (use : α → Action Ending)
    (failed : action.ending site = .error failure) :
    (withFamily action use).ending site = answerTo failure := by
  have whole := Action.outcome_eq action site
  rw [failed] at whole
  rw [withFamily, Action.ending_congr (Action.bind_of_ok whole)]
  cases failure <;> rfl

variable {surroundings : Surroundings} {modules : List String}

theorem startNamed_of_failure (name : String) (options : SessionOptions)
    (failed : (FamilyRegistry.loadAll surroundings.modules .builtin modules).ending site =
      .error failure) :
    (Session.startNamed surroundings modules name options).ending site = .error failure := by
  rw [Session.startNamed, FamilyRegistry.resolve, Action.ending_bind, Action.ending_bind, failed]

/-- A command that is carried out from a site comes to load the modules that it names. One that
converts creates its directory before. -/
inductive ComesTo (modules : List String) (site : Site) : Command → (start : Site) → Prop
  | formats (family : String) (configuration : Option Path) :
      ComesTo modules site (.formats family configuration modules) site
  | convert {request : ConvertCommand} {start : Site} (names : request.modules = modules)
      (leads : (start.workspace.inspect request.input).isOk = true)
      (created : Action.makeDirectories request.directory start = .ok () site) :
      ComesTo modules site (.convert request) start

theorem execute_of_failure {command : Command} {start : Site} (debug : Bool)
    (comes : ComesTo modules site command start)
    (failed : (FamilyRegistry.loadAll surroundings.modules .builtin modules).ending site =
      .error failure) :
    (execute surroundings debug command).ending start = answerTo failure := by
  cases comes with
  | formats family configuration =>
      exact withFamily_of_error _ (startNamed_of_failure family _ failed)
  | @convert request _ names leads created =>
      have asked : leadsSomewhere request.input start = .ok true start := by
        rw [leadsSomewhere, Action.get_bind, leads]
        rfl
      rw [← names] at failed
      rw [execute, convert, Action.ending_congr (Action.bind_of_ok asked)]
      refine (Action.ending_congr (Action.bind_of_ok created)).trans ?_
      exact withFamily_of_error _ (startNamed_of_failure request.family _ failed)

end CommandLine

open CommandLine in
/-- The load of a module ends, and leaves the site as it is. It fails otherwise than by a failure of
a tool family exactly if something escapes. A command that comes to the module answers what escapes
with the failure itself, and every other failure with a misuse. -/
theorem FamilyRegistry.load_answers (registry : FamilyRegistry) (library : ModuleLibrary)
    (named : String) (site : Site) :
    ∃ left ended, registry.load library named site = .ok (left, ended) site ∧
      (∀ failure, ended = some failure ∧ failure.concernsFamilies = false ↔
        registry.Escapes library named site failure) ∧
      ∀ surroundings debug before rest command start failure, surroundings.modules = library →
        (loadAll library builtin before).ending site = .ok registry →
        ComesTo (before ++ named :: rest) site command start → ended = some failure →
        (execute surroundings debug command).ending start = answerTo failure := by
  refine ⟨_, _, load_eq registry library named site, fun failure => escapes_iff.symm, ?_⟩
  intro surroundings debug before rest command start failure served loaded comes fails
  apply execute_of_failure debug comes
  rw [served]
  exact ending_loadAll_of_failure loaded fails

/-- A working directory with a module in a file. -/
def moduleSite : Site where
  workspace := { here := [], entries := [(["boom.py"], .file [])] }

/-- Surroundings in which the code of the module raises an error. -/
def raisingSurroundings : Surroundings where
  runner := fun _ => pure ⟨0, ""⟩
  systems := Geodesy.library { systems := [], reason := "" }
  modules := { files := [(["boom.py"], .failing (.outside (.other "RuntimeError" "boom")))] }

/-- An error that is raised in a file is no misuse of the command line, but ends it. -/
theorem raised_error_escapes :
    let failure : Failure := .outside (.other "RuntimeError" "boom")
    FamilyRegistry.builtin.Escapes raisingSurroundings.modules "boom.py" moduleSite failure ∧
      (CommandLine.execute raisingSurroundings false (.formats "gdal" none ["boom.py"])).ending
        moduleSite = .error failure := by
  intro failure
  obtain ⟨left, ended, -, escapes, answers⟩ := FamilyRegistry.load_answers .builtin
    raisingSurroundings.modules "boom.py" moduleSite
  have spelled : Path.ofString "boom.py" = ⟨.relative, ["boom.py"]⟩ := by decide +kernel
  have there : moduleSite.workspace.probe (Path.ofString "boom.py") = .ok (some (.file [])) := by
    rw [spelled]
    rfl
  have told : ModuleForm.ofName? (Path.ofString "boom.py").name = some .source := by
    decide +kernel
  have raises : raisingSurroundings.modules.contentAt (Path.ofString "boom.py")
      moduleSite.workspace = .failing failure := by
    rw [spelled]
    rfl
  have raised : FamilyRegistry.builtin.Escapes raisingSurroundings.modules "boom.py" moduleSite
      failure := .raising there told rfl raises rfl
  have fails := ((escapes failure).mpr raised).1
  exact ⟨raised, answers raisingSurroundings false [] [] _ moduleSite failure rfl rfl
    (.formats "gdal" none) fails⟩

end GeoBridge
