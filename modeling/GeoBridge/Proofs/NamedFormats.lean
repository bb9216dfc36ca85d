import GeoBridge.Crs.Geodesy
import GeoBridge.Family
import GeoBridge.Proofs.ConfigurationEntries
import GeoBridge.Proofs.ConversionEndings
import GeoBridge.Proofs.ConversionFiles
import GeoBridge.Proofs.Reload
import GeoBridge.Proofs.Services

/-!
Owns how active formats are found by their public names.

Owns:
- the look-up in a snapshot, which finds the last format of a name, and the search of a list, which
  finds the first;
- requests that are refused, by a service for want of the format, and tools that refuse none;
- the agreement of lists, look-ups, searches and conversions about the formats that are selected
  from a validated configuration.
-/

namespace GeoBridge

/-! ### The first and the last of a name -/

theorem findFormat?_eq_head? (formats : List Format) (name : String) :
    findFormat? formats name = (formats.filter (·.publicName = name)).head? := by
  rw [findFormat?, List.head?_filter]
  rfl

theorem Snapshot.find?_build (executable : String) (environment : Environment)
    (formats : List Format) (name : String) :
    (build executable environment formats).formats.find? name =
      (formats.filter (·.publicName = name)).getLast? := by
  rw [build, Association.find?_ofEntries, Association.find?_reverse_map, Option.map_id']

/-- Where names are not unique, the first and the last of a name differ. -/
example :
    let pages : List Format :=
      [{ toolCode := "PDF", publicName := "page" }, { toolCode := "PNG", publicName := "page" }]
    ((Snapshot.build "" [] pages).formats.find? "page").map (·.toolCode) = some "PNG" ∧
      (findFormat? pages "page").map (·.toolCode) = some "PDF" := by
  decide

namespace HaveDistinctNames

variable {formats : List Format}

/-- Under unique names a format is the only one of its name. -/
theorem filter_named (distinct : HaveDistinctNames formats) {format : Format}
    (member : format ∈ formats) :
    formats.filter (·.publicName = format.publicName) = [format] := by
  induction formats with
  | nil => cases member
  | cons first rest inductionHypothesis =>
      have absent : first.publicName ∉ rest.map (·.publicName) := (List.nodup_cons.mp distinct).1
      rcases List.mem_cons.mp member with rfl | later
      · have alone : rest.filter (·.publicName = format.publicName) = [] := by
          rw [List.filter_eq_nil_iff]
          intro other among same
          exact absent (of_decide_eq_true same ▸ List.mem_map_of_mem among)
        rw [List.filter_cons_of_pos (by simp), alone]
      · have apart : first.publicName ≠ format.publicName := by
          intro same
          rw [same] at absent
          exact absent (List.mem_map_of_mem later)
        rw [List.filter_cons_of_neg (by simpa using apart)]
        exact inductionHypothesis (List.nodup_cons.mp distinct).2 later

/-- Under unique names the look-up in a snapshot finds what the search of the list finds. -/
theorem find?_build (distinct : HaveDistinctNames formats) (executable : String)
    (environment : Environment) (name : String) :
    (Snapshot.build executable environment formats).formats.find? name =
      findFormat? formats name := by
  rw [Snapshot.find?_build, findFormat?_eq_head?]
  cases named : formats.filter (·.publicName = name) with
  | nil => rfl
  | cons format others =>
      have found : format ∈ formats.filter (·.publicName = name) := named ▸ List.mem_cons_self
      obtain ⟨member, same⟩ := List.mem_filter.mp found
      have alone := distinct.filter_named member
      rw [of_decide_eq_true same, named] at alone
      rw [alone]
      rfl

end HaveDistinctNames

/-! ### Refusals -/

/-- The hooks of a tool and its runner raise no failure that refuses a format. -/
def Tool.RefusesNoFormat (tool : Tool) : Prop :=
  ∀ failure, tool.Raises failure → failure.refusesFormat = false

/-- Hooks that return refuse nothing, and neither do faults from outside. -/
theorem Tool.refusesNoFormat_of_return {tool : Tool} (returns : tool.hooks.Return)
    (outside : ∀ call site failure, (tool.runner call).ending site = .error failure →
      ∃ fault, failure = .outside fault) : tool.RefusesNoFormat := by
  intro failure raised
  cases raised with
  | @before context site _ ended =>
      obtain ⟨command, left, returned⟩ := returns.before context site
      rw [Action.ending_of_ok returned] at ended
      cases ended
  | runs ended =>
      obtain ⟨fault, rfl⟩ := outside _ _ _ ended
      rfl
  | @afterwards exitCode site _ ended =>
      obtain ⟨left, returned⟩ := returns.after exitCode site
      rw [Action.ending_of_ok returned] at ended
      cases ended

/-- The hooks of a policy always return, so that the runner alone could refuse a format. -/
theorem Family.refusesNoFormat_tool (family : Family) {runner : Runner}
    (outside : ∀ call site failure, (runner call).ending site = .error failure →
      ∃ fault, failure = .outside fault) (limit : Option Limit) (systems : CrsLibrary)
    (executable : String) (environment : Environment) :
    (family.tool runner limit systems executable environment).RefusesNoFormat :=
  Tool.refusesNoFormat_of_return family.hooks.hooks_return outside

namespace Service

variable {service : Service} {request : ServiceRequest} {site : Site}

/-- A conversion is refused if it ends with the failure that its format is not supported. -/
def Refuses (service : Service) (request : ServiceRequest) (site : Site) : Prop :=
  ∃ failure, (service.run request).ending site = .error failure ∧ failure.refusesFormat = true

theorem run_of_inactive (inactive : site.registry.get? request.formatName = none) :
    (service.run request) site =
      .error (.unsupportedFormat request.formatName site.registry.snapshot.names) site :=
  Action.bind_of_error (execute_of_find?_none rfl inactive)

/-- A conversion into an active format is refused only by what a hook or the runner raises. -/
theorem not_refuses_of_active {format : Format}
    (active : site.registry.get? request.formatName = some format)
    (plain : (service.toolOf site.registry.snapshot).RefusesNoFormat) :
    ¬ service.Refuses request site := by
  rintro ⟨failure, ended, refuses⟩
  rw [ending_run, ending_execute_of_find? rfl active] at ended
  cases ran : ((service.toolOf site.registry.snapshot).run (toolRequest request format)).ending
      (site.entered (.recorded (beginning request))) with
  | ok conversion =>
      rw [ran] at ended
      cases ended
  | error raised =>
      rw [ran] at ended
      cases ended
      rcases Tool.failsOnly_run _ _ _ failure ran with own | raised
      · rw [Failure.refusesFormat_of_concernsRun own] at refuses
        cases refuses
      · rw [plain failure raised] at refuses
        cases refuses

end Service

/-! ### Agreement -/

namespace Registry

/-- A registry names the formats that were accepted from those declared. It holds all of them in
their order, and lists their names, each once. Looking up a name is searching for the first accepted
format of it, and finds the declared format of that name if the tool supports it. -/
structure NamesAccepted (registry : Registry) (declared : List Format) (supported : List String)
    (accepted : List Format) : Prop where
  selected : accepted = declared.filter fun format => format.toolCode ∈ supported
  active : registry.formats = accepted
  listed : registry.snapshot.names = accepted.map (·.publicName)
  counted : registry.snapshot.names.length = accepted.length
  distinct : registry.snapshot.names.Nodup
  searched : ∀ name, registry.get? name = findFormat? accepted name
  found : ∀ name format, registry.get? name = some format ↔
    format ∈ declared ∧ format.publicName = name ∧ format.toolCode ∈ supported
  missing : ∀ name, registry.get? name = none ↔
    ∀ format ∈ declared, format.publicName = name → format.toolCode ∉ supported

/-- A registry decides which conversions are refused, at every site that has its snapshot. It can
produce the names that it lists. For every other name a service fails at once, telling the names
there are, and leaves everything as it is. By tools that refuse no formats themselves, no name that
is listed is refused. -/
structure DecidesRefusals (registry : Registry) : Prop where
  offered : ∀ name, registry.canProduce name = true ↔ name ∈ registry.snapshot.names
  refused : ∀ (service : Service) (request : ServiceRequest) (site : Site),
    site.registry.snapshot = registry.snapshot → request.formatName ∉ registry.snapshot.names →
      (service.run request) site =
        .error (.unsupportedFormat request.formatName registry.snapshot.names) site
  served : ∀ (service : Service) (request : ServiceRequest) (site : Site),
    site.registry.snapshot = registry.snapshot →
    (service.toolOf registry.snapshot).RefusesNoFormat →
      (¬ service.Refuses request site ↔ registry.canProduce request.formatName = true)

variable {registry : Registry}

theorem get?_eq_none_iff {name : String} :
    registry.get? name = none ↔ name ∉ registry.snapshot.names :=
  Association.find?_eq_none_iff

/-- Whatever a registry holds, the names that it lists are the ones that are not refused. -/
theorem decidesRefusals (registry : Registry) : registry.DecidesRefusals := by
  have offered (name : String) :
      registry.canProduce name = true ↔ name ∈ registry.snapshot.names := by
    rw [canProduce, Option.isSome_iff_ne_none, Ne, get?_eq_none_iff, Classical.not_not]
  have refused (service : Service) (request : ServiceRequest) (site : Site)
      (current : site.registry.snapshot = registry.snapshot)
      (unlisted : request.formatName ∉ registry.snapshot.names) :
      (service.run request) site =
        .error (.unsupportedFormat request.formatName registry.snapshot.names) site := by
    rw [← current] at unlisted ⊢
    exact Service.run_of_inactive (get?_eq_none_iff.mpr unlisted)
  refine ⟨offered, refused, fun service request site current plain => ⟨fun kept => ?_, ?_⟩⟩
  · by_contra unable
    have failed := refused service request site current (mt (offered _).mpr unable)
    exact kept ⟨_, Action.ending_of_error failed, rfl⟩
  · intro able
    obtain ⟨format, found⟩ := Option.isSome_iff_exists.mp able
    have active : site.registry.get? request.formatName = some format := by
      rw [get?, current]
      exact found
    rw [← current] at plain
    exact Service.not_refuses_of_active active plain

theorem namesAccepted_of_distinct {configuration : Configuration} {supported : List String}
    {executable : String} {environment : Environment}
    (distinct : HaveDistinctNames configuration.formats)
    (holds : registry.snapshot =
      .build executable environment (configuration.supportedFormats supported)) :
    registry.NamesAccepted configuration.formats supported
      (configuration.supportedFormats supported) := by
  have unique : HaveDistinctNames (configuration.supportedFormats supported) := distinct.filter _
  have selected : configuration.supportedFormats supported =
      configuration.formats.filter fun format => format.toolCode ∈ supported :=
    List.filter_congr fun format _ => by simp [Format.isSupported]
  have formats : registry.snapshot.formats =
      (configuration.supportedFormats supported).map fun format => (format.publicName, format) := by
    rw [holds, Snapshot.build_of_distinct unique]
  have listed : registry.snapshot.names =
      (configuration.supportedFormats supported).map (·.publicName) :=
    Snapshot.names_of_formats formats
  have found (name : String) (format : Format) : registry.get? name = some format ↔
      format ∈ configuration.formats ∧ format.publicName = name ∧
        format.toolCode ∈ supported := by
    rw [get?, formats, find?_of_distinct unique, selected, List.mem_filter, decide_eq_true_eq,
      and_assoc, and_comm (a := format.toolCode ∈ supported)]
  refine ⟨selected, Snapshot.active_of_formats formats, listed, ?_, ?_, fun name => ?_, found,
    fun name => ?_⟩
  · rw [listed, List.length_map]
  · rw [listed]
    exact unique
  · rw [get?, holds]
    exact unique.find?_build executable environment name
  · rw [Option.eq_none_iff_forall_ne_some]
    constructor
    · intro missing format declared named supports
      exact missing format ((found name format).mpr ⟨declared, named, supports⟩)
    · intro unsupported format active
      obtain ⟨declared, named, supports⟩ := (found name format).mp active
      exact unsupported format declared named supports

end Registry

/-- Whatever configuration passes validation and whatever a tool supports: the selection returns the
declared formats that are supported, and every registry with a snapshot of them, in whatever
environment, names them all and decides which conversions are refused. -/
theorem Configuration.look_ups_agree {payload : Payload} {configuration : Configuration}
    (valid : Schema.configuration payload = .valid configuration) (supported : List String)
    (environment : Environment) (registry : Registry)
    (holds : registry.snapshot = .build configuration.executable environment
      (configuration.supportedFormats supported)) :
    (∀ site, ∃ left, Loader.select configuration supported site =
      .ok (configuration.supportedFormats supported) left) ∧
    registry.NamesAccepted configuration.formats supported
      (configuration.supportedFormats supported) ∧
    registry.DecidesRefusals := by
  refine ⟨fun site => ⟨_, Loader.select_records configuration supported site⟩, ?_,
    registry.decidesRefusals⟩
  exact Registry.namesAccepted_of_distinct (Schema.haveDistinctNames_of_valid valid) holds

/-! ### A vector tool that lacks one code -/

/-- A runner that does not find the vector tool. -/
def vectorRunner : Runner := fun _ => throw (.system (.noSuchFile "ogr2ogr"))

/-- A service of the vector tool, none of whose commands can be run. -/
def vectorService : Service where
  tool := Family.ogr.tool vectorRunner none
    (Geodesy.library { systems := [], reason := "unknown" })

/-- A request for a format of the given name. -/
def vectorRequest (formatName : String) : ServiceRequest where
  input := ⟨.single, ["in.tif"]⟩
  directory := ⟨.single, ["out"]⟩
  typeName := "t"
  formatName := formatName

/-- One code of the tool stands for two names, which both stay. The name whose code is lacking is
not listed, and it is refused. A listed name is not refused, although the conversion fails. -/
theorem vector_look_ups_agree :
    let supported := ["KML", "MapInfo File"]
    let accepted := Catalog.ogr.supportedFormats supported
    let registry : Registry := { snapshot := .build "ogr2ogr" [] accepted }
    let site : Site := { inputSite with registry }
    Schema.configuration (.mapping Catalog.ogr.entries) = .valid Catalog.ogr ∧
    registry.NamesAccepted Catalog.ogr.formats supported accepted ∧
    registry.snapshot.names = ["OGR-TAB", "OGR-MIF", "OGR-KML"] ∧
    (registry.get? "OGR-MIF").map (·.toolCode) = some "MapInfo File" ∧
    registry.get? "OGR-CSV" = none ∧
    ((vectorService.run (vectorRequest "OGR-MIF")).ending site).isOk = false ∧
    ¬ vectorService.Refuses (vectorRequest "OGR-MIF") site ∧
    (vectorService.run (vectorRequest "OGR-CSV")) site =
      .error (.unsupportedFormat "OGR-CSV" ["OGR-TAB", "OGR-MIF", "OGR-KML"]) site := by
  intro supported accepted registry site
  have valid : Schema.configuration (.mapping Catalog.ogr.entries) = .valid Catalog.ogr := by
    decide +kernel
  have listed : registry.snapshot.names = ["OGR-TAB", "OGR-MIF", "OGR-KML"] := by decide +kernel
  obtain ⟨-, names, decides⟩ := Configuration.look_ups_agree valid supported [] registry rfl
  have outside (call : CommandCall) (site : Site) (failure : Failure)
      (ended : (vectorRunner call).ending site = .error failure) :
      ∃ fault, failure = .outside fault := by
    cases ended
    exact ⟨_, rfl⟩
  have plain : (vectorService.toolOf registry.snapshot).RefusesNoFormat :=
    Family.ogr.refusesNoFormat_tool outside none _ _ _
  have served := decides.served vectorService (vectorRequest "OGR-MIF") site rfl plain
  have refused := decides.refused vectorService (vectorRequest "OGR-CSV") site rfl
  rw [listed] at refused
  exact ⟨valid, names, listed, by decide +kernel, by decide +kernel, by decide +kernel,
    served.mpr (by decide +kernel), refused (by decide +kernel)⟩

end GeoBridge
