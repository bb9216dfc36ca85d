import GeoBridge.Proofs.BrokenConfiguration
import Mathlib.Data.List.Basic

/-!
Owns what the records of a loader tell of a reload that returned.

Owns:
- the records of the loader among all others, and loaders of which nothing else makes any;
- files as sources and tools as probes, which make none;
- the account of a reload: why the default took the place of the source, which formats were
  skipped, and how many were loaded.
-/

namespace GeoBridge

/-! ### Records of the loader -/

/-- The records that were made by the loader, in order. -/
def Site.loaderRecords (site : Site) : List Record :=
  site.records.filter (·.area = .loader)

/-- The records of the loader stay the same. -/
def Frame.sameLoaderRecords : Frame := .same Site.loaderRecords

namespace Site

theorem loaderRecords_recorded (site : Site) {records : List Record}
    (byLoader : ∀ record ∈ records, record.area = .loader) :
    (site.recorded records).loaderRecords = site.loaderRecords ++ records := by
  have made : (site.recorded records).records = site.records ++ records := by
    simp [Site.records, recorded, List.filterMap_map]
  rw [loaderRecords, made, List.filter_append, loaderRecords, List.append_cancel_left_eq,
    List.filter_eq_self]
  exact fun record member => decide_eq_true (byLoader record member)

theorem loaderRecords_entered (site : Site) {event : Event}
    (notByLoader : ∀ record, event = .recorded record → record.area ≠ .loader) :
    (site.entered event).loaderRecords = site.loaderRecords := by
  cases event with
  | recorded record =>
      have other := notByLoader record rfl
      simp [loaderRecords, records, entered, other]
  | _ => simp [loaderRecords, records, entered]

end Site

namespace Loader

variable {loader : Loader} {site left : Site}

/-- A loader that alone makes records in its name, and whose configurations name every format once,
as validated ones do. -/
structure RecordsAlone (loader : Loader) : Prop where
  defaultDistinct : HaveDistinctNames loader.default.formats
  readDistinct : ∀ document configuration, loader.read document = .ok configuration →
    HaveDistinctNames configuration.formats
  source : loader.source.read.Respects .sameLoaderRecords
  probe : ∀ executable environment,
    (loader.ask executable environment).Respects .sameLoaderRecords

/-- The probe of a tool makes no records in the name of the loader if its runner makes none. -/
theorem respects_supportedFormats {probe : Probe}
    (runs : ∀ call, (probe.runner call).Respects .sameLoaderRecords) (executable : String)
    (environment : Option Environment) :
    (probe.supportedFormats executable environment).Respects .sameLoaderRecords := by
  have ignoresCalls : Frame.sameLoaderRecords.IgnoresCalls := by
    intro site call
    refine site.loaderRecords_entered fun record same => ?_
    cases same
  refine Probe.respects_supportedFormats_of_area (fun site record ofProbe => ?_) ignoresCalls
    (runs _)
  refine site.loaderRecords_entered fun other same => ?_
  cases same
  rw [ofProbe]
  decide

/-! ### The account of a reload -/

theorem Fallback.byLoader {reading : Except Failure Xml.Document} {configuration : Configuration}
    {records : List Record} (fallback : loader.Fallback reading configuration records) :
    ∀ record ∈ records, record.area = .loader := by
  cases fallback with
  | accepted _ => exact fun record member => absurd member List.not_mem_nil
  | _ =>
      intro record member
      obtain rfl := List.mem_singleton.mp member
      rfl

/-- Only a configuration that the source holds takes effect without a record. -/
theorem Fallback.eq_nil_iff {reading : Except Failure Xml.Document} {configuration : Configuration}
    {records : List Record} (fallback : loader.Fallback reading configuration records) :
    records = [] ↔
      ∃ document, reading = .ok document ∧ loader.read document = .ok configuration := by
  cases fallback with
  | @accepted document _ accepted => exact iff_of_true rfl ⟨document, rfl, accepted⟩
  | @rejected document failure rejected _ =>
      refine iff_of_false (List.cons_ne_nil _ _) ?_
      rintro ⟨_, same, accepted⟩
      cases same
      rw [rejected] at accepted
      cases accepted
  | _ =>
      refine iff_of_false (List.cons_ne_nil _ _) ?_
      rintro ⟨_, same, -⟩
      cases same

/-- With unique names, the formats that are not published are those that are not supported. -/
theorem filter_unpublished (loader : Loader) {configuration : Configuration}
    (distinct : HaveDistinctNames configuration.formats) (supported : List String) :
    let published := (loader.snapshotOf configuration supported).active
    published = configuration.supportedFormats supported ∧
      configuration.formats.filter (· ∉ published) =
        configuration.formats.filter (!·.isSupported supported) := by
  intro published
  have stillDistinct : HaveDistinctNames (configuration.supportedFormats supported) :=
    distinct.filter _
  have kept : published = configuration.supportedFormats supported := by
    simp only [published, snapshotOf, Snapshot.build_of_distinct stillDistinct, Snapshot.active,
      List.map_map]
    exact List.map_id _
  refine ⟨kept, List.filter_congr fun format declared => ?_⟩
  rw [kept, Configuration.supportedFormats]
  simp [List.mem_filter, declared]

theorem RecordsAlone.after_question (alone : loader.RecordsAlone) {executable : String}
    {environment : Environment} {supported : List String}
    (answer : loader.askProbe executable environment site = .ok supported left) :
    left.loaderRecords = site.loaderRecords := by
  have asks : (loader.askProbe executable environment).Respects .sameLoaderRecords := by
    refine (Action.respects_enter fun site => ?_).bind fun _ => alone.probe executable environment
    refine site.loaderRecords_entered fun record same => ?_
    cases same
  exact asks.of_ok answer

/-- The announcement of a snapshot makes one record for each declared format that is not published,
in their order, and then one of how many are. -/
theorem loaderRecords_of_announce {configuration : Configuration} {supported : List String}
    {snapshot : Snapshot} (distinct : HaveDistinctNames configuration.formats)
    (announced : loader.announce configuration supported site = .ok snapshot left) :
    let published := left.registry.snapshot.active
    let missing := configuration.formats.filter (· ∉ published)
    left.loaderRecords = site.loaderRecords ++
        (missing.map (skippedRecord configuration.executable) ++
          [loadedRecord configuration.executable published.length configuration.formats.length]) ∧
      published.length + missing.length = configuration.formats.length := by
  intro published missing
  obtain ⟨kept, unpublished⟩ := filter_unpublished loader distinct supported
  rw [announce_eq] at announced
  obtain ⟨rfl, rfl⟩ := EStateM.Result.ok.inj announced
  have publishedIs : published = configuration.supportedFormats supported := kept
  have missingIs : missing = configuration.formats.filter (!·.isSupported supported) := unpublished
  rw [missingIs, publishedIs]
  constructor
  · refine Site.loaderRecords_recorded _ fun record member => ?_
    rcases List.mem_append.mp member with among | last
    · obtain ⟨format, -, rfl⟩ := List.mem_map.mp among
      rfl
    · obtain rfl := List.mem_singleton.mp last
      rfl
  · exact (List.length_eq_length_filter_add _).symm

/-- The records of a reload that returns account for its snapshot. First comes one if and only if
the default takes the place of the source, which tells why; then one for each declared format that
is not published, in their order; last how many of the declared formats are published. -/
theorem records_account_for_reload (loader : Loader) (alone : loader.RecordsAlone) (site : Site)
    (snapshot : Snapshot) (left : Site) (reloaded : loader.reload site = .ok snapshot left) :
    let reading := loader.source.read.ending site
    let published := left.registry.snapshot.active
    ∃ configuration fallback, loader.Fallback reading configuration fallback ∧
      (fallback = [] ↔
        ∃ document, reading = .ok document ∧ loader.read document = .ok configuration) ∧
      let missing := configuration.formats.filter (· ∉ published)
      left.loaderRecords = site.loaderRecords ++ fallback ++
        missing.map (skippedRecord configuration.executable) ++
        [loadedRecord configuration.executable published.length configuration.formats.length] ∧
      published.length + missing.length = configuration.formats.length := by
  intro reading published
  obtain ⟨fallback, supported, answered, fellBack, answer, announced⟩ := reload_eq_ok reloaded
  have distinct := distinct_inEffect alone.defaultDistinct alone.readDistinct reading
  -- The question comes after the choice of the configuration, and records nothing for the loader.
  have asked : answered.loaderRecords = site.loaderRecords ++ fallback := by
    rw [alone.after_question answer, Site.loaderRecords_recorded _ fellBack.byLoader]
    exact congrArg (· ++ fallback) (alone.source site)
  obtain ⟨told, counted⟩ := loaderRecords_of_announce distinct announced
  refine ⟨loader.inEffect reading, fallback, fellBack, fellBack.eq_nil_iff, ?_, counted⟩
  rw [told, asked, ← List.append_assoc]

end Loader

/-! ### A directory in the place of the file -/

/-- A loader of the raster tool that finds a directory where its file should be. -/
def directoryLoader : Loader :=
  { pdfLoader with source := FileSource.source ⟨.single, ["gdal.xml"]⟩ }

/-- The site with that directory. -/
def directorySite : Site where
  workspace := { here := [], entries := [(["gdal.xml"], .directory)] }

theorem directoryLoader_recordsAlone : directoryLoader.RecordsAlone where
  defaultDistinct := by decide
  readDistinct _ _ accepted := Configuration.haveDistinctNames_of_read (mapError_eq_ok.mp accepted)
  source := Action.respects_of_after_eq (FileSource.after_source_read _)
  probe executable environment :=
    Loader.respects_supportedFormats (fun _ => Action.respects_pure _) executable environment

/-- The loader warns of the directory, and tells of each default format that is skipped. -/
theorem records_account_for_directory :
    let reading := directoryLoader.source.read.ending directorySite
    let left := directoryLoader.reload.after directorySite
    let published := left.registry.snapshot.active
    directoryLoader.RecordsAlone ∧
    left.loaderRecords.map (·.level) = [.warning, .error, .error, .error, .info] ∧
    ∃ configuration fallback, directoryLoader.Fallback reading configuration fallback ∧
      left.loaderRecords = fallback ++
        (configuration.formats.filter (· ∉ published)).map
          (Loader.skippedRecord configuration.executable) ++
        [Loader.loadedRecord configuration.executable published.length
          configuration.formats.length] := by
  intro reading left published
  have returns : (directoryLoader.reload.ending directorySite).isOk = true := by decide +kernel
  cases reloaded : directoryLoader.reload directorySite with
  | error failure after =>
      rw [Action.ending_of_error reloaded] at returns
      cases returns
  | ok snapshot after =>
      have same : left = after := Action.after_of_ok reloaded
      obtain ⟨configuration, fallback, fellBack, -, told, -⟩ :=
        Loader.records_account_for_reload directoryLoader directoryLoader_recordsAlone
          directorySite snapshot after reloaded
      refine ⟨directoryLoader_recordsAlone, by decide +kernel, configuration, fallback, fellBack,
        ?_⟩
      simp only [published, same, told]
      rfl

end GeoBridge
