import GeoBridge.Proofs.ConfigurationEntries
import GeoBridge.Proofs.ConversionFiles
import GeoBridge.Proofs.Reload
import GeoBridge.Proofs.SnapshotIsolation
import Mathlib.Data.List.Forall2

/-!
Owns the agreement of the outputs that a registry describes with those that are produced.

Owns:
- the snapshots that are published from a configuration, and the formats that are active in them;
- the description of a format and an output that is produced in it, whose mime types are chosen
  apart;
- the descriptions of a published snapshot, one for each active format, and the outputs of
  conversions from it.
-/

namespace GeoBridge

/-! ### Published snapshots -/

namespace Configuration

/-- The snapshots that are published from a configuration: that of a reload in which it is in
effect, and that of a registry which is made of everything that it declares. -/
inductive Publishes (configuration : Configuration) : Snapshot → Prop
  | reloaded {loader : Loader} {site left : Site} {snapshot : Snapshot} :
      loader.inEffect (loader.source.read.ending site) = configuration →
      loader.reload site = .ok snapshot left → Publishes configuration snapshot
  | whole (dataVariable : Option String) :
      Publishes configuration (Registry.ofConfiguration configuration dataVariable).snapshot

variable {configuration : Configuration} {snapshot : Snapshot}

/-- A published snapshot holds some of the declared formats under their public names, in their
order. -/
theorem Publishes.exists_formats (published : configuration.Publishes snapshot)
    (distinct : HaveDistinctNames configuration.formats) :
    ∃ active : List Format, active.Sublist configuration.formats ∧
      snapshot.formats = active.map fun format => (format.publicName, format) := by
  cases published with
  | @reloaded loader site left _ inEffect reloaded =>
      obtain ⟨-, supported, rfl⟩ := Loader.snapshot_of_reload reloaded
      rw [inEffect, Loader.snapshotOf_eq distinct]
      exact ⟨_, List.filter_sublist, rfl⟩
  | whole dataVariable =>
      rw [Registry.ofConfiguration, Snapshot.build_of_distinct distinct]
      exact ⟨_, List.Sublist.refl _, rfl⟩

end Configuration

/-! ### Mime types -/

theorem qualifiedMimeType_of_named (mimeType : String) {formatName : String}
    (named : formatName.isEmpty = false) :
    qualifiedMimeType mimeType formatName = mimeType ++ "; subtype=" ++ formatName := by
  rw [qualifiedMimeType, named]
  rfl

/-- A format whose mime type is nowhere blank is served under that of its responses, if there is
one. -/
theorem Format.servedMimeType_of_normal {format : Format} (normal : format.IsNormal) :
    format.servedMimeType = format.responseMimeType.getD "application/octet-stream" := by
  have proper (mimeType : String) (given : format.responseMimeType = some mimeType) :
      mimeType.isEmpty = false := by
    unfold responseMimeType at given
    split at given
    · exact isEmpty_of_notBlank (normal.mimeType mimeType given)
    · cases given
      rfl
  unfold servedMimeType
  cases given : format.responseMimeType with
  | none => rfl
  | some mimeType =>
      simp only [proper mimeType given, Bool.false_eq_true, if_false]
      rfl

namespace Output

variable (format : Format) (mimeType : String) (path : Option Path)

@[simp] theorem kind_ofFormat : (ofFormat format mimeType path).kind = format.kind := by
  unfold ofFormat
  split <;> simp [kind, *]

@[simp] theorem formatName_ofFormat :
    (ofFormat format mimeType path).formatName = format.publicName := by
  unfold ofFormat
  split <;> rfl

@[simp] theorem mimeType_ofFormat : (ofFormat format mimeType path).mimeType = mimeType := by
  unfold ofFormat
  split <;> rfl

@[simp] theorem path_ofFormat : (ofFormat format mimeType path).path = path := by
  unfold ofFormat
  split <;> rfl

/-- What the description of a format tells of an output that is produced in it, by the mime type
that is given for the format. The two are of one kind, which is that of the format, and the
description qualifies the mime type of the output with the public name, but that of XML documents is
told for every format of their kind. -/
structure Announces (format : Format) (mimeType : Option String) (description output : Output) :
    Prop where
  described : description.formatName = format.publicName
  produced : output.formatName = format.publicName
  kind : description.kind = format.kind
  sameKind : output.kind = description.kind
  served : output.mimeType = mimeType.getD "application/octet-stream"
  plain : description.kind ≠ .xml →
    description.mimeType = output.mimeType ++ "; subtype=" ++ format.publicName
  xml : description.kind = .xml →
    description.mimeType = "text/xml; subtype=" ++ format.publicName

theorem announces_of_normal {format : Format} (normal : format.IsNormal) (path : Path) :
    Announces format format.responseMimeType (.described format) (.produced format path) where
  described := formatName_ofFormat ..
  produced := formatName_ofFormat ..
  kind := kind_ofFormat ..
  sameKind := (kind_ofFormat ..).trans (kind_ofFormat ..).symm
  served := (mimeType_ofFormat ..).trans (Format.servedMimeType_of_normal normal)
  plain := by
    intro notXml
    rw [described, kind_ofFormat] at notXml
    rw [described, produced, mimeType_ofFormat, mimeType_ofFormat, describedMimeType,
      if_neg notXml, qualifiedMimeType_of_named _ normal.publicName.2]
  xml := by
    intro isXml
    rw [described, kind_ofFormat] at isXml
    rw [described, mimeType_ofFormat, describedMimeType, if_pos isXml,
      qualifiedMimeType_of_named _ normal.publicName.2]
    rfl

end Output

/-! ### Descriptions of a snapshot -/

namespace Service

variable {service : Service} {request : ServiceRequest} {site : Site}

/-- A conversion that succeeds produces an output in the format that is active under its name. -/
theorem exists_output {format : Format} {conversion : Conversion}
    (active : site.registry.get? request.formatName = some format)
    (converted : (service.run request).ending site = .ok conversion) :
    (service.convertOutput request).ending site =
      .ok (.produced format conversion.outputPath) := by
  rw [ending_run] at converted
  rw [ending_convertOutput]
  -- Both make the same conversion, and differ in what they tell of it.
  rw [ending_execute_of_find? rfl active] at converted ⊢
  cases ran : ((service.toolOf site.registry.snapshot).run (toolRequest request format)).ending
      (site.entered (.recorded (beginning request))) with
  | error failure =>
      rw [ran] at converted
      cases converted
  | ok found =>
      rw [ran] at converted
      have same : found = conversion := Except.ok.inj converted
      rw [same]
      rfl

end Service

namespace Registry

/-- How the outputs that a registry describes go with what is declared, and with what is produced.
The active formats are some of those declared, in their order, each under its own name. There is one
description for each of them, in the same order. Whenever a conversion from the same snapshot
succeeds in a format, it produces an output that goes with its description. -/
structure Describes (registry : Registry) (declared : List Format) : Prop where
  active : registry.formats.Sublist declared
  found : ∀ name format, registry.get? name = some format ↔
    format ∈ registry.formats ∧ format.publicName = name
  named : registry.describeOutputs.map Output.formatName = registry.formats.map (·.publicName)
  distinct : (registry.describeOutputs.map Output.formatName).Nodup
  produced : List.Forall₂ (fun format description =>
    ∀ (service : Service) (request : ServiceRequest) (site : Site) (conversion : Conversion),
      site.registry.snapshot = registry.snapshot → request.formatName = format.publicName →
      (service.run request).ending site = .ok conversion →
        ∃ output, (service.convertOutput request).ending site = .ok output ∧
          output.path = some conversion.outputPath ∧
          Output.Announces format (registry.mimeTypeOf format.publicName) description output)
    registry.formats registry.describeOutputs

variable {registry : Registry}

theorem describes_of_formats {active declared : List Format} (within : active.Sublist declared)
    (normal : ∀ format ∈ declared, format.IsNormal) (distinct : HaveDistinctNames active)
    (formats : registry.snapshot.formats = active.map fun format => (format.publicName, format)) :
    registry.Describes declared := by
  have whole : registry.formats = active := Snapshot.active_of_formats formats
  have found (name : String) (format : Format) : registry.get? name = some format ↔
      format ∈ registry.formats ∧ format.publicName = name := by
    rw [get?, formats, whole]
    exact find?_of_distinct distinct
  have named : registry.describeOutputs.map Output.formatName =
      registry.formats.map (·.publicName) := by
    rw [describeOutputs, List.map_map]
    exact List.map_congr_left fun format _ => Output.formatName_ofFormat format _ _
  refine ⟨whole ▸ within, found, named, ?_, ?_⟩
  · rw [named, whole]
    exact distinct
  -- Descriptions are made of the active formats one by one.
  · rw [describeOutputs, List.forall₂_map_right_iff, List.forall₂_same]
    intro format member service request site conversion current asked converted
    have registered : registry.get? format.publicName = some format :=
      (found _ _).mpr ⟨member, rfl⟩
    have active : site.registry.get? request.formatName = some format := by
      rw [asked, get?, current]
      exact registered
    refine ⟨_, Service.exists_output active converted, Output.path_ofFormat .., ?_⟩
    rw [mimeTypeOf, registered]
    exact Output.announces_of_normal (normal format (within.subset (whole ▸ member))) _

/-- Whatever configuration passes validation: a registry whose snapshot is published from it
describes its active formats as conversions from that snapshot produce them. -/
theorem describes_of_published {payload : Payload} {configuration : Configuration}
    (valid : Schema.configuration payload = .valid configuration) (registry : Registry)
    (published : configuration.Publishes registry.snapshot) :
    registry.Describes configuration.formats := by
  have distinct := Schema.haveDistinctNames_of_valid valid
  obtain ⟨active, within, formats⟩ := published.exists_formats distinct
  exact describes_of_formats within (Schema.isNormal_of_configuration valid).formats
    (distinct.sublist (within.map _)) formats

end Registry

/-! ### A description after a fallback -/

/-- A request for the format that the default configuration declares second. -/
def gdalPdfRequest : ServiceRequest where
  input := ⟨.single, ["in.tif"]⟩
  directory := ⟨.single, ["out"]⟩
  typeName := "t"
  formatName := "GDAL-PDF"

/-- After a reload that falls back to the default, the one active format is described as a
conversion produces it. -/
theorem fallback_is_described_as_produced :
    let left := pdfLoader.reload.after inputSite
    Schema.configuration (.mapping Catalog.gdal.entries) = .valid Catalog.gdal ∧
    Catalog.gdal.Publishes left.registry.snapshot ∧
    left.registry.Describes Catalog.gdal.formats ∧
    left.registry.describeOutputs =
      [.binary "GDAL-PDF" "application/pdf; subtype=GDAL-PDF" none] ∧
    (obligingService.convertOutput gdalPdfRequest).ending left =
      .ok (.binary "GDAL-PDF" "application/pdf" (some ⟨.single, ["out", "t.pdf"]⟩)) := by
  intro left
  have valid : Schema.configuration (.mapping Catalog.gdal.entries) = .valid Catalog.gdal := by
    decide +kernel
  have published : Catalog.gdal.Publishes left.registry.snapshot := by
    have returns : (pdfLoader.reload.ending inputSite).isOk = true := by decide +kernel
    cases reloaded : pdfLoader.reload inputSite with
    | ok snapshot after =>
        have same : left = after := Action.after_of_ok reloaded
        rw [same, (Loader.snapshot_of_reload reloaded).1]
        exact .reloaded rfl reloaded
    | error failure after =>
        rw [Action.ending_of_error reloaded] at returns
        cases returns
  have describes := Registry.describes_of_published valid left.registry published
  exact ⟨valid, published, describes, by decide +kernel, by decide +kernel⟩

end GeoBridge
