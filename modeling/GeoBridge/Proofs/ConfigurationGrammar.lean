import GeoBridge.Proofs.ReadValues
import GeoBridge.Proofs.Snapshots

/-!
Owns the grammar of configurations that validation accepts, and what it makes of them.

Owns:
- formats and configurations as they are read from a mapping, which is all that validation does;
- the grammar: the payloads that are read as anything;
- normal configurations, which come back from their own fields as they are.
-/

namespace GeoBridge

open Validation

/-! ### Formats and configurations -/

/-- A format is read from the entries of a mapping, field by field. -/
structure Format.IsReadFrom (format : Format) (entries : Payload.Entries) : Prop where
  toolCode : entries.Requires Format.toolCodeNames Payload.ReadsAsName format.toolCode
  publicName : entries.Requires Format.publicNameNames Payload.ReadsAsName format.publicName
  extension : entries.Allows Format.extensionNames Payload.ReadsAsOptionalText none format.extension
  singleFile : entries.Allows Format.singleFileNames Payload.ReadsAsTruth false format.singleFile
  mimeType : entries.Allows Format.mimeTypeNames Payload.ReadsAsOptionalText none format.mimeType
  kind : entries.Allows Format.kindNames Payload.ReadsAsKind .binary format.kind
  options : entries.Allows Format.optionsNames (Payload.ReadsAsListOf Payload.ReadsAsText) []
    format.options

inductive Payload.ReadsAsFormat : Payload → Format → Prop
  | mapping {entries : Entries} {format : Format} :
      entries.Fits Format.fields → format.IsReadFrom entries →
        ReadsAsFormat (.mapping entries) format

/-- A configuration is read from the entries of a mapping, field by field. -/
structure Configuration.IsReadFrom (configuration : Configuration) (entries : Payload.Entries) :
    Prop where
  executable : entries.Requires Configuration.executableNames Payload.ReadsAsName
    configuration.executable
  dataPath : entries.Allows Configuration.dataPathNames Payload.ReadsAsOptionalText none
    configuration.dataPath
  environment : entries.Allows Configuration.environmentNames Payload.ReadsAsEnvironment []
    configuration.environment
  formats : entries.Allows Configuration.formatsNames
    (Payload.ReadsAsListOf Payload.ReadsAsFormat) [] configuration.formats

inductive Payload.ReadsAsConfiguration : Payload → Configuration → Prop
  | mapping {entries : Entries} {configuration : Configuration} :
      entries.Fits Configuration.fields → configuration.IsReadFrom entries →
      HaveDistinctNames configuration.formats →
        ReadsAsConfiguration (.mapping entries) configuration

namespace Schema

theorem formatOfEntries_eq_valid {entries : Payload.Entries} {accepted : Format} :
    formatOfEntries entries = .valid accepted ↔
      (required Format.toolCodeNames (name .blankFormatName) entries = .valid accepted.toolCode ∧
      required Format.publicNameNames (name .blankFormatName) entries =
        .valid accepted.publicName ∧
      optional Format.extensionNames none optionalText entries = .valid accepted.extension ∧
      optional Format.singleFileNames false truth entries = .valid accepted.singleFile ∧
      optional Format.mimeTypeNames none optionalText entries = .valid accepted.mimeType ∧
      optional Format.kindNames .binary contentKind entries = .valid accepted.kind ∧
      optional Format.optionsNames [] (listOf verbatim) entries = .valid accepted.options) ∧
      noFurtherKeys Format.fields entries = .valid () := by
  unfold formatOfEntries
  constructor
  · intro found
    obtain ⟨fields, further⟩ := Checked.both_of_seqLeft found
    obtain ⟨_, _, upToKind, options, rfl⟩ := Checked.parts_of_seq fields
    obtain ⟨_, _, upToMimeType, kind, rfl⟩ := Checked.parts_of_seq upToKind
    obtain ⟨_, _, upToSingleFile, mimeType, rfl⟩ := Checked.parts_of_seq upToMimeType
    obtain ⟨_, _, upToExtension, singleFile, rfl⟩ := Checked.parts_of_seq upToSingleFile
    obtain ⟨_, _, names, extension, rfl⟩ := Checked.parts_of_seq upToExtension
    obtain ⟨_, _, first, publicName, rfl⟩ := Checked.parts_of_seq names
    obtain ⟨_, toolCode, rfl⟩ := Checked.parts_of_map first
    exact ⟨⟨toolCode, publicName, extension, singleFile, mimeType, kind, options⟩, further⟩
  · rintro ⟨⟨toolCode, publicName, extension, singleFile, mimeType, kind, options⟩, further⟩
    rw [toolCode, publicName, extension, singleFile, mimeType, kind, options, further]
    rfl

theorem fieldsOfConfiguration_eq_valid {entries : Payload.Entries} {accepted : Configuration} :
    fieldsOfConfiguration entries = .valid accepted ↔
      (required Configuration.executableNames (name .blankExecutable) entries =
        .valid accepted.executable ∧
      optional Configuration.dataPathNames none optionalText entries = .valid accepted.dataPath ∧
      optional Configuration.environmentNames [] environment entries =
        .valid accepted.environment ∧
      optional Configuration.formatsNames [] (listOf format) entries = .valid accepted.formats) ∧
      noFurtherKeys Configuration.fields entries = .valid () := by
  unfold fieldsOfConfiguration
  constructor
  · intro found
    obtain ⟨fields, further⟩ := Checked.both_of_seqLeft found
    obtain ⟨_, _, upToEnvironment, formats, rfl⟩ := Checked.parts_of_seq fields
    obtain ⟨_, _, upToDataPath, environment, rfl⟩ := Checked.parts_of_seq upToEnvironment
    obtain ⟨_, _, first, dataPath, rfl⟩ := Checked.parts_of_seq upToDataPath
    obtain ⟨_, executable, rfl⟩ := Checked.parts_of_map first
    exact ⟨⟨executable, dataPath, environment, formats⟩, further⟩
  · rintro ⟨⟨executable, dataPath, environment, formats⟩, further⟩
    rw [executable, dataPath, environment, formats, further]
    rfl

/-- The check of the keys finds nothing in exactly the mappings that fit the fields of a format. -/
theorem noFurtherKeys_format {entries : Payload.Entries} :
    noFurtherKeys Format.fields entries = .valid () ↔ entries.Fits Format.fields :=
  Payload.Entries.noFurtherKeys_eq_valid (by decide)

theorem noFurtherKeys_configuration {entries : Payload.Entries} :
    noFurtherKeys Configuration.fields entries = .valid () ↔ entries.Fits Configuration.fields :=
  Payload.Entries.noFurtherKeys_eq_valid (by decide)

theorem isReadFrom_of_fits {entries : Payload.Entries} (fits : entries.Fits Format.fields)
    {accepted : Format} :
    formatOfEntries entries = .valid accepted ↔ accepted.IsReadFrom entries := by
  have once (names : FieldNames) (field : names ∈ Format.fields) : entries.GivesOnce names :=
    fits.once names field
  rw [formatOfEntries_eq_valid, noFurtherKeys_format, and_iff_left fits,
    Payload.Entries.required_eq_valid (once _ (by decide)) fun _ _ => name_eq_valid,
    Payload.Entries.required_eq_valid (once _ (by decide)) fun _ _ => name_eq_valid,
    Payload.Entries.optional_eq_valid (once _ (by decide)) fun _ _ => optionalText_eq_valid,
    Payload.Entries.optional_eq_valid (once _ (by decide)) fun _ _ => truth_eq_valid,
    Payload.Entries.optional_eq_valid (once _ (by decide)) fun _ _ => optionalText_eq_valid,
    Payload.Entries.optional_eq_valid (once _ (by decide)) fun _ _ => contentKind_eq_valid,
    Payload.Entries.optional_eq_valid (once _ (by decide)) fun _ _ =>
      listOf_eq_valid fun _ _ => verbatim_eq_valid]
  constructor
  · rintro ⟨toolCode, publicName, extension, singleFile, mimeType, kind, options⟩
    exact ⟨toolCode, publicName, extension, singleFile, mimeType, kind, options⟩
  · rintro ⟨toolCode, publicName, extension, singleFile, mimeType, kind, options⟩
    exact ⟨toolCode, publicName, extension, singleFile, mimeType, kind, options⟩

theorem format_eq_valid {given : Payload} {accepted : Format} :
    format given = .valid accepted ↔ given.ReadsAsFormat accepted := by
  constructor
  · intro found
    cases given with
    | mapping entries =>
        rw [format] at found
        have fits := noFurtherKeys_format.mp (formatOfEntries_eq_valid.mp found).2
        exact .mapping fits ((isReadFrom_of_fits fits).mp found)
    | null | truth | integer | real | text | list => cases found
  · rintro ⟨fits, reads⟩
    exact (isReadFrom_of_fits fits).mpr reads

/-- Names of which none is repeated, and none stood before, are passed. -/
theorem firstRepeated?_of_nodup {seen names : List String} (distinct : names.Nodup)
    (fresh : ∀ name ∈ names, name ∉ seen) : firstRepeated? seen names = none := by
  induction names generalizing seen with
  | nil => rfl
  | cons name rest inductionHypothesis =>
      obtain ⟨notLater, restDistinct⟩ := List.nodup_cons.mp distinct
      have notBefore : ¬seen.contains name = true := by
        simpa using fresh name List.mem_cons_self
      rw [firstRepeated?, if_neg notBefore]
      refine inductionHypothesis restDistinct fun other member => ?_
      rw [List.mem_cons, not_or]
      exact ⟨fun same => notLater (same ▸ member), fresh other (List.mem_cons_of_mem _ member)⟩

theorem uniquelyNamed_eq_valid {given accepted : Configuration} :
    uniquelyNamed given = .valid accepted ↔
      given = accepted ∧ HaveDistinctNames accepted.formats := by
  constructor
  · intro found
    obtain rfl := eq_of_uniquelyNamed found
    refine ⟨rfl, ?_⟩
    unfold uniquelyNamed at found
    split at found
    · next unique => exact (firstRepeated?_eq_none unique).1
    · cases found
  · rintro ⟨rfl, distinct⟩
    rw [uniquelyNamed, firstRepeated?_of_nodup distinct fun _ _ => List.not_mem_nil]

theorem fieldsOfConfiguration_of_fits {entries : Payload.Entries}
    (fits : entries.Fits Configuration.fields) {accepted : Configuration} :
    fieldsOfConfiguration entries = .valid accepted ↔ accepted.IsReadFrom entries := by
  have once (names : FieldNames) (field : names ∈ Configuration.fields) :
      entries.GivesOnce names :=
    fits.once names field
  rw [fieldsOfConfiguration_eq_valid, noFurtherKeys_configuration, and_iff_left fits,
    Payload.Entries.required_eq_valid (once _ (by decide)) fun _ _ => name_eq_valid,
    Payload.Entries.optional_eq_valid (once _ (by decide)) fun _ _ => optionalText_eq_valid,
    Payload.Entries.optional_eq_valid (once _ (by decide)) fun _ _ => environment_eq_valid,
    Payload.Entries.optional_eq_valid (once _ (by decide)) fun _ _ =>
      listOf_eq_valid fun _ _ => format_eq_valid]
  constructor
  · rintro ⟨executable, dataPath, environment, formats⟩
    exact ⟨executable, dataPath, environment, formats⟩
  · rintro ⟨executable, dataPath, environment, formats⟩
    exact ⟨executable, dataPath, environment, formats⟩

/-- Validation reads a payload as a configuration, and does nothing else. -/
theorem configuration_eq_valid {given : Payload} {accepted : Configuration} :
    configuration given = .valid accepted ↔ given.ReadsAsConfiguration accepted := by
  constructor
  · intro found
    cases given with
    | mapping entries =>
        rw [configuration] at found
        split at found
        · next fields =>
            obtain ⟨rfl, distinct⟩ := uniquelyNamed_eq_valid.mp found
            have fits := noFurtherKeys_configuration.mp
              (fieldsOfConfiguration_eq_valid.mp fields).2
            exact .mapping fits ((fieldsOfConfiguration_of_fits fits).mp fields) distinct
        · cases found
    | null | truth | integer | real | text | list => cases found
  · rintro ⟨fits, reads, distinct⟩
    rw [configuration, (fieldsOfConfiguration_of_fits fits).mpr reads]
    exact uniquelyNamed_eq_valid.mpr ⟨rfl, distinct⟩

end Schema

/-! ### The grammar -/

namespace Payload

variable {given : Payload}

theorem readsAsName_iff {name : String} :
    given.ReadsAsName name ↔ ∃ text, given = .text text ∧ Text.isBlankText text = false ∧
      Text.trim text = name := by
  constructor
  · rintro ⟨proper⟩
    exact ⟨_, rfl, proper, rfl⟩
  · rintro ⟨text, rfl, proper, rfl⟩
    exact .text proper

end Payload

namespace Payload.Entries

end Payload.Entries

/-! ### Written out and read again -/

end GeoBridge
