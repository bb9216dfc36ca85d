import GeoBridge.Configuration.Document
import GeoBridge.Configuration.Writer
import GeoBridge.Proofs.ValidConfigurations

/-!
Owns the entries from which validation builds a given configuration.

Owns:
- the entries of formats and configurations under the names that documents use;
- the passage of every normal format and configuration through its own entries.
-/

namespace GeoBridge

open Validation

namespace Schema

/-! ### Checks of single fields -/

section Fields

variable {α β : Type} {names : FieldNames} {check : Payload → Checked α}
  {entries : Payload.Entries} {key : String} {given : Payload} {value : α}

theorem required_of_present (present : present? names entries = some (key, given))
    (valid : check given = .valid value) : required names check entries = .valid value := by
  rw [required, present]
  simp only
  rw [valid, Checked.within]

theorem optional_of_present {absent : α} (present : present? names entries = some (key, given))
    (valid : check given = .valid value) : optional names absent check entries = .valid value := by
  rw [optional, present]
  simp only
  rw [valid, Checked.within]

theorem optional_of_absent (absent : α) (missing : present? names entries = none) :
    optional names absent check entries = .valid absent := by
  rw [optional, missing]

theorem name_of_proper (blank : Rule) {text : String} (proper : IsProperName text) :
    name blank (.text text) = .valid text := by
  rw [name, proper.1]
  rw [if_neg (by simp [proper.2])]

theorem optionalText_of_proper {text : String} (proper : Text.isBlankText text = false) :
    optionalText (.text text) = .valid (some text) := by
  rw [optionalText, if_neg (by simp [proper])]

/-- Text under a field of its own, or nothing under that field, is taken over. -/
theorem optional_text {text : Option String}
    (present : present? names entries = text.map fun found => (key, Payload.text found))
    (proper : IsBlankNowhere text) : optional names none optionalText entries = .valid text := by
  cases text with
  | none => exact optional_of_absent none present
  | some found => exact optional_of_present present (optionalText_of_proper (proper found rfl))

theorem truth_truthWord (value : Bool) : truth (.text (truthWord value)) = .valid value := by
  cases value <;> rfl

theorem contentKind_name (kind : ContentKind) : contentKind (.text kind.name) = .valid kind := by
  cases kind <;> decide +kernel

/-- A list is valid where each of its items is. -/
theorem listOf_of_forall (described : β → Payload) (result : β → α) {items : List β}
    (each : ∀ item ∈ items, check (described item) = .valid (result item)) :
    listOf check (.list (items.map described)) = .valid (items.map result) := by
  have from_ (start : Nat) : Checked.all (((items.map described).zipIdx start).map
      fun entry => (check entry.1).within (.index entry.2)) = .valid (items.map result) := by
    induction items generalizing start with
    | nil => rfl
    | cons first rest inductionHypothesis =>
        have further := inductionHypothesis
          (fun item member => each item (List.mem_cons_of_mem _ member)) (start + 1)
        have one := each first List.mem_cons_self
        rw [List.map_cons, List.zipIdx_cons, List.map_cons, Checked.all, further]
        simp only
        rw [one]
        rfl
  exact from_ 0

end Fields

end Schema

/-! ### Formats -/

namespace Format

/-- The entries of a format. -/
def entries (format : Format) : Payload.Entries :=
  [("toolFormat", .text format.toolCode), ("geoserverFormat", .text format.publicName)]
    ++ (format.extension.map fun text => ("fileExtension", Payload.text text)).toList
    ++ [("singleFile", .text (truthWord format.singleFile))]
    ++ (format.mimeType.map fun text => ("mimeType", Payload.text text)).toList
    ++ [("type", .text format.kind.name)]
    ++ [("options", .list (format.options.map .text))]

/-- Each field of a format is found among its entries, and they give nothing else. -/
theorem present?_entries (format : Format) :
    Schema.present? toolCodeNames format.entries = some ("toolFormat", .text format.toolCode) ∧
    Schema.present? publicNameNames format.entries =
      some ("geoserverFormat", .text format.publicName) ∧
    Schema.present? extensionNames format.entries =
      format.extension.map (fun text => ("fileExtension", .text text)) ∧
    Schema.present? singleFileNames format.entries =
      some ("singleFile", .text (truthWord format.singleFile)) ∧
    Schema.present? mimeTypeNames format.entries =
      format.mimeType.map (fun text => ("mimeType", .text text)) ∧
    Schema.present? kindNames format.entries = some ("type", .text format.kind.name) ∧
    Schema.present? optionsNames format.entries =
      some ("options", .list (format.options.map .text)) ∧
    Schema.noFurtherKeys fields format.entries = .valid () := by
  obtain ⟨_, _, extension, _, mimeType, _, _⟩ := format
  cases extension <;> cases mimeType <;> exact ⟨rfl, rfl, rfl, rfl, rfl, rfl, rfl, rfl⟩

/-- Validation builds every normal format from its entries. -/
theorem format_entries {format : Format} (normal : format.IsNormal) :
    Schema.format (.mapping format.entries) = .valid format := by
  obtain ⟨toolCode, publicName, extension, singleFile, mimeType, kind, options, further⟩ :=
    present?_entries format
  have optionsValid : Schema.listOf Schema.verbatim (.list (format.options.map .text)) =
      .valid format.options := by
    have each : ∀ option ∈ format.options, Schema.verbatim (.text option) = .valid (id option) :=
      fun _ _ => rfl
    rw [Schema.listOf_of_forall Payload.text id each, List.map_id]
  rw [Schema.format, Schema.formatOfEntries,
    Schema.required_of_present toolCode (Schema.name_of_proper _ normal.toolCode),
    Schema.required_of_present publicName (Schema.name_of_proper _ normal.publicName),
    Schema.optional_text extension normal.extension,
    Schema.optional_of_present singleFile (Schema.truth_truthWord format.singleFile),
    Schema.optional_text mimeType normal.mimeType,
    Schema.optional_of_present kind (Schema.contentKind_name format.kind),
    Schema.optional_of_present options optionsValid, further]
  rfl

end Format

/-! ### Configurations -/

namespace Configuration

/-- The entry of an environment, where there is anything in it. -/
def environmentEntries (environment : Environment) : Payload.Entries :=
  if environment.isEmpty then [] else [("environment", environmentPayload environment)]

/-- The entries of a configuration. -/
def entries (configuration : Configuration) : Payload.Entries :=
  [("executable", .text configuration.executable)]
    ++ (configuration.dataPath.map fun text => ("dataPath", Payload.text text)).toList
    ++ environmentEntries configuration.environment
    ++ [("formats", .list (configuration.formats.map fun format => .mapping format.entries))]

theorem present?_entries (configuration : Configuration) :
    Schema.present? executableNames configuration.entries =
      some ("executable", .text configuration.executable) ∧
    Schema.present? dataPathNames configuration.entries =
      configuration.dataPath.map (fun text => ("dataPath", .text text)) ∧
    Schema.present? environmentNames configuration.entries =
      (if configuration.environment.isEmpty then none
        else some ("environment", environmentPayload configuration.environment)) ∧
    Schema.present? formatsNames configuration.entries =
      some ("formats", .list (configuration.formats.map fun format => .mapping format.entries)) ∧
    Schema.noFurtherKeys fields configuration.entries = .valid () := by
  obtain ⟨_, dataPath, environment, _⟩ := configuration
  cases dataPath <;> cases environment <;> exact ⟨rfl, rfl, rfl, rfl, rfl⟩

theorem environment_environmentPayload {environment : Environment}
    (distinct : (Association.keys environment).Nodup) :
    Schema.environment (environmentPayload environment) = .valid environment := by
  have same : (environment.map fun entry => (entry.1, Payload.text entry.2)).map
      (fun entry => (entry.1, entry.2.asText)) = environment := by
    rw [List.map_map]
    exact List.map_id _
  have built : Schema.environment (environmentPayload environment) =
      .valid (Association.ofEntries ((environment.map fun entry =>
        (entry.1, Payload.text entry.2)).map fun entry => (entry.1, entry.2.asText))) := rfl
  rw [built, same, Association.ofEntries_of_distinct distinct]

/-- Validation builds every normal configuration from its entries, up to the uniqueness of public
names. -/
theorem configuration_entries {configuration : Configuration}
    (executable : IsProperName configuration.executable)
    (dataPath : IsBlankNowhere configuration.dataPath)
    (distinct : (Association.keys configuration.environment).Nodup)
    (formats : ∀ format ∈ configuration.formats, format.IsNormal) :
    Schema.configuration (.mapping configuration.entries) =
      Schema.uniquelyNamed configuration := by
  obtain ⟨executableThere, dataPathThere, environmentThere, formatsThere, further⟩ :=
    present?_entries configuration
  have environmentValid : Schema.optional environmentNames [] Schema.environment
      configuration.entries = .valid configuration.environment := by
    by_cases empty : configuration.environment.isEmpty = true
    · rw [if_pos empty] at environmentThere
      rw [Schema.optional_of_absent [] environmentThere, List.isEmpty_iff.mp empty]
    · rw [if_neg empty] at environmentThere
      exact Schema.optional_of_present environmentThere (environment_environmentPayload distinct)
  have formatsValid : Schema.listOf Schema.format
      (.list (configuration.formats.map fun format => .mapping format.entries)) =
        .valid configuration.formats := by
    have each : ∀ format ∈ configuration.formats,
        Schema.format (.mapping format.entries) = .valid (id format) :=
      fun format member => Format.format_entries (formats format member)
    rw [Schema.listOf_of_forall (fun format : Format => .mapping format.entries) id each,
      List.map_id]
  have fields : Schema.fieldsOfConfiguration configuration.entries = .valid configuration := by
    rw [Schema.fieldsOfConfiguration,
      Schema.required_of_present executableThere (Schema.name_of_proper _ executable),
      Schema.optional_text dataPathThere dataPath, environmentValid,
      Schema.optional_of_present formatsThere formatsValid, further]
    rfl
  rw [Schema.configuration, fields]

end Configuration

end GeoBridge
