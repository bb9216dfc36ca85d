import GeoBridge.Configuration
import GeoBridge.Payload
import GeoBridge.Validation

/-!
Owns the validation of loosely typed values as formats and configurations.

Owns:
- the names under which each field may be given, in order of preference;
- the checks of single fields and their normal forms;
- the order of findings: fields in their order, then unknown keys in the order given, and the
  uniqueness of public names only where there is no other finding.
-/

namespace GeoBridge

open Validation

/-- The entries of a mapping from outside. -/
abbrev Payload.Entries := List (String × Payload)

/-- The names of a field, the preferred one first. -/
abbrev FieldNames := List String

namespace Format

/-- The names of the tool code. -/
def toolCodeNames : FieldNames := ["tool_format", "toolFormat", "gdalFormat", "ogrFormat"]

/-- The names of the public name. -/
def publicNameNames : FieldNames := ["public_name", "geoserverFormat", "formatName"]

/-- The names of the extension. -/
def extensionNames : FieldNames := ["file_extension", "fileExtension"]

/-- The names of the mark of formats that consist of one file. -/
def singleFileNames : FieldNames := ["single_file", "singleFile"]

/-- The names of the mime type. -/
def mimeTypeNames : FieldNames := ["mime_type", "mimeType"]

/-- The names of the kind of content. -/
def kindNames : FieldNames := ["type"]

/-- The names of the options. -/
def optionsNames : FieldNames := ["options"]

/-- All fields of a format, in their order. -/
def fields : List FieldNames :=
  [toolCodeNames, publicNameNames, extensionNames, singleFileNames, mimeTypeNames, kindNames,
   optionsNames]

end Format

namespace Configuration

/-- The names of the executable. -/
def executableNames : FieldNames := ["executable", "gdalTranslateLocation", "ogr2ogrLocation"]

/-- The names of the data path. -/
def dataPathNames : FieldNames := ["data_path", "dataPath", "gdalData"]

/-- The names of the environment. -/
def environmentNames : FieldNames := ["environment"]

/-- The names of the formats. -/
def formatsNames : FieldNames := ["formats"]

/-- All fields of a configuration, in their order. -/
def fields : List FieldNames :=
  [executableNames, dataPathNames, environmentNames, formatsNames]

end Configuration

namespace Schema

/-- The entry of a field: the first of its names that is present, with its value. -/
def present? (names : FieldNames) (entries : Payload.Entries) : Option (String × Payload) :=
  names.findSome? fun name => (entries.lookup name).map fun value => (name, value)

/-- A field that may be absent, and then has a default. -/
def optional {α : Type} (names : FieldNames) (absent : α) (check : Payload → Checked α)
    (entries : Payload.Entries) : Checked α :=
  match present? names entries with
  | none => .valid absent
  | some (name, value) => (check value).within (.key name)

/-- A field that must be present. Its absence is found under its preferred name. -/
def required {α : Type} (names : FieldNames) (check : Payload → Checked α)
    (entries : Payload.Entries) : Checked α :=
  match present? names entries with
  | none => (Checked.refuse .missing).within (.key (names.headD ""))
  | some (name, value) => (check value).within (.key name)

/-- The keys that no field takes are refused, in their order. A name of a field that was given
under a preferred one counts among them. -/
def noFurtherKeys (fields : List FieldNames) (entries : Payload.Entries) : Checked Unit :=
  let taken := fields.filterMap fun names => (present? names entries).map Prod.fst
  match (entries.map Prod.fst).filter (!taken.contains ·) with
  | [] => .valid ()
  | unused => .invalid (unused.map fun key => ⟨[.key key], .unknownKey⟩)

/-- Text that is not blank, without the blanks around it. -/
def name (blank : Rule) : Payload → Checked String
  | .text text =>
      let trimmed := Text.trim text
      if trimmed.isEmpty then .refuse (.broken blank) else .valid trimmed
  | _ => .refuse .notText

/-- Text taken as it is, where blank text and null stand for none. -/
def optionalText : Payload → Checked (Option String)
  | .null => .valid none
  | .text text => .valid (if Text.isBlankText text then none else some text)
  | _ => .refuse .notText

/-- The words for true. -/
def trueWords : List String := ["1", "on", "t", "true", "y", "yes"]

/-- The words for false. -/
def falseWords : List String := ["0", "off", "f", "false", "n", "no"]

/-- A truth value given by a word, in any ASCII case. -/
def truthOfWord (word : String) : Checked Bool :=
  let lower := String.ofList (word.toList.map Char.toLower)
  if trueWords.contains lower then .valid true
  else if falseWords.contains lower then .valid false
  else .refuse .unreadableTruth

/-- A truth value given by a number. Numbers other than zero and one are unreadable as long as
they are integers of sixty-four bits. -/
def truthOfInteger (number : Int) : Checked Bool :=
  if number = 0 then .valid false
  else if number = 1 then .valid true
  else if -Decimal.twoTo 63 ≤ number ∧ number < Decimal.twoTo 63 then .refuse .unreadableTruth
  else .refuse .notTruth

/-- A truth value given by a floating-point number. -/
def truthOfReal (number : Decimal.Binary64) : Checked Bool :=
  if number.significand == 0 && number.isFinite then .valid false
  else if number.equalsNat 1 then .valid true
  else if number.isIntegral && number.significand.log2 + number.power < 63 then
    .refuse .unreadableTruth
  else .refuse .notTruth

/-- A truth value. -/
def truth : Payload → Checked Bool
  | .truth value => .valid value
  | .integer number => truthOfInteger number
  | .real number => truthOfReal number
  | .text word => truthOfWord word
  | _ => .refuse .notTruth

/-- A kind of content, where blank text and null stand for binary content. -/
def contentKind : Payload → Checked ContentKind
  | .null => .valid .binary
  | .text text =>
      if Text.isBlankText text then .valid .binary
      else
        match ContentKind.read? text with
        | some kind => .valid kind
        | none => .refuse .notContentKind
  | _ => .refuse .notContentKind

/-- Text taken as it is. -/
def verbatim : Payload → Checked String
  | .text text => .valid text
  | _ => .refuse .notText

/-- A list whose items all pass a check. Findings are placed at the index of their item. -/
def listOf {α : Type} (check : Payload → Checked α) : Payload → Checked (List α)
  | .list items =>
      .all (items.zipIdx.map fun (item, position) => (check item).within (.index position))
  | _ => .refuse .notList

/-- An environment: a mapping whose values are turned into text. -/
def environment : Payload → Checked Environment
  | .null => .valid []
  | .mapping entries =>
      .valid (Association.ofEntries (entries.map fun (key, value) => (key, value.asText)))
  | _ => .refuse (.broken .environmentNotMapping)

/-- A format, from the entries of a mapping. -/
def formatOfEntries (entries : Payload.Entries) : Checked Format :=
  Format.mk
    <$> required Format.toolCodeNames (name .blankFormatName) entries
    <*> required Format.publicNameNames (name .blankFormatName) entries
    <*> optional Format.extensionNames none optionalText entries
    <*> optional Format.singleFileNames false truth entries
    <*> optional Format.mimeTypeNames none optionalText entries
    <*> optional Format.kindNames .binary contentKind entries
    <*> optional Format.optionsNames [] (listOf verbatim) entries
    <* noFurtherKeys Format.fields entries

/-- A format. -/
def format : Payload → Checked Format
  | .mapping entries => formatOfEntries entries
  | _ => .refuse (.notRecord "FormatDescriptor")

/-- The first name in a list that already stood before it. -/
def firstRepeated? : (seen : List String) → List String → Option String
  | _, [] => none
  | seen, name :: rest =>
      if seen.contains name then some name else firstRepeated? (name :: seen) rest

/-- A configuration whose formats have different public names. -/
def uniquelyNamed (configuration : Configuration) : Checked Configuration :=
  match firstRepeated? [] (configuration.formats.map (·.publicName)) with
  | none => .valid configuration
  | some name => .refuse (.broken (.repeatedPublicName name))

/-- A configuration, from the entries of a mapping, apart from the uniqueness of names. -/
def fieldsOfConfiguration (entries : Payload.Entries) : Checked Configuration :=
  Configuration.mk
    <$> required Configuration.executableNames (name .blankExecutable) entries
    <*> optional Configuration.dataPathNames none optionalText entries
    <*> optional Configuration.environmentNames [] environment entries
    <*> optional Configuration.formatsNames [] (listOf format) entries
    <* noFurtherKeys Configuration.fields entries

/-- A configuration. -/
def configuration : Payload → Checked Configuration
  | .mapping entries =>
      match fieldsOfConfiguration entries with
      | .valid value => uniquelyNamed value
      | .invalid issues => .invalid issues
  | _ => .refuse (.notRecord "ToolConfiguration")

end Schema

end GeoBridge
