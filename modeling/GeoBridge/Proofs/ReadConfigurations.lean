import GeoBridge.Proofs.AllowedCharacters
import GeoBridge.Proofs.ConfigurationRoundTrip
import GeoBridge.Proofs.DescribedConfigurations

/-!
Owns the configurations that come out of documents.

Owns:
- the texts that elements tell: trimmed, and without characters that no document could hold;
- the normal form of every configuration that is read;
- the way of such a configuration through its own document, which only a carriage return can bar.

A carriage return comes out of a document that refers to it by number. It is written as it stands
into elements, where it is read as a line feed, but by number into attributes.
-/

namespace GeoBridge

open Xml (AreAllowed)
open GeoBridge.Configuration (trimmedText textPayload optionText variablePart bindingOf bindingsOf)

/-! ### What elements tell -/

/-- Text as the elements of documents tell it. -/
structure IsTold (text : String) : Prop where
  trimmed : Text.trim text = text
  allowed : AreAllowed text.toList

theorem isTold_empty : IsTold "" where
  trimmed := by simp [Text.trim, Text.trimWhere]
  allowed := fun _ member => absurd member (by simp)

namespace Xml.Element.IsAllowed

variable {element : Element}

theorem text_ (allowed : element.IsAllowed) :
    ∀ present ∈ element.text, AreAllowed present.toList := by
  cases allowed with
  | node _ text _ => exact text

theorem attributes_ (allowed : element.IsAllowed) :
    ∀ entry ∈ element.attributes, AreAllowed entry.2.toList := by
  cases allowed with
  | node attributes _ _ => exact attributes

theorem children_ (allowed : element.IsAllowed) : ∀ child ∈ element.children, child.IsAllowed := by
  cases allowed with
  | node _ _ children => exact children

theorem isTold (allowed : element.IsAllowed) {text : String}
    (told : trimmedText element = some text) : IsTold text := by
  obtain ⟨written, there, rfl⟩ := Option.map_eq_some_iff.mp told
  refine ⟨Text.trim_trim written, fun character member => ?_⟩
  rw [Text.trim, String.toList_ofList] at member
  exact allowed.text_ written there character ((Text.trimWhere_sublist _ _).subset member)

theorem isTold_optionText (allowed : element.IsAllowed) : IsTold (optionText element) := by
  unfold optionText
  cases told : trimmedText element with
  | none => exact isTold_empty
  | some text => exact allowed.isTold told

theorem childrenUnder (allowed : element.IsAllowed) {tags : List String} :
    ∀ child ∈ element.childrenUnder tags, child.IsAllowed :=
  fun child member => allowed.children_ child (List.mem_filter.mp member).1

theorem formatElements (allowed : element.IsAllowed) :
    ∀ child ∈ element.formatElements, child.IsAllowed := by
  intro child member
  obtain ⟨list, listed, inside⟩ := List.mem_flatMap.mp member
  exact (allowed.childrenUnder list listed).children_ child inside

theorem optionElements (allowed : element.IsAllowed) :
    ∀ option ∈ element.optionElements, option.IsAllowed := by
  intro option member
  obtain ⟨child, there, inside⟩ := List.mem_flatMap.mp member
  have childAllowed := allowed.children_ child there
  split at inside
  · rwa [List.mem_singleton.mp inside]
  · split at inside
    · exact childAllowed.childrenUnder option inside
    · cases inside

theorem areAllowed_variablePart (allowed : element.IsAllowed) {name text : String}
    (told : variablePart element name = some text) : AreAllowed text.toList := by
  unfold variablePart at told
  split at told
  · next found =>
      cases told
      exact allowed.attributes_ _ (Association.mem_of_find? found)
  · obtain ⟨child, found, text⟩ := Option.bind_eq_some_iff.mp told
    exact ((allowed.children_ child (List.mem_of_find?_eq_some found)).isTold text).allowed

theorem areAllowed_bindingsOf (allowed : element.IsAllowed) :
    ∀ binding ∈ bindingsOf element, AreAllowed binding.1.toList ∧ AreAllowed binding.2.toList := by
  have part (entry : Element) (entryAllowed : entry.IsAllowed) (name : String) :
      AreAllowed ((variablePart entry name).getD "").toList := by
    cases told : variablePart entry name with
    | none => exact isTold_empty.allowed
    | some text => exact entryAllowed.areAllowed_variablePart told
  intro binding member
  obtain ⟨entry, there, rfl⟩ := List.mem_map.mp member
  have entryAllowed := allowed.children_ entry there
  exact ⟨part entry entryAllowed "name", part entry entryAllowed "value"⟩

end Xml.Element.IsAllowed

section Fields

variable {element : Xml.Element} {names : FieldNames}

theorem trimmedText_of_textPayload {text : String} (same : textPayload element = .text text) :
    trimmedText element = some text := by
  unfold textPayload at same
  split at same
  · next told =>
      cases same
      exact told
  · cases same

theorem isTold_of_states (allowed : element.IsAllowed) {text : String}
    (states : element.States names Payload.ReadsAsName text) : IsTold text := by
  obtain ⟨child, last, reads⟩ := states
  obtain ⟨written, same, -, rfl⟩ := Payload.readsAsName_iff.mp reads
  have childAllowed := allowed.childrenUnder child (List.mem_of_getLast? last)
  have told := childAllowed.isTold (trimmedText_of_textPayload same)
  rwa [told.trimmed]

theorem isTold_of_mayState (allowed : element.IsAllowed) {text : Option String}
    (states : element.MayState names Payload.ReadsAsOptionalText none text) :
    ∀ present ∈ text, IsTold present := by
  rintro present ⟨⟩
  rcases states with ⟨child, last, reads⟩ | ⟨-, none_⟩
  · have childAllowed := allowed.childrenUnder child (List.mem_of_getLast? last)
    cases given : textPayload child with
    | text written =>
        rw [given] at reads
        cases reads with
        | text _ => exact childAllowed.isTold (trimmedText_of_textPayload given)
    | null | truth | integer | real | list | mapping =>
        rw [given] at reads
        cases reads
  · cases none_

end Fields

/-! ### The normal form of what is read -/

/-- A format as documents give it: all texts are trimmed, and no text is empty but for options. -/
structure Format.IsSettled (format : Format) : Prop where
  toolCode : IsProperName format.toolCode
  publicName : IsProperName format.publicName
  extension : ∀ text ∈ format.extension, IsProperName text
  mimeType : ∀ text ∈ format.mimeType, IsProperName text
  options : ∀ option ∈ format.options, Text.trim option = option

/-- A configuration as documents give it. -/
structure Configuration.IsSettled (configuration : Configuration) : Prop where
  executable : IsProperName configuration.executable
  dataPath : ∀ text ∈ configuration.dataPath, IsProperName text
  environment : ∀ name ∈ Association.keys configuration.environment, name ≠ ""
  formats : ∀ format ∈ configuration.formats, format.IsSettled
  distinct : HaveDistinctNames configuration.formats

theorem isProperName_of_told {text : Option String} (proper : IsBlankNowhere text)
    (told : ∀ present ∈ text, IsTold present) : ∀ present ∈ text, IsProperName present :=
  fun present there => ⟨(told present there).trimmed, isEmpty_of_notBlank (proper present there)⟩

theorem Format.isTold_texts {element : Xml.Element} {format : Format} (allowed : element.IsAllowed)
    (described : element.DescribesFormat format) : ∀ text ∈ format.texts, IsTold text := by
  simp only [texts, List.mem_append, List.mem_cons, List.not_mem_nil, or_false, Option.mem_toList]
  rintro text ((((rfl | rfl) | extension) | mimeType) | option)
  · exact isTold_of_states allowed described.toolCode
  · exact isTold_of_states allowed described.publicName
  · exact isTold_of_mayState allowed described.extension text extension
  · exact isTold_of_mayState allowed described.mimeType text mimeType
  · rw [described.options] at option
    obtain ⟨element, there, rfl⟩ := List.mem_map.mp option
    exact (allowed.optionElements element there).isTold_optionText

/-- Whatever is matched with something is matched with an item of the other list. -/
theorem exists_of_forall₂ {α β : Type} {related : α → β → Prop} {items : List α} {others : List β}
    {other : β} (each : List.Forall₂ related items others) (member : other ∈ others) :
    ∃ item ∈ items, related item other := by
  induction each with
  | nil => cases member
  | cons first _ inductionHypothesis =>
      rcases List.mem_cons.mp member with rfl | later
      · exact ⟨_, List.mem_cons_self, first⟩
      · obtain ⟨item, there, same⟩ := inductionHypothesis later
        exact ⟨item, List.mem_cons_of_mem _ there, same⟩

namespace Configuration

section Described

variable {root : Xml.Element} {configuration : Configuration}

theorem isTold_elementTexts (allowed : root.IsAllowed)
    (described : root.DescribesConfiguration configuration) :
    ∀ text ∈ configuration.elementTexts, IsTold text := by
  simp only [elementTexts, List.mem_append, List.mem_cons, List.not_mem_nil, or_false,
    Option.mem_toList, List.mem_flatMap]
  rintro text ((rfl | path) | ⟨format, there, inside⟩)
  · exact isTold_of_states allowed described.executable
  · exact isTold_of_mayState allowed described.dataPath text path
  · obtain ⟨element, member, formatDescribed⟩ := exists_of_forall₂ described.formats there
    exact Format.isTold_texts (allowed.formatElements element member) formatDescribed text inside

/-- The variables of a configuration are bindings of its last environment. -/
theorem exists_environment (described : root.DescribesConfiguration configuration)
    {entry : String × String} (member : entry ∈ configuration.environment) :
    ∃ element ∈ root.childrenUnder ["environment"], entry ∈ bindingsOf element := by
  rw [described.environment, Xml.Element.lastBindings] at member
  have given := (Association.mem_putAll member).resolve_left List.not_mem_nil
  cases last : (root.childrenUnder ["environment"]).getLast? with
  | none =>
      rw [last] at given
      cases given
  | some element =>
      rw [last] at given
      exact ⟨element, List.mem_of_getLast? last, given⟩

theorem areAllowed_attributeTexts (allowed : root.IsAllowed)
    (described : root.DescribesConfiguration configuration) :
    ∀ text ∈ configuration.attributeTexts, AreAllowed text.toList := by
  intro text member
  obtain ⟨entry, there, inside⟩ := List.mem_flatMap.mp member
  obtain ⟨element, under, bound⟩ := exists_environment described there
  obtain ⟨name, value⟩ := (allowed.childrenUnder element under).areAllowed_bindingsOf entry bound
  simp only [List.mem_cons, List.not_mem_nil, or_false] at inside
  rcases inside with rfl | rfl
  · exact name
  · exact value

theorem names_of_described (expected : root.IsExpected)
    (described : root.DescribesConfiguration configuration) :
    ∀ name ∈ Association.keys configuration.environment, name ≠ "" := by
  intro name member
  obtain ⟨entry, there, rfl⟩ := List.mem_map.mp member
  obtain ⟨element, under, bound⟩ := exists_environment described there
  obtain ⟨child, childMember, rfl⟩ := List.mem_map.mp bound
  exact expected.environments element under child childMember

theorem isSettled_of_described (normal : configuration.IsNormal)
    (distinct : HaveDistinctNames configuration.formats) (allowed : root.IsAllowed)
    (expected : root.IsExpected) (described : root.DescribesConfiguration configuration) :
    configuration.IsSettled where
  executable := normal.executable
  dataPath := isProperName_of_told normal.dataPath (isTold_of_mayState allowed described.dataPath)
  environment := names_of_described expected described
  distinct := distinct
  formats := by
    intro format member
    obtain ⟨element, there, formatDescribed⟩ := exists_of_forall₂ described.formats member
    have elementAllowed := allowed.formatElements element there
    have formatNormal := normal.formats format member
    constructor
    · exact formatNormal.toolCode
    · exact formatNormal.publicName
    · exact isProperName_of_told formatNormal.extension
        (isTold_of_mayState elementAllowed formatDescribed.extension)
    · exact isProperName_of_told formatNormal.mimeType
        (isTold_of_mayState elementAllowed formatDescribed.mimeType)
    · intro option given
      have told := Format.isTold_texts elementAllowed formatDescribed
      exact (told option (List.mem_append_right _ given)).trimmed

theorem isWritable_of_described (normal : configuration.IsNormal) (allowed : root.IsAllowed)
    (expected : root.IsExpected) (described : root.DescribesConfiguration configuration)
    (withoutReturns : ∀ text ∈ configuration.elementTexts, '\r' ∉ text.toList) :
    configuration.IsWritable := by
  have told := isTold_elementTexts allowed described
  constructor
  -- No character was made up on the way: each is one of some text or attribute of the document.
  · intro text member character inside
    rw [← Xml.isAllowed_iff]
    rcases List.mem_append.mp member with inElement | inAttribute
    · exact (told text inElement).allowed character inside
    · exact areAllowed_attributeTexts allowed described text inAttribute character inside
  · exact withoutReturns
  · exact (trimmed_elementTexts_iff normal).mp fun text member => (told text member).trimmed
  · exact fun nameless => names_of_described expected described "" nameless rfl

end Described

/-- Whatever is accepted comes from an outermost element that describes it. -/
theorem exists_described {document : Xml.Document} {accepted : Configuration}
    (found : read document = .ok accepted) :
    ∃ root, document.read = .ok root ∧ root.IsExpected ∧ root.DescribesConfiguration accepted := by
  cases opened : document.read with
  | error fault =>
      unfold read at found
      rw [opened] at found
      cases fault <;> cases found
  | ok root => exact ⟨root, rfl, describes_of_ofElement ((read_eq_ok opened).mp found)⟩

/-- Every configuration that is read from a document is in normal form, follows the elements of the
document one for one, and comes back from its own document, given as text or as octets in UTF-8,
unless an element would have to hold a carriage return. -/
theorem read_isSettled {document : Xml.Document} {accepted : Configuration}
    (found : read document = .ok accepted) :
    accepted.IsSettled ∧
    (∃ root, document.read = .ok root ∧ root.DescribesConfiguration accepted) ∧
    ((∀ text ∈ accepted.elementTexts, '\r' ∉ text.toList) →
      read (.text accepted.write) = .ok accepted ∧
      read (.octets (Text.Utf8.encode accepted.write)) = .ok accepted) := by
  obtain ⟨root, opened, expected, described⟩ := exists_described found
  -- The schema vouches for the normal form, the document for the characters and the trimming.
  obtain ⟨payload, -, reads⟩ := ofElement_eq_ok.mp ((read_eq_ok opened).mp found)
  have valid := Schema.configuration_eq_valid.mpr reads
  have normal := Schema.isNormal_of_configuration valid
  have allowed := Xml.Document.isAllowed_of_read opened
  have distinct := (Schema.uniquelyNamed_eq_valid.mp normal.unique).2
  refine ⟨isSettled_of_described normal distinct allowed expected described,
    ⟨root, opened, described⟩, fun withoutReturns => ?_⟩
  have writable := isWritable_of_described normal allowed expected described withoutReturns
  exact ⟨(read_write valid (.inl rfl)).1.mpr writable, (read_write valid (.inr rfl)).1.mpr writable⟩

/-! ### A document with the same things said in several ways -/

/-- A configuration whose variables are attributes or elements and whose options are wrapped or not.
Its executable and one of its variables come twice, and texts have spaces around them or are written
with references. -/
def mixedMarkup : Xml.Markup :=
  .branch "OgrConfiguration"
    [.leaf "ogr2ogrLocation" [] "first",
      .branch "environment"
        [.leaf "variable" [("name", "A"), ("value", "1\t2")] "",
          .branch "entry" [.leaf "name" [] " B ", .leaf "value" [] "\n3"],
          .leaf "variable" [("name", "A"), ("value", "<\r>")] ""],
      .branch "formats" [.branch "OgrFormat"
        [.leaf "ogrFormat" [] "Q&A", .leaf "option" [] " -a ", .leaf "formatName" [] "OGR-Q",
          .branch "options" [.leaf "option" [] "b", .leaf "option" [] ""]]],
      .leaf "ogr2ogrLocation" [] " ogr2ogr\n"]

/-- What the document describes. -/
def mixedConfiguration : Configuration where
  executable := "ogr2ogr"
  environment := [("A", "<\r>"), ("B", "3")]
  formats := [{ toolCode := "Q&A", publicName := "OGR-Q", options := ["-a", "b", ""] }]

/-- The document is accepted, and what is read comes back. -/
theorem read_mixedMarkup :
    read mixedMarkup.asDocument = .ok mixedConfiguration ∧ mixedConfiguration.IsSettled ∧
      (∀ text ∈ mixedConfiguration.elementTexts, '\r' ∉ text.toList) ∧
      read (.text mixedConfiguration.write) = .ok mixedConfiguration := by
  have opened : mixedMarkup.asDocument.read = .ok (mixedMarkup.resolved 0) :=
    Xml.Markup.read_asDocument (by decide +kernel) rfl (by decide +kernel)
  have found : read mixedMarkup.asDocument = .ok mixedConfiguration :=
    (read_eq_ok opened).mpr (by decide +kernel)
  have withoutReturns : ∀ text ∈ mixedConfiguration.elementTexts, '\r' ∉ text.toList := by
    decide +kernel
  have ⟨settled, _, comesBack⟩ := read_isSettled found
  exact ⟨found, settled, withoutReturns, (comesBack withoutReturns).1⟩

end Configuration

end GeoBridge
