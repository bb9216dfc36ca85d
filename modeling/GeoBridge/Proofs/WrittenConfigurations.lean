import GeoBridge.Proofs.ConfigurationEntries
import GeoBridge.Proofs.WrittenDocuments

/-!
Owns the elements that configurations are written as, and what they give when they are read.

Owns:
- the configuration that comes back, text by text;
- the elements of the document, their names and the characters that they hold;
- the entries that those elements give, and the configuration built from them.
-/

namespace GeoBridge

open Xml (Markup)
open Text (throughElement)

/-! ### What comes back -/

/-- The format that comes back for a format that was written. -/
def Format.throughDocument (format : Format) : Format :=
  { format with
    toolCode := throughElement format.toolCode
    publicName := throughElement format.publicName
    extension := format.extension.map throughElement
    mimeType := format.mimeType.map throughElement
    options := format.options.map throughElement }

/-- The configuration that comes back for a configuration that was written. -/
def Configuration.throughDocument (configuration : Configuration) : Configuration :=
  { configuration with
    executable := throughElement configuration.executable
    dataPath := configuration.dataPath.map throughElement
    formats := configuration.formats.map Format.throughDocument }

theorem IsProperName.throughElement {text : String} (proper : IsProperName text) :
    IsProperName (throughElement text) := by
  refine ⟨Text.trim_throughElement text, ?_⟩
  rw [Text.throughElement_isEmpty, ← Text.trim_isEmpty, proper.1, proper.2]

theorem IsBlankNowhere.throughElement {text : Option String} (proper : IsBlankNowhere text) :
    IsBlankNowhere (text.map Text.throughElement) := by
  intro present same
  obtain ⟨written, rfl, rfl⟩ := Option.map_eq_some_iff.mp same
  rw [Text.isBlankText_throughElement]
  exact proper written rfl

theorem Format.IsNormal.throughDocument {format : Format} (normal : format.IsNormal) :
    format.throughDocument.IsNormal := by
  rw [Format.throughDocument]
  exact ⟨normal.toolCode.throughElement, normal.publicName.throughElement,
    normal.extension.throughElement, normal.mimeType.throughElement⟩

/-! ### The elements of the document -/

namespace Xml.Markup

theorem areAllPlain_eq (children : List Markup) : areAllPlain children = children.all isPlain := by
  induction children with
  | nil => rfl
  | cons child rest inductionHypothesis => rw [areAllPlain, inductionHypothesis, List.all_cons]

theorem areAllAllowed_eq (children : List Markup) :
    areAllAllowed children = children.all isAllowed := by
  induction children with
  | nil => rfl
  | cons child rest inductionHypothesis => rw [areAllAllowed, inductionHypothesis, List.all_cons]

theorem resolvedAll_eq (depth : Nat) (children : List Markup) :
    resolvedAll depth children = children.map (resolved depth) := by
  induction children with
  | nil => rfl
  | cons child rest inductionHypothesis => rw [resolvedAll, inductionHypothesis, List.map_cons]

end Xml.Markup

/-- Whether a document may hold all characters of a text. -/
def Xml.holds (text : String) : Bool := text.toList.all Xml.isAllowed

theorem textElement_isPlain {tag : String} (plain : Xml.isPlainName tag = true) (text : String) :
    (textElement tag text).isPlain = true := by
  rw [textElement, Markup.isPlain, plain]
  rfl

theorem textElement_isAllowed (tag text : String) :
    (textElement tag text).isAllowed = Xml.holds text := by
  rw [textElement, Markup.isAllowed, List.all_nil, Bool.true_and, Xml.holds]

theorem optionalElement_isPlain {tag : String} (plain : Xml.isPlainName tag = true)
    (text : Option String) : (optionalElement tag text).all Markup.isPlain = true := by
  cases text with
  | none => rfl
  | some present =>
      rw [optionalElement, Option.map_some, Option.toList_some, List.all_cons,
        textElement_isPlain plain]
      rfl

theorem optionalElement_isAllowed (tag : String) (text : Option String) :
    (optionalElement tag text).all Markup.isAllowed = text.toList.all Xml.holds := by
  cases text with
  | none => rfl
  | some present =>
      rw [optionalElement, Option.map_some, Option.toList_some, List.all_cons,
        textElement_isAllowed, Option.toList_some, List.all_cons]
      rfl

/-- The names of all elements and attributes that configurations are written with. -/
theorem tags_arePlain :
    ["ToolConfiguration", "executable", "dataPath", "environment", "variable", "name", "value",
      "formats", "Format", "toolFormat", "geoserverFormat", "fileExtension", "singleFile",
      "mimeType", "type", "option"].all Xml.isPlainName = true := by
  decide

namespace Format

/-- The texts of a format. -/
def texts (format : Format) : List String :=
  [format.toolCode, format.publicName] ++ format.extension.toList ++ format.mimeType.toList
    ++ format.options

theorem markup_isPlain (format : Format) : format.markup.isPlain = true := by
  have plain := List.all_eq_true.mp tags_arePlain
  have options : (format.options.map (textElement "option")).all Markup.isPlain = true := by
    rw [List.all_map, List.all_eq_true]
    exact fun text _ => textElement_isPlain (plain "option" (by simp)) text
  rw [markup, Markup.isPlain, plain "Format" (by simp), Markup.areAllPlain_eq]
  simp only [List.all_append, List.all_cons, List.all_nil, options,
    textElement_isPlain (plain "toolFormat" (by simp)),
    textElement_isPlain (plain "geoserverFormat" (by simp)),
    optionalElement_isPlain (plain "fileExtension" (by simp)),
    textElement_isPlain (plain "singleFile" (by simp)),
    optionalElement_isPlain (plain "mimeType" (by simp)),
    textElement_isPlain (plain "type" (by simp)), Bool.and_true]

theorem markup_isAllowed (format : Format) :
    format.markup.isAllowed = format.texts.all Xml.holds := by
  have options : (format.options.map (textElement "option")).all Markup.isAllowed =
      format.options.all Xml.holds := by
    rw [List.all_map]
    exact congrArg _ (funext fun text => textElement_isAllowed "option" text)
  have word : Xml.holds (truthWord format.singleFile) = true := by
    cases format.singleFile <;> rfl
  have kind : Xml.holds format.kind.name = true := by
    cases format.kind <;> rfl
  rw [markup, Markup.isAllowed, Markup.areAllAllowed_eq]
  simp only [List.all_append, List.all_cons, List.all_nil, options, textElement_isAllowed,
    optionalElement_isAllowed, word, kind, texts, Bool.and_true]

end Format

namespace Configuration

/-- The texts of a configuration that are written inside elements. -/
def elementTexts (configuration : Configuration) : List String :=
  [configuration.executable] ++ configuration.dataPath.toList
    ++ configuration.formats.flatMap Format.texts

/-- The texts of a configuration that are written as values of attributes. -/
def attributeTexts (configuration : Configuration) : List String :=
  configuration.environment.flatMap fun entry => [entry.1, entry.2]

/-- The element of one variable. -/
def variableElement (entry : String × String) : Markup :=
  .leaf "variable" [("name", entry.1), ("value", entry.2)] ""

theorem environmentMarkup_isPlain (environment : Environment) :
    (environmentMarkup environment).all Markup.isPlain = true := by
  have plain := List.all_eq_true.mp tags_arePlain
  rw [environmentMarkup]
  split
  · rfl
  · have inside : (environment.map variableElement).all Markup.isPlain = true := by
      rw [List.all_map, List.all_eq_true]
      intro entry _
      simp only [Function.comp_apply, variableElement, Markup.isPlain, List.all_cons,
        List.all_nil, plain "variable" (by simp), plain "name" (by simp), plain "value" (by simp)]
      rfl
    rw [List.all_cons, Markup.isPlain, plain "environment" (by simp), Markup.areAllPlain_eq,
      List.all_nil, Bool.and_true, Bool.true_and]
    exact inside

theorem environmentMarkup_isAllowed (environment : Environment) :
    (environmentMarkup environment).all Markup.isAllowed =
      (environment.flatMap fun entry => [entry.1, entry.2]).all Xml.holds := by
  have inside : (environment.map variableElement).all Markup.isAllowed =
      (environment.flatMap fun entry => [entry.1, entry.2]).all Xml.holds := by
    rw [List.all_map, List.all_flatMap]
    refine congrArg _ (funext fun entry => ?_)
    simp only [Function.comp_apply, variableElement, Markup.isAllowed, List.all_cons,
      List.all_nil, Bool.and_true]
    exact Bool.and_true _
  rw [environmentMarkup]
  split
  · next empty =>
      rw [List.isEmpty_iff.mp empty]
      rfl
  · rw [List.all_cons, Markup.isAllowed, Markup.areAllAllowed_eq, List.all_nil, Bool.and_true]
    exact inside

theorem markup_isPlain (configuration : Configuration) :
    configuration.markup.isPlain = true := by
  have plain := List.all_eq_true.mp tags_arePlain
  have formats : (configuration.formats.map Format.markup).all Markup.isPlain = true := by
    rw [List.all_map, List.all_eq_true]
    intro format _
    rw [Function.comp_apply, format.markup_isPlain]
  rw [markup, Markup.isPlain, plain "ToolConfiguration" (by simp), Markup.areAllPlain_eq]
  simp only [List.all_append, List.all_cons, List.all_nil,
    textElement_isPlain (plain "executable" (by simp)),
    optionalElement_isPlain (plain "dataPath" (by simp)), environmentMarkup_isPlain,
    Markup.isPlain, Markup.areAllPlain_eq, plain "formats" (by simp), formats, Bool.and_true]

theorem markup_isAllowed (configuration : Configuration) :
    configuration.markup.isAllowed =
      (configuration.elementTexts ++ configuration.attributeTexts).all Xml.holds := by
  have formats : (configuration.formats.map Format.markup).all Markup.isAllowed =
      (configuration.formats.flatMap Format.texts).all Xml.holds := by
    rw [List.all_map, List.all_flatMap]
    exact congrArg _ (funext Format.markup_isAllowed)
  rw [markup, Markup.isAllowed, Markup.areAllAllowed_eq]
  simp only [List.all_append, List.all_cons, List.all_nil, textElement_isAllowed,
    optionalElement_isAllowed, environmentMarkup_isAllowed, Markup.isAllowed,
    Markup.areAllAllowed_eq, formats, elementTexts, attributeTexts, Bool.and_true]
  rw [Bool.and_assoc, Bool.and_assoc, Bool.and_assoc, Bool.and_assoc,
    Bool.and_comm (List.all (List.flatMap _ configuration.environment) _)]

end Configuration

/-! ### The entries that the document gives -/

/-- The element that is read where an element that holds text is written. -/
def readElement (tag text : String) : Xml.Element :=
  .node tag [] (Xml.WrittenElement.textOf (Text.unifyLineEnds text.toList)) []

namespace Configuration

theorem trimmedText_readElement (tag text : String) :
    trimmedText (readElement tag text) =
      if text.isEmpty then none else some (throughElement text) := by
  rw [trimmedText, readElement, Xml.Element.text, Xml.WrittenElement.textOf]
  by_cases empty : text.isEmpty = true
  · rw [if_pos empty]
    rw [String.isEmpty_iff] at empty
    rw [empty]
    rfl
  · have proper : (Text.unifyLineEnds text.toList).isEmpty = false := by
      rw [Text.unifyLineEnds_isEmpty]
      simpa using empty
    rw [if_neg empty, if_neg (by simp [proper])]
    rfl

theorem textPayload_readElement {text : String} (tag : String) (proper : text.isEmpty = false) :
    textPayload (readElement tag text) = .text (throughElement text) := by
  rw [textPayload, trimmedText_readElement, if_neg (by simp [proper])]

theorem optionText_readElement (tag text : String) :
    (trimmedText (readElement tag text)).getD "" = throughElement text := by
  rw [trimmedText_readElement]
  by_cases empty : text.isEmpty = true
  · rw [if_pos empty]
    rw [String.isEmpty_iff] at empty
    rw [empty]
    decide
  · rw [if_neg empty]
    rfl

theorem optionalElement_resolved (tag : String) (text : Option String) (depth : Nat) :
    (optionalElement tag text).map (Markup.resolved depth) =
      (text.map (readElement tag)).toList := by
  cases text <;> rfl

theorem textPayload_truthWord (value : Bool) :
    textPayload (readElement "singleFile" (truthWord value)) = .text (truthWord value) := by
  have same : throughElement (truthWord value) = truthWord value := by
    cases value <;> rfl
  rw [textPayload_readElement _ (by cases value <;> rfl), same]

theorem textPayload_kind (kind : ContentKind) :
    textPayload (readElement "type" kind.name) = .text kind.name := by
  have same : throughElement kind.name = kind.name := by
    cases kind <;> rfl
  rw [textPayload_readElement _ (by cases kind <;> rfl), same]

/-- The elements of a format that are not options. -/
def namedElements (format : Format) : List Xml.Element :=
  [readElement "toolFormat" format.toolCode, readElement "geoserverFormat" format.publicName]
    ++ (format.extension.map (readElement "fileExtension")).toList
    ++ [readElement "singleFile" (truthWord format.singleFile)]
    ++ (format.mimeType.map (readElement "mimeType")).toList
    ++ [readElement "type" format.kind.name]

theorem children_markup (format : Format) (depth : Nat) :
    (format.markup.resolved depth).children =
      namedElements format ++ format.options.map (readElement "option") := by
  rw [Format.markup, Markup.resolved, Xml.Element.children, Markup.resolvedAll_eq]
  simp only [List.map_append, optionalElement_resolved, List.map_map]
  rfl

theorem filter_namedElements (format : Format) :
    (namedElements format).filter (!givesOptions ·) = namedElements format ∧
      (namedElements format).flatMap optionsOf = [] := by
  obtain ⟨_, _, extension, _, mimeType, _, _⟩ := format
  cases extension <;> cases mimeType <;> exact ⟨rfl, rfl⟩

/-- The entry that an element gives. -/
def entryOf (element : Xml.Element) : String × Payload := (element.tag, textPayload element)

theorem entryOf_optional (tag : String) {text : Option String} (proper : IsBlankNowhere text) :
    (text.map (readElement tag)).toList.map entryOf =
      ((text.map throughElement).map fun found => (tag, Payload.text found)).toList := by
  cases text with
  | none => rfl
  | some present =>
      have written := textPayload_readElement tag (isEmpty_of_notBlank (proper present rfl))
      simp only [Option.map_some, Option.toList_some, List.map_cons, List.map_nil, entryOf, written]
      rfl

/-- What the elements of a format give, apart from its options. -/
theorem entries_namedElements {format : Format} (normal : format.IsNormal) :
    Association.put (Association.ofEntries ((namedElements format).map entryOf)) "options"
        (.list ((format.options.map throughElement).map .text)) =
      format.throughDocument.entries := by
  have given : (namedElements format).map entryOf =
      [("toolFormat", .text (throughElement format.toolCode)),
        ("geoserverFormat", .text (throughElement format.publicName))]
      ++ ((format.extension.map throughElement).map
        fun text => ("fileExtension", Payload.text text)).toList
      ++ [("singleFile", .text (truthWord format.singleFile))]
      ++ ((format.mimeType.map throughElement).map
        fun text => ("mimeType", Payload.text text)).toList
      ++ [("type", .text format.kind.name)] := by
    simp only [namedElements, List.map_append, List.map_cons, List.map_nil,
      entryOf_optional _ normal.extension, entryOf_optional _ normal.mimeType]
    simp only [entryOf, textPayload_readElement _ normal.toolCode.2,
      textPayload_readElement _ normal.publicName.2, textPayload_truthWord, textPayload_kind]
    rfl
  obtain ⟨_, _, extension, _, mimeType, _, _⟩ := format
  rw [given]
  cases extension <;> cases mimeType <;> rfl

theorem formatPayload_markup {format : Format} (normal : format.IsNormal) (depth : Nat) :
    formatPayload (format.markup.resolved depth) = .mapping format.throughDocument.entries := by
  obtain ⟨kept, noOptions⟩ := filter_namedElements format
  have dropped : (format.options.map (readElement "option")).filter (!givesOptions ·) = [] := by
    rw [List.filter_eq_nil_iff]
    intro element member
    obtain ⟨text, -, rfl⟩ := List.mem_map.mp member
    exact Bool.false_ne_true
  have options : (format.options.map (readElement "option")).flatMap optionsOf =
      format.options.map throughElement := by
    have one : ∀ text, optionsOf (readElement "option" text) = [throughElement text] := fun text =>
      congrArg (fun found => [found]) (optionText_readElement "option" text)
    rw [List.flatMap_map, List.map_eq_flatMap]
    simp only [one]
  have entries := entries_namedElements normal
  rw [formatPayload, children_markup, List.filter_append, kept, dropped, List.append_nil,
    List.flatMap_append, noOptions, options, List.nil_append]
  exact congrArg Payload.mapping entries

/-- The variables that elements declare are the ones that were written, unless one has no name. -/
theorem environmentOf_elements (gathered environment : Environment) (depth : Nat) :
    environmentOf gathered (environment.map fun entry => (variableElement entry).resolved depth) =
      if "" ∈ Association.keys environment then .error (.namelessVariable "variable")
      else .ok (Association.putAll gathered environment) := by
  induction environment generalizing gathered with
  | nil => rfl
  | cons entry rest inductionHypothesis =>
      obtain ⟨name, value⟩ := entry
      have element : (variableElement (name, value)).resolved depth =
          .node "variable" [("name", name), ("value", value)] none [] := rfl
      have named : variablePart (.node "variable" [("name", name), ("value", value)] none [])
          "name" = some name := rfl
      have valued : variablePart (.node "variable" [("name", name), ("value", value)] none [])
          "value" = some value := rfl
      rw [List.map_cons, element, environmentOf.eq_def]
      simp only [named, valued]
      by_cases nameless : name = ""
      · subst nameless
        rw [if_pos (by simp [Association.keys])]
        rfl
      · have proper : ("" ∈ Association.keys ((name, value) :: rest)) =
            ("" ∈ Association.keys rest) := by
          simp [Association.keys, Ne.symm nameless]
        simp only [Option.getD_some, inductionHypothesis, proper]
        rfl

theorem formatsOf_markups {formats : List Format} (normal : ∀ format ∈ formats, format.IsNormal)
    (depth : Nat) :
    formatsOf (formats.map fun format => format.markup.resolved depth) =
      .ok (formats.map fun format => .mapping format.throughDocument.entries) := by
  induction formats with
  | nil => rfl
  | cons format rest inductionHypothesis =>
      have tag : (format.markup.resolved depth).tag = "Format" := rfl
      have known : formatTags.contains "Format" = true := rfl
      rw [List.map_cons, formatsOf, tag, if_pos known,
        inductionHypothesis fun other member => normal other (List.mem_cons_of_mem _ member),
        formatPayload_markup (normal format List.mem_cons_self)]
      rfl

section Gather

variable (entries : Association String Payload) (formats : List Payload) (rest : List Xml.Element)

theorem gather_readElement {tag text : String} (proper : text.isEmpty = false)
    (plain : tag ≠ "environment" ∧ tag ≠ "formats") :
    gather entries formats (readElement tag text :: rest) =
      gather (entries.put tag (.text (throughElement text))) formats rest := by
  have other : ((readElement tag text).tag == "environment") = false :=
    beq_eq_false_iff_ne.mpr plain.1
  have further : ((readElement tag text).tag == "formats") = false :=
    beq_eq_false_iff_ne.mpr plain.2
  rw [gather, other, further, textPayload_readElement tag proper]
  rfl

theorem gather_environmentMarkup (environment : Environment) (depth : Nat)
    (distinct : (Association.keys environment).Nodup)
    (absent : "environment" ∉ Association.keys entries) :
    gather entries formats ((environmentMarkup environment).map (Markup.resolved depth) ++ rest) =
      if "" ∈ Association.keys environment then .error (.namelessVariable "variable")
      else
        gather (entries ++ environmentEntries environment) formats rest := by
  rw [environmentEntries]
  by_cases empty : environment.isEmpty = true
  · obtain rfl := List.isEmpty_iff.mp empty
    rw [if_neg (by simp [Association.keys]), if_pos empty, List.append_nil]
    rfl
  · have children : (environmentMarkup environment).map (Markup.resolved depth) =
        [.node "environment" [] (Xml.WrittenElement.textOf (Markup.lineBreak (depth + 1)))
          (environment.map fun entry => (variableElement entry).resolved (depth + 1))] := by
      rw [environmentMarkup, if_neg empty, List.map_singleton, Markup.resolved,
        Markup.resolvedAll_eq, List.map_map, List.isEmpty_map, if_neg empty]
      rfl
    have declared := environmentOf_elements [] environment (depth + 1)
    have kept : Association.putAll [] environment = environment :=
      Association.ofEntries_of_distinct distinct
    rw [children, List.singleton_append, gather, if_neg empty]
    simp only [Xml.Element.tag, Xml.Element.children, beq_self_eq_true, if_true, declared, kept]
    by_cases nameless : "" ∈ Association.keys environment
    · rw [if_pos nameless, if_pos nameless]
    · rw [if_neg nameless, if_neg nameless]
      simp only
      rw [Association.put_of_absent _ absent]

end Gather

theorem gather_optional (entries : Association String Payload) (formats : List Payload)
    {tag : String} {text : Option String} (proper : IsBlankNowhere text)
    (plain : tag ≠ "environment" ∧ tag ≠ "formats") (absent : tag ∉ Association.keys entries)
    (rest : List Xml.Element) :
    gather entries formats ((text.map (readElement tag)).toList ++ rest) =
      gather (entries ++
        ((text.map throughElement).map fun found => (tag, Payload.text found)).toList)
        formats rest := by
  cases text with
  | none =>
      rw [Option.map_none, Option.map_none, Option.map_none, Option.toList_none, Option.toList_none,
        List.append_nil, List.nil_append]
  | some present =>
      rw [Option.map_some, Option.toList_some, List.singleton_append,
        gather_readElement _ _ _ (isEmpty_of_notBlank (proper present rfl)) plain,
        Association.put_of_absent _ absent]
      rfl

theorem gather_formats (entries : Association String Payload)
    {attributes : Association String String} {text : Option String} {children : List Xml.Element}
    {further : List Payload}
    (described : formatsOf children = .ok further) :
    gather entries [] [.node "formats" attributes text children] = .ok (entries, further) := by
  simp [gather, Xml.Element.tag, Xml.Element.children, described]

theorem payloadOf_markup {configuration : Configuration} (normal : configuration.IsNormal) :
    payloadOf (configuration.markup.resolved 0) =
      if "" ∈ Association.keys configuration.environment then
        .error (.namelessVariable "variable")
      else .ok (.mapping configuration.throughDocument.entries) := by
  have tag : (configuration.markup.resolved 0).tag = "ToolConfiguration" := rfl
  have children : (configuration.markup.resolved 0).children =
      readElement "executable" configuration.executable ::
        ((configuration.dataPath.map (readElement "dataPath")).toList ++
          ((environmentMarkup configuration.environment).map (Markup.resolved 1) ++
            [Markup.resolved 1
              (.branch "formats" (configuration.formats.map Format.markup))])) := by
    rw [markup, Markup.resolved, Xml.Element.children, Markup.resolvedAll_eq]
    simp only [List.map_append, optionalElement_resolved, List.append_assoc]
    rfl
  have described : formatsOf ((configuration.formats.map Format.markup).map (Markup.resolved 2)) =
      .ok (configuration.formats.map fun format => .mapping format.throughDocument.entries) := by
    rw [List.map_map]
    exact formatsOf_markups normal.formats 2
  have known : rootTags.contains "ToolConfiguration" = true := rfl
  rw [payloadOf, tag, if_pos known, children,
    gather_readElement _ _ _ normal.executable.2 (by decide),
    gather_optional _ _ normal.dataPath (by decide) (by simp [Association.put, Association.keys]),
    gather_environmentMarkup _ _ _ _ _ normal.distinct ?absent]
  case absent =>
    cases configuration.dataPath <;> simp [Association.put, Association.keys]
  by_cases nameless : "" ∈ Association.keys configuration.environment
  · rw [if_pos nameless, if_pos nameless]
    rfl
  · rw [if_neg nameless, if_neg nameless, Markup.resolved, Markup.resolvedAll_eq,
      gather_formats _ described, Except.map]
    simp only
    rw [Association.put_of_absent _ ?absent]
    case absent =>
      cases configuration.dataPath <;> cases configuration.environment <;>
        simp [Association.put, Association.keys, environmentEntries]
    simp only [entries, throughDocument, List.map_map, Association.put, Function.comp_def]

/-- What comes back for the element of a configuration: nothing where a variable has no name, else
the configuration text by text, unless its public names are no longer unique. -/
theorem ofElement_markup {configuration : Configuration} (normal : configuration.IsNormal) :
    ofElement (configuration.markup.resolved 0) =
      if "" ∈ Association.keys configuration.environment then
        .error (.namelessVariable "variable")
      else
        match Schema.uniquelyNamed configuration.throughDocument with
        | .valid accepted => .ok accepted
        | .invalid issues => .error (.invalid issues) := by
  have formats : ∀ format ∈ configuration.throughDocument.formats, format.IsNormal := by
    intro format member
    obtain ⟨written, there, rfl⟩ := List.mem_map.mp member
    exact (normal.formats written there).throughDocument
  have built : Schema.configuration (.mapping configuration.throughDocument.entries) =
      Schema.uniquelyNamed configuration.throughDocument := by
    rw [throughDocument] at formats ⊢
    exact configuration_entries normal.executable.throughElement normal.dataPath.throughElement
      normal.distinct formats
  rw [ofElement, payloadOf_markup normal]
  by_cases nameless : "" ∈ Association.keys configuration.environment
  · rw [if_pos nameless, if_pos nameless]
  · rw [if_neg nameless, if_neg nameless]
    simp only
    cases unique : Schema.uniquelyNamed configuration.throughDocument <;> rw [built, unique]

end Configuration

end GeoBridge
