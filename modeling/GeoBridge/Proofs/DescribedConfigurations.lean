import GeoBridge.Proofs.ConfigurationDialects

/-!
Owns what the elements of a document say about the configuration that is read from it.

Owns:
- the entries that environments, formats and the outermost element are gathered into;
- the description of formats and configurations by elements, which whatever is read follows.
-/

namespace GeoBridge

open Validation

theorem Payload.Entries.lookup_eq_find? (entries : Entries) (key : String) :
    entries.lookup key = Association.find? entries key := by
  induction entries with
  | nil => rfl
  | cons entry rest inductionHypothesis =>
      obtain ⟨first, value⟩ := entry
      rw [Association.find?]
      by_cases same : first = key
      · rw [same, List.lookup_cons_self, if_pos rfl]
      · rw [lookup_cons_of_ne (Ne.symm same), if_neg same, inductionHypothesis]

/-! ### Elements -/

namespace Xml.Element

/-- The children under one of some tags. -/
def childrenUnder (element : Element) (tags : List String) : List Element :=
  element.children.filter (·.tag ∈ tags)

/-- The elements inside the lists of formats. -/
def formatElements (root : Element) : List Element :=
  (root.childrenUnder ["formats"]).flatMap children

/-- The elements that give the options of a format, wrapped ones among them. -/
def optionElements (element : Element) : List Element :=
  element.children.flatMap fun child =>
    if child.tag = "option" then [child]
    else if child.tag = "options" then child.childrenUnder ["option"] else []

end Xml.Element

namespace Configuration

/-- The variable that an entry of an environment declares, and its value. -/
def bindingOf (entry : Xml.Element) : String × String :=
  ((variablePart entry "name").getD "", (variablePart entry "value").getD "")

/-- The variables that an environment declares, in document order. -/
def bindingsOf (element : Xml.Element) : List (String × String) := element.children.map bindingOf

/-- The text of an element, which is empty where there is none. -/
def optionText (element : Xml.Element) : String := (trimmedText element).getD ""

/-- Every entry of an environment has a name. -/
def AreNamed (entries : List Xml.Element) : Prop := ∀ entry ∈ entries, (bindingOf entry).1 ≠ ""

/-- Every element describes a format, going by its tag. -/
def AreFormats (elements : List Xml.Element) : Prop :=
  ∀ element ∈ elements, element.tag ∈ formatTags

theorem areNamed_cons {entry : Xml.Element} {rest : List Xml.Element} :
    AreNamed (entry :: rest) ↔ (bindingOf entry).1 ≠ "" ∧ AreNamed rest :=
  List.forall_mem_cons

theorem areFormats_cons {element : Xml.Element} {rest : List Xml.Element} :
    AreFormats (element :: rest) ↔ element.tag ∈ formatTags ∧ AreFormats rest :=
  List.forall_mem_cons

/-- The entries of an environment are gathered if each of them has a name. -/
theorem environmentOf_eq_ok {entries : List Xml.Element} {gathered environment : Environment} :
    environmentOf gathered entries = .ok environment ↔
      AreNamed entries ∧ environment = gathered.putAll (entries.map bindingOf) := by
  induction entries generalizing gathered with
  | nil =>
      constructor
      · rintro ⟨⟩
        exact ⟨List.forall_mem_nil _, rfl⟩
      · rintro ⟨-, rfl⟩
        rfl
  | cons entry rest inductionHypothesis =>
      rw [environmentOf, areNamed_cons, List.map_cons]
      cases named : variablePart entry "name" with
      | none => simp [bindingOf, named]
      | some name =>
          have first : (bindingOf entry).1 = name := by simp [bindingOf, named]
          by_cases empty : name = ""
          · simp [first, empty]
          · have put_ :
                environmentOf (gathered.put name ((variablePart entry "value").getD "")) rest =
                    .ok environment ↔
                  AreNamed rest ∧
                    environment = gathered.putAll (bindingOf entry :: rest.map bindingOf) := by
              rw [inductionHypothesis, ← first]
              rfl
            rw [first]
            simpa [empty] using put_

theorem formatsOf_eq_ok {elements : List Xml.Element} {formats : List Payload} :
    formatsOf elements = .ok formats ↔
      AreFormats elements ∧ formats = elements.map formatPayload := by
  induction elements generalizing formats with
  | nil =>
      constructor
      · rintro ⟨⟩
        exact ⟨List.forall_mem_nil _, rfl⟩
      · rintro ⟨-, rfl⟩
        rfl
  | cons element rest inductionHypothesis =>
      rw [formatsOf, areFormats_cons]
      by_cases known : element.tag ∈ formatTags
      · rw [if_pos (List.contains_iff_mem.mpr known), and_iff_right known]
        constructor
        · intro found
          cases others : formatsOf rest with
          | error rejection =>
              rw [others] at found
              cases found
          | ok further =>
              rw [others] at found
              cases found
              obtain ⟨restKnown, rfl⟩ := inductionHypothesis.mp others
              exact ⟨restKnown, rfl⟩
        · rintro ⟨restKnown, rfl⟩
          rw [inductionHypothesis.mpr ⟨restKnown, rfl⟩]
          rfl
      · rw [if_neg (mt List.contains_iff_mem.mp known)]
        simp [known]

/-- A child of the outermost element that is not refused for what is inside it. -/
structure IsInOrder (child : Xml.Element) : Prop where
  environment : child.tag = "environment" → AreNamed child.children
  formats : child.tag = "formats" → AreFormats child.children

/-- The entry that a child of the outermost element is gathered into, unless it lists formats. -/
def gatheredEntry (child : Xml.Element) : String × Payload :=
  (child.tag, if child.tag = "environment" then
    environmentPayload (Association.ofEntries (bindingsOf child)) else textPayload child)

/-- The children that list no formats, as entries. -/
def gatheredEntries (children : List Xml.Element) : Payload.Entries :=
  (children.filter (·.tag ≠ "formats")).map gatheredEntry

/-- The children that list formats, as the formats in document order. -/
def formatPayloadsOf (children : List Xml.Element) : List Payload :=
  ((children.filter (·.tag ∈ ["formats"])).flatMap (·.children)).map formatPayload

/-- What is gathered are the entries, one after the other, and the formats in document order. -/
theorem gather_eq_ok {children : List Xml.Element} {entries gathered : Payload.Entries}
    {items formats : List Payload} :
    gather entries items children = .ok (gathered, formats) ↔
      (∀ child ∈ children, IsInOrder child) ∧
        gathered = Association.putAll entries (gatheredEntries children) ∧
        formats = items ++ formatPayloadsOf children := by
  induction children generalizing entries items with
  | nil =>
      constructor
      · rintro ⟨⟩
        exact ⟨List.forall_mem_nil _, rfl, (List.append_nil _).symm⟩
      · rintro ⟨-, rfl, rfl⟩
        rw [formatPayloadsOf, List.filter_nil, List.flatMap_nil, List.map_nil, List.append_nil]
        rfl
  | cons child rest inductionHypothesis =>
      rw [List.forall_mem_cons]
      by_cases isEnvironment : child.tag = "environment"
      · have noFormats : child.tag ≠ "formats" := by
          rw [isEnvironment]
          decide
        have inOrder : IsInOrder child ↔ AreNamed child.children :=
          ⟨fun both => both.environment isEnvironment,
            fun named => ⟨fun _ => named, fun formats => absurd formats noFormats⟩⟩
        rw [gather_environment isEnvironment, inOrder]
        cases declared : environmentOf [] child.children with
        | error rejection =>
            have nameless : ¬AreNamed child.children := by
              intro named
              rw [environmentOf_eq_ok.mpr ⟨named, rfl⟩] at declared
              cases declared
            simp [nameless]
        | ok environment =>
            obtain ⟨named, rfl⟩ := environmentOf_eq_ok.mp declared
            rw [and_iff_right named]
            simp only [inductionHypothesis]
            simp [gatheredEntries, formatPayloadsOf, Association.putAll, gatheredEntry, bindingsOf,
              Association.ofEntries, isEnvironment]
      · by_cases isFormats : child.tag = "formats"
        · have inOrder : IsInOrder child ↔ AreFormats child.children :=
            ⟨fun both => both.formats isFormats,
              fun known => ⟨fun environment => absurd environment isEnvironment, fun _ => known⟩⟩
          rw [gather_formatList isFormats, inOrder]
          cases described : formatsOf child.children with
          | error rejection =>
              have unknown : ¬AreFormats child.children := by
                intro known
                rw [formatsOf_eq_ok.mpr ⟨known, rfl⟩] at described
                cases described
              simp [unknown]
          | ok further =>
              obtain ⟨known, rfl⟩ := formatsOf_eq_ok.mp described
              rw [and_iff_right known]
              simp only [inductionHypothesis]
              simp [isFormats, gatheredEntries, formatPayloadsOf]
        · have inOrder : IsInOrder child :=
            ⟨fun environment => absurd environment isEnvironment,
              fun formats => absurd formats isFormats⟩
          rw [gather_field isEnvironment isFormats, inductionHypothesis, and_iff_right inOrder]
          simp [isEnvironment, isFormats, gatheredEntries, formatPayloadsOf, Association.putAll,
            gatheredEntry]

theorem formatPayload_eq (element : Xml.Element) :
    formatPayload element = .mapping (Association.put
      (Association.ofEntries
        (element.fieldElements.map fun child => (child.tag, textPayload child)))
      "options" (.list ((element.optionElements.map optionText).map .text))) := by
  have options : element.children.flatMap optionsOf = element.optionElements.map optionText := by
    rw [Xml.Element.optionElements, List.map_flatMap]
    refine List.flatMap_congr fun child _ => ?_
    unfold optionsOf
    by_cases bare : child.tag = "option"
    · simp [bare, optionText]
    · by_cases wraps : child.tag = "options"
      · have sameItems : child.children.filter (·.tag == "option") =
            child.childrenUnder ["option"] := by
          simp [Xml.Element.childrenUnder, beq_eq_decide]
        rw [if_neg (by simpa using bare), if_pos (by simpa using wraps), if_neg bare, if_pos wraps,
          sameItems]
        rfl
      · simp [bare, wraps]
  rw [← options]
  rfl

end Configuration

/-! ### Descriptions -/

open GeoBridge.Configuration (textPayload bindingsOf optionText AreNamed AreFormats)

namespace Xml.Element

variable {α : Type}

/-- A field is read from the last child under one of its names. -/
def States (element : Element) (names : FieldNames) (reads : Payload → α → Prop) (value : α) :
    Prop :=
  ∃ child, (element.childrenUnder names).getLast? = some child ∧ reads (textPayload child) value

/-- A field is read where a child has one of its names, and has its default where none has. -/
def MayState (element : Element) (names : FieldNames) (reads : Payload → α → Prop)
    (absent value : α) : Prop :=
  element.States names reads value ∨ element.childrenUnder names = [] ∧ value = absent

/-- An element describes a format: its fields by their last elements, and its options by all. -/
structure DescribesFormat (element : Element) (format : Format) : Prop where
  toolCode : element.States Format.toolCodeNames Payload.ReadsAsName format.toolCode
  publicName : element.States Format.publicNameNames Payload.ReadsAsName format.publicName
  extension : element.MayState Format.extensionNames Payload.ReadsAsOptionalText none
    format.extension
  singleFile : element.MayState Format.singleFileNames Payload.ReadsAsTruth false format.singleFile
  mimeType : element.MayState Format.mimeTypeNames Payload.ReadsAsOptionalText none format.mimeType
  kind : element.MayState Format.kindNames Payload.ReadsAsKind .binary format.kind
  options : format.options = element.optionElements.map optionText

/-- The variables that the last environment declares, none where there is no environment. -/
def lastBindings (root : Element) : List (String × String) :=
  ((root.childrenUnder ["environment"]).getLast?.map bindingsOf).getD []

/-- An outermost element describes a configuration: its fields and its environment by their last
elements, and its formats by all, one for one in document order. -/
structure DescribesConfiguration (root : Element) (configuration : Configuration) : Prop where
  executable : root.States Configuration.executableNames Payload.ReadsAsName
    configuration.executable
  dataPath : root.MayState Configuration.dataPathNames Payload.ReadsAsOptionalText none
    configuration.dataPath
  environment : configuration.environment = Association.ofEntries root.lastBindings
  formats : List.Forall₂ DescribesFormat root.formatElements configuration.formats

/-- An outermost element holds nothing but what has a place there. -/
structure IsExpected (root : Element) : Prop where
  fields : ∀ child ∈ root.children, ∃ names ∈ Configuration.fields, child.tag ∈ names
  environments : ∀ element ∈ root.childrenUnder ["environment"], AreNamed element.children
  formats : AreFormats root.formatElements
  formatFields : ∀ element ∈ root.formatElements, ∀ child ∈ element.children,
    child.tag = "option" ∨ ∃ names ∈ Format.fields, child.tag ∈ names

end Xml.Element

namespace Payload.Entries

section Children

variable {children : List Xml.Element} {keep : Xml.Element → Bool}
  {value : Xml.Element → Payload} {names : FieldNames} {given : Payload}

/-- A field that is given once among children is given by the last child under one of its names. -/
theorem gives_children_iff (kept : ∀ child ∈ children, child.tag ∈ names → keep child = true)
    (once : GivesOnce (Association.ofEntries
      ((children.filter keep).map fun child => (child.tag, value child))) names) :
    Gives (Association.ofEntries ((children.filter keep).map fun child => (child.tag, value child)))
        names given ↔
      ∃ child, (children.filter (·.tag ∈ names)).getLast? = some child ∧ value child = given := by
  let entries : Entries := Association.ofEntries
    ((children.filter keep).map fun child => (child.tag, value child))
  have lookup (name : String) : entries.lookup name =
      (((children.filter keep).filter (·.tag = name)).getLast?).map value := by
    rw [lookup_eq_find?, Association.find?_ofEntries,
      Association.find?_reverse_map _ Xml.Element.tag value]
  have has {child : Xml.Element} (member : child ∈ children) (named : child.tag ∈ names) :
      entries.Has child.tag := by
    refine Association.mem_keys_ofEntries.mpr ?_
    rw [Association.keys, List.map_map]
    exact List.mem_map.mpr ⟨child, List.mem_filter.mpr ⟨member, kept child member named⟩, rfl⟩
  -- All children under the names of the field have the one name that is given.
  have narrow {name : String} (named : name ∈ names) (there : entries.Has name) :
      (children.filter keep).filter (·.tag = name) = children.filter (·.tag ∈ names) := by
    rw [List.filter_filter]
    refine List.filter_congr fun child member => ?_
    rw [Bool.eq_iff_iff, Bool.and_eq_true, decide_eq_true_iff, decide_eq_true_iff]
    constructor
    · rintro ⟨rfl, -⟩
      exact named
    · intro among
      exact ⟨once child.tag among name named (has member among) there, kept child member among⟩
  constructor
  · rintro ⟨name, named, found⟩
    have there : entries.Has name := has_iff.mpr ⟨given, found⟩
    have last : entries.lookup name = some given := found
    rw [lookup, narrow named there] at last
    exact Option.map_eq_some_iff.mp last
  · rintro ⟨child, last, rfl⟩
    obtain ⟨member, named⟩ := List.mem_filter.mp (List.mem_of_getLast? last)
    have named : child.tag ∈ names := decide_eq_true_iff.mp named
    refine ⟨child.tag, named, ?_⟩
    change entries.lookup child.tag = _
    rw [lookup, narrow named (has member named), last]
    rfl

end Children

section Fields

variable {α : Type} {element : Xml.Element} {keep : Xml.Element → Bool}
  {value : Xml.Element → Payload} {names : FieldNames} {fields : List FieldNames}
  {key : String} {extra : Payload} {reads : Payload → α → Prop} {absent result : α}

/-- The entries of the children that are kept, and one entry beside them. -/
def ofChildren (element : Xml.Element) (keep : Xml.Element → Bool) (value : Xml.Element → Payload)
    (key : String) (extra : Payload) : Entries :=
  Association.put (Association.ofEntries
    ((element.children.filter keep).map fun child => (child.tag, value child))) key extra

theorem has_ofChildren {child : Xml.Element} (member : child ∈ element.children)
    (kept : keep child = true) : (ofChildren element keep value key extra).Has child.tag := by
  refine has_put.mpr (.inr (Association.mem_keys_ofEntries.mpr ?_))
  rw [Association.keys, List.map_map]
  exact List.mem_map.mpr ⟨child, List.mem_filter.mpr ⟨member, kept⟩, rfl⟩

/-- A field is given by the last child under one of its names. -/
theorem gives_ofChildren_iff (given : Payload)
    (fits : (ofChildren element keep value key extra).Fits fields) (field : names ∈ fields)
    (elsewhere : key ∉ names)
    (kept : ∀ child ∈ element.children, child.tag ∈ names → keep child = true) :
    (ofChildren element keep value key extra).Gives names given ↔
      ∃ child, (element.childrenUnder names).getLast? = some child ∧ value child = given := by
  have once := (fits.of_fewer fun _ has => has_put.mpr (.inr has)).once names field
  exact (gives_put_of_notMem elsewhere).trans (gives_children_iff kept once)

theorem states_of_requires (fits : (ofChildren element keep value key extra).Fits fields)
    (field : names ∈ fields) (elsewhere : key ∉ names)
    (plain : ∀ child, child.tag ∈ names → keep child = true ∧ value child = textPayload child)
    (requires : (ofChildren element keep value key extra).Requires names reads result) :
    element.States names reads result := by
  obtain ⟨given, gives, means⟩ := requires
  have last := gives_ofChildren_iff given fits field elsewhere
    fun child _ named => (plain child named).1
  obtain ⟨child, found, rfl⟩ := last.mp gives
  have named := (List.mem_filter.mp (List.mem_of_getLast? found)).2
  rw [(plain child (decide_eq_true_iff.mp named)).2] at means
  exact ⟨child, found, means⟩

theorem mayState_of_allows (fits : (ofChildren element keep value key extra).Fits fields)
    (field : names ∈ fields) (elsewhere : key ∉ names)
    (plain : ∀ child, child.tag ∈ names → keep child = true ∧ value child = textPayload child)
    (allows : (ofChildren element keep value key extra).Allows names reads absent result) :
    element.MayState names reads absent result := by
  rcases allows with requires | ⟨missing, default_⟩
  · exact .inl (states_of_requires fits field elsewhere plain requires)
  · refine .inr ⟨?_, default_⟩
    cases found : (element.childrenUnder names).getLast? with
    | none => exact List.getLast?_eq_none_iff.mp found
    | some child =>
        have last := gives_ofChildren_iff (value child) fits field elsewhere
          fun child _ named => (plain child named).1
        exact (missing _ (last.mpr ⟨child, found, rfl⟩)).elim

end Fields

end Payload.Entries

theorem Payload.eq_of_readsAsTexts {texts values : List String}
    (reads : (Payload.list (texts.map .text)).ReadsAsListOf ReadsAsText values) :
    values = texts := by
  obtain ⟨each⟩ := reads
  rw [List.forall₂_map_left_iff] at each
  induction each with
  | nil => rfl
  | cons one _ inductionHypothesis =>
      cases one
      rw [inductionHypothesis]

namespace Configuration

open Payload.Entries

theorem plain_of_noOptions {names : FieldNames} (noOption : "option" ∉ names)
    (noOptions : "options" ∉ names) (child : Xml.Element) (named : child.tag ∈ names) :
    (!givesOptions child) = true ∧ textPayload child = textPayload child := by
  have bare : child.tag ≠ "option" := fun same => noOption (same ▸ named)
  have wraps : child.tag ≠ "options" := fun same => noOptions (same ▸ named)
  exact ⟨by simp [givesOptions, bare, wraps], rfl⟩

/-- Whatever is read as a format is described by its element, which holds nothing else. -/
theorem describesFormat_of_reads {element : Xml.Element} {format : Format}
    (reads : (formatPayload element).ReadsAsFormat format) :
    element.DescribesFormat format ∧ ∀ child ∈ element.children,
      child.tag = "option" ∨ ∃ names ∈ Format.fields, child.tag ∈ names := by
  let options : Payload := .list ((element.optionElements.map optionText).map .text)
  have payload : formatPayload element =
      .mapping (ofChildren element (!givesOptions ·) textPayload "options" options) :=
    formatPayload_eq element
  rw [payload] at reads
  obtain ⟨fits, fields⟩ := reads
  have states {α : Type} {names : FieldNames} {reads : Payload → α → Prop} {value : α}
      (field : names ∈ Format.fields) (noOption : "option" ∉ names) (noOptions : "options" ∉ names)
      (requires : Requires _ names reads value) : element.States names reads value :=
    states_of_requires fits field noOptions (plain_of_noOptions noOption noOptions) requires
  have mayState {α : Type} {names : FieldNames} {reads : Payload → α → Prop} {absent value : α}
      (field : names ∈ Format.fields) (noOption : "option" ∉ names) (noOptions : "options" ∉ names)
      (allows : Allows _ names reads absent value) : element.MayState names reads absent value :=
    mayState_of_allows fits field noOptions (plain_of_noOptions noOption noOptions) allows
  constructor
  · constructor
    · exact states (by decide) (by decide) (by decide) fields.toolCode
    · exact states (by decide) (by decide) (by decide) fields.publicName
    · exact mayState (by decide) (by decide) (by decide) fields.extension
    · exact mayState (by decide) (by decide) (by decide) fields.singleFile
    · exact mayState (by decide) (by decide) (by decide) fields.mimeType
    · exact mayState (by decide) (by decide) (by decide) fields.kind
    · have listed := fields.options.reads_of_gives (fits.once _ (by decide))
        (gives_put_self.mpr rfl)
      exact Payload.eq_of_readsAsTexts listed
  · intro child member
    by_cases bare : child.tag = "option"
    · exact .inl bare
    · by_cases wraps : child.tag = "options"
      · exact .inr ⟨Format.optionsNames, by decide, by simp [wraps, Format.optionsNames]⟩
      · have keeps : (!givesOptions child) = true := by
          simp [givesOptions, bare, wraps]
        exact .inr (fits.known child.tag (has_ofChildren member keeps))

theorem plain_of_noLists {names : FieldNames} (noEnvironment : "environment" ∉ names)
    (noFormats : "formats" ∉ names) (child : Xml.Element) (named : child.tag ∈ names) :
    decide (child.tag ≠ "formats") = true ∧ (gatheredEntry child).2 = textPayload child := by
  have lists : child.tag ≠ "formats" := fun same => noFormats (same ▸ named)
  have binds : child.tag ≠ "environment" := fun same => noEnvironment (same ▸ named)
  exact ⟨decide_eq_true_iff.mpr lists, by rw [gatheredEntry, if_neg binds]⟩

theorem payloadOf_eq_ok {root : Xml.Element} {payload : Payload} :
    payloadOf root = .ok payload ↔ root.tag ∈ rootTags ∧
      (∀ child ∈ root.children, IsInOrder child) ∧
      payload = .mapping (ofChildren root (·.tag ≠ "formats") (fun child => (gatheredEntry child).2)
        "formats" (.list (root.formatElements.map formatPayload))) := by
  unfold payloadOf
  by_cases known : root.tag ∈ rootTags
  · rw [if_pos (List.contains_iff_mem.mpr known), and_iff_right known]
    constructor
    · intro found
      cases gathered : gather [] [] root.children with
      | error rejection =>
          rw [gathered] at found
          cases found
      | ok both =>
          obtain ⟨entries, formats⟩ := both
          obtain ⟨inOrder, rfl, rfl⟩ := gather_eq_ok.mp gathered
          rw [gathered] at found
          cases found
          exact ⟨inOrder, rfl⟩
    · rintro ⟨inOrder, rfl⟩
      rw [gather_eq_ok.mpr ⟨inOrder, rfl, rfl⟩]
      rfl
  · rw [if_neg (mt List.contains_iff_mem.mp known)]
    simp [known]

/-- Formats that are read one by one are described one by one. -/
theorem describesFormats_of_reads {elements : List Xml.Element} {formats : List Format}
    (reads : List.Forall₂ Payload.ReadsAsFormat (elements.map formatPayload) formats) :
    List.Forall₂ Xml.Element.DescribesFormat elements formats ∧
      ∀ element ∈ elements, ∀ child ∈ element.children,
        child.tag = "option" ∨ ∃ names ∈ Format.fields, child.tag ∈ names := by
  rw [List.forall₂_map_left_iff] at reads
  induction reads with
  | nil => exact ⟨.nil, List.forall_mem_nil _⟩
  | cons first _ inductionHypothesis =>
      obtain ⟨described, known⟩ := describesFormat_of_reads first
      exact ⟨.cons described inductionHypothesis.1,
        List.forall_mem_cons.mpr ⟨known, inductionHypothesis.2⟩⟩

theorem eq_of_readsAsEnvironment {entries : List (String × String)} {environment : Environment}
    (reads : (environmentPayload (Association.ofEntries entries)).ReadsAsEnvironment environment) :
    environment = Association.ofEntries entries := by
  have distinct := Association.nodup_keys_ofEntries entries
  have found := Schema.environment_eq_valid.mpr reads
  rw [environment_environmentPayload distinct, Validation.Checked.valid.injEq] at found
  exact found.symm

/-- Whatever is accepted as a configuration is described by its outermost element, which holds
nothing else. -/
theorem describes_of_ofElement {root : Xml.Element} {accepted : Configuration}
    (found : ofElement root = .ok accepted) :
    root.IsExpected ∧ root.DescribesConfiguration accepted := by
  obtain ⟨payload, described, reads⟩ := ofElement_eq_ok.mp found
  obtain ⟨-, inOrder, rfl⟩ := payloadOf_eq_ok.mp described
  obtain ⟨fits, fields, -⟩ := reads
  have given := fields.formats.reads_of_gives (fits.once _ (by decide)) (gives_put_self.mpr rfl)
  obtain ⟨each⟩ := given
  obtain ⟨formats, formatFields⟩ := describesFormats_of_reads each
  constructor
  · constructor
    · intro child member
      by_cases lists : child.tag = "formats"
      · exact ⟨Configuration.formatsNames, by decide, by simp [lists, formatsNames]⟩
      · exact fits.known child.tag (has_ofChildren member (decide_eq_true_iff.mpr lists))
    · intro element member
      obtain ⟨child, tagged⟩ := List.mem_filter.mp member
      exact (inOrder element child).environment (by simpa using tagged)
    · intro element member
      obtain ⟨list, listed, inside⟩ := List.mem_flatMap.mp member
      obtain ⟨child, tagged⟩ := List.mem_filter.mp listed
      exact (inOrder list child).formats (by simpa using tagged) element inside
    · exact formatFields
  · constructor
    · exact states_of_requires fits (by decide) (by decide)
        (plain_of_noLists (by decide) (by decide)) fields.executable
    · exact mayState_of_allows fits (by decide) (by decide)
        (plain_of_noLists (by decide) (by decide)) fields.dataPath
    · have last (given : Payload) := gives_ofChildren_iff given fits
        (show environmentNames ∈ Configuration.fields by decide) (by decide)
        fun child _ named => by simp [List.mem_singleton.mp named]
      unfold Xml.Element.lastBindings
      cases there : (root.childrenUnder ["environment"]).getLast? with
      | none =>
          rcases fields.environment with ⟨given, gives, -⟩ | ⟨-, none_⟩
          · obtain ⟨child, other, -⟩ := (last given).mp gives
            rw [show environmentNames = ["environment"] from rfl, there] at other
            cases other
          · exact none_
      | some element =>
          have gives := (last _).mpr ⟨element, there, rfl⟩
          have means := fields.environment.reads_of_gives (fits.once _ (by decide)) gives
          have tagged := (List.mem_filter.mp (List.mem_of_getLast? there)).2
          have binds : element.tag = "environment" := by simpa using tagged
          rw [gatheredEntry, if_pos binds] at means
          exact eq_of_readsAsEnvironment means
    · exact formats

end Configuration

end GeoBridge
