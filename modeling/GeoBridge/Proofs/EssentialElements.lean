import GeoBridge.Proofs.DescribedConfigurations
import Mathlib.Data.List.Nodup
import Mathlib.Data.List.Pairwise

/-!
Owns the essential part of a document: the elements from which its configuration is read.

Owns:
- the essential part itself: of fields that are given again the last one, of texts only the element
  that holds them, of variables only the children that are looked at;
- what is read of the essential part, which is what is read of the whole;
- the exact condition under which a document has no other elements.

Earlier environments belong to the essential part, for their variables have to have names. What is
lost with them is a matter of the variables, not of the elements.
-/

namespace GeoBridge

open Validation

/-- A list is an image of a part of it only if nothing was left out. -/
theorem map_eq_self_of_sublist {α : Type} {part items : List α} {f : α → α}
    (among : part.Sublist items) :
    part.map f = items ↔ part = items ∧ ∀ item ∈ items, f item = item := by
  have fixed : items.map f = items ↔ ∀ item ∈ items, f item = item := by
    conv_lhs => rhs; rw [← List.map_id items]
    exact List.map_inj_left
  constructor
  · intro same
    have lengths := congrArg List.length same
    rw [List.length_map] at lengths
    obtain rfl := among.eq_of_length lengths
    exact ⟨rfl, fixed.mp same⟩
  · rintro ⟨rfl, each⟩
    exact fixed.mpr each

namespace Xml.Element

/-! ### The last elements under their tags -/

/-- An element is not replaced by a later one: all elements under its tag count, or the other has
another tag. -/
def StaysBefore (counting : List String) (element later : Element) : Prop :=
  element.tag ∈ counting ∨ element.tag ≠ later.tag

instance (counting : List String) : DecidableRel (StaysBefore counting) :=
  fun _ _ => inferInstanceAs (Decidable (_ ∨ _))

/-- The elements that no later one replaces. -/
def lastOnes (counting : List String) (elements : List Element) : List Element :=
  elements.pwFilter (StaysBefore counting)

theorem lastOnes_sublist (counting : List String) (elements : List Element) :
    (lastOnes counting elements).Sublist elements :=
  List.pwFilter_sublist elements

/-- Nothing is replaced exactly if tags come again only where all elements under them count. -/
theorem lastOnes_eq_self {counting : List String} {elements : List Element} :
    lastOnes counting elements = elements ↔
      ((elements.filter (·.tag ∉ counting)).map tag).Nodup := by
  rw [lastOnes, List.pwFilter_eq_self, List.Nodup, List.pairwise_map, List.pairwise_filter]
  refine List.Pairwise.iff fun element later => ?_
  simp only [StaysBefore, decide_eq_true_iff]
  constructor
  · intro stays notCounting _
    exact stays.resolve_left notCounting
  · intro differs
    by_cases counts : element.tag ∈ counting
    · exact .inl counts
    · exact .inr fun same => differs counts (same ▸ counts) same

section Last

variable {counting : List String}

/-- An element that does not stay has one under the same tag after it that does. -/
theorem exists_replacing {element : Element} {elements : List Element}
    (replaced : ¬∀ later ∈ elements, StaysBefore counting element later) :
    element.tag ∉ counting ∧ ∃ later ∈ elements, element.tag = later.tag := by
  simp only [StaysBefore, not_forall, not_or, not_not] at replaced
  obtain ⟨later, member, notCounting, same⟩ := replaced
  exact ⟨notCounting, later, member, same⟩

/-- The last element with some property of its tag is not replaced. -/
theorem getLast?_filter_lastOnes {holds : Element → Bool}
    (byTag : ∀ one other : Element, one.tag = other.tag → holds one = holds other)
    (elements : List Element) :
    ((lastOnes counting elements).filter holds).getLast? = (elements.filter holds).getLast? := by
  induction elements with
  | nil => rfl
  | cons element rest inductionHypothesis =>
      rw [lastOnes] at inductionHypothesis ⊢
      by_cases stays : ∀ later ∈ rest.pwFilter (StaysBefore counting),
          StaysBefore counting element later
      · rw [List.pwFilter_cons_of_pos stays, List.filter_cons, List.filter_cons]
        split
        · rw [List.getLast?_cons, List.getLast?_cons, inductionHypothesis]
        · exact inductionHypothesis
      · rw [List.pwFilter_cons_of_neg stays, inductionHypothesis, List.filter_cons]
        split
        · next has =>
            obtain ⟨-, later, member, same⟩ := exists_replacing stays
            have among : later ∈ rest.filter holds :=
              List.mem_filter.mpr ⟨List.pwFilter_subset rest member, byTag _ _ same ▸ has⟩
            rw [List.getLast?_cons, List.getLast?_eq_some_getLast (List.ne_nil_of_mem among)]
            rfl
        · rfl

/-- What only the counting elements give is given in full. -/
theorem flatMap_lastOnes {α : Type} {gives : Element → List α}
    (nothing : ∀ element : Element, element.tag ∉ counting → gives element = [])
    (elements : List Element) :
    (lastOnes counting elements).flatMap gives = elements.flatMap gives := by
  induction elements with
  | nil => rfl
  | cons element rest inductionHypothesis =>
      rw [lastOnes] at inductionHypothesis ⊢
      by_cases stays : ∀ later ∈ rest.pwFilter (StaysBefore counting),
          StaysBefore counting element later
      · rw [List.pwFilter_cons_of_pos stays, List.flatMap_cons, List.flatMap_cons,
          inductionHypothesis]
      · rw [List.pwFilter_cons_of_neg stays, inductionHypothesis, List.flatMap_cons,
          nothing element (exists_replacing stays).1, List.nil_append]

end Last

/-! ### Essential parts -/

/-- The element with other children. -/
def withChildren (element : Element) (children : List Element) : Element :=
  .node element.tag element.attributes element.text children

/-- The element without children, of which only the text is read. -/
def bare (element : Element) : Element := element.withChildren []

section WithChildren

variable (element : Element) (children : List Element)

@[simp] theorem tag_withChildren : (element.withChildren children).tag = element.tag := rfl

@[simp] theorem attributes_withChildren :
    (element.withChildren children).attributes = element.attributes := rfl

@[simp] theorem text_withChildren : (element.withChildren children).text = element.text := rfl

@[simp] theorem children_withChildren : (element.withChildren children).children = children := rfl

theorem withChildren_eq_self {element : Element} {children : List Element} :
    element.withChildren children = element ↔ children = element.children := by
  cases element
  simp [withChildren, tag, attributes, text, Element.children]

theorem bare_eq_self {element : Element} : element.bare = element ↔ element.children = [] := by
  rw [bare, withChildren_eq_self, eq_comm]

end WithChildren

/-- The children that may give a part of a variable: those under the names of parts that no
attribute gives. -/
def partElements (entry : Element) : List Element :=
  entry.children.filter fun child =>
    child.tag ∈ ["name", "value"] ∧ entry.attributes.find? child.tag = none

/-- The essential part of a variable: under each name, the first child that may give that part. -/
def essentialVariable (entry : Element) : Element :=
  entry.withChildren ((lastOnes [] entry.partElements.reverse).reverse.map bare)

/-- The essential part of a child of a format: the text of a field or an option, or the options that
a list holds. -/
def essentialField (child : Element) : Element :=
  if child.tag = "options" then child.withChildren ((child.childrenUnder ["option"]).map bare)
  else child.bare

/-- The essential part of a format: all its options, and the last element of each field. -/
def essentialFormat (element : Element) : Element :=
  element.withChildren ((lastOnes ["option", "options"] element.children).map essentialField)

/-- The essential part of a child of the outermost element. -/
def essentialChild (child : Element) : Element :=
  if child.tag = "environment" then child.withChildren (child.children.map essentialVariable)
  else if child.tag = "formats" then child.withChildren (child.children.map essentialFormat)
  else child.bare

/-- The essential part of an outermost element: its environments and formats, and the last element
of each other field. -/
def essential (root : Element) : Element :=
  root.withChildren ((lastOnes ["environment", "formats"] root.children).map essentialChild)

theorem tag_essentialField (child : Element) : child.essentialField.tag = child.tag := by
  unfold essentialField
  split <;> rfl

theorem tag_essentialChild (child : Element) : child.essentialChild.tag = child.tag := by
  unfold essentialChild
  split_ifs <;> rfl

end Xml.Element

/-! ### What is read of the essential part -/

namespace Configuration

open Xml.Element

theorem trimmedText_withChildren (element : Xml.Element) (children : List Xml.Element) :
    trimmedText (element.withChildren children) = trimmedText element := rfl

theorem textPayload_essentialField (child : Xml.Element) :
    textPayload child.essentialField = textPayload child := by
  unfold essentialField
  split <;> rfl

theorem textPayload_essentialChild (child : Xml.Element) :
    textPayload child.essentialChild = textPayload child := by
  unfold essentialChild
  split_ifs <;> rfl

/-- The part of a variable that no attribute gives is read from the same child. -/
theorem child?_essentialVariable {entry : Xml.Element} {name : String}
    (part : name ∈ ["name", "value"]) (unsaid : entry.attributes.find? name = none) :
    entry.essentialVariable.child? name = (entry.child? name).map bare := by
  have named (child : Xml.Element) (same : child.tag = name) :
      child.tag ∈ ["name", "value"] ∧ entry.attributes.find? child.tag = none :=
    same ▸ ⟨part, unsaid⟩
  have looked : entry.partElements.filter (·.tag == name) =
      entry.children.filter (·.tag == name) := by
    rw [partElements, List.filter_filter]
    refine List.filter_congr fun child _ => ?_
    by_cases same : child.tag = name
    · simp only [decide_eq_true (named child same), Bool.and_true]
    · simp [same]
  have first : (lastOnes [] entry.partElements.reverse).reverse.find? (·.tag == name) =
      entry.children.find? (·.tag == name) := by
    rw [← List.head?_filter, List.filter_reverse, List.head?_reverse, getLast?_filter_lastOnes,
      List.filter_reverse, List.getLast?_reverse, looked, List.head?_filter]
    intro one other same
    rw [same]
  rw [child?, child?, essentialVariable, children_withChildren, List.find?_map, ← first]
  rfl

theorem bindingOf_essentialVariable (entry : Xml.Element) :
    bindingOf entry.essentialVariable = bindingOf entry := by
  have same {name : String} (part : name ∈ ["name", "value"]) :
      variablePart entry.essentialVariable name = variablePart entry name := by
    have attributes : entry.essentialVariable.attributes = entry.attributes := rfl
    rw [variablePart, variablePart, attributes]
    cases unsaid : entry.attributes.find? name with
    | some value => rfl
    | none =>
        rw [child?_essentialVariable part unsaid]
        cases entry.child? name <;> rfl
  rw [bindingOf, bindingOf, same (by decide), same (by decide)]

theorem optionsOf_essentialField (child : Xml.Element) :
    optionsOf child.essentialField = optionsOf child := by
  unfold essentialField
  split
  · next wraps =>
      have kept : (((child.childrenUnder ["option"]).map bare).filter (·.tag == "option")) =
          (child.childrenUnder ["option"]).map bare := by
        refine List.filter_eq_self.mpr fun item member => ?_
        obtain ⟨option, among, rfl⟩ := List.mem_map.mp member
        simpa [childrenUnder, bare] using (List.mem_filter.mp among).2
      have texts : ((child.childrenUnder ["option"]).map bare).map
          (fun item => (trimmedText item).getD "") =
            (child.children.filter (·.tag == "option")).map
              fun item => (trimmedText item).getD "" := by
        rw [List.map_map, childrenUnder]
        simp only [List.mem_singleton, beq_eq_decide]
        rfl
      simp [optionsOf, wraps, kept, texts]
  · next bareOne =>
      simp only [optionsOf, bare, tag_withChildren, trimmedText_withChildren,
        children_withChildren, beq_iff_eq, bareOne, if_false]

end Configuration

namespace Payload

variable {entries others : Entries}

/-- What is read of entries depends on nothing but what is found among them. -/
theorem Entries.gives_of_lookup (same : ∀ key, entries.lookup key = others.lookup key)
    (names : FieldNames) (given : Payload) :
    entries.Gives names given ↔ others.Gives names given := by
  simp only [Entries.Gives, same]

theorem Entries.has_of_lookup (same : ∀ key, entries.lookup key = others.lookup key)
    (key : String) (has : others.Has key) : entries.Has key := by
  rw [Entries.has_iff] at has ⊢
  rwa [same]

theorem readsAsFormat_of_lookup {format : Format}
    (same : ∀ key, entries.lookup key = others.lookup key)
    (reads : (Payload.mapping entries).ReadsAsFormat format) :
    (Payload.mapping others).ReadsAsFormat format := by
  obtain ⟨fits, fields⟩ := reads
  exact .mapping (fits.of_fewer (Entries.has_of_lookup same))
    (fields.congr fun names _ => Entries.gives_of_lookup same names)

theorem readsAsConfiguration_of_lookup {configuration : Configuration}
    (same : ∀ key, entries.lookup key = others.lookup key)
    (reads : (Payload.mapping entries).ReadsAsConfiguration configuration) :
    (Payload.mapping others).ReadsAsConfiguration configuration := by
  obtain ⟨fits, fields, distinct⟩ := reads
  exact .mapping (fits.of_fewer (Entries.has_of_lookup same))
    (fields.congr fun names _ => Entries.gives_of_lookup same names) distinct

/-- Of the essential parts of elements the same entries are found as of the elements. -/
theorem Entries.lookup_ofEntries_lastOnes (counting : List String) {keep : Xml.Element → Bool}
    {part : Xml.Element → Xml.Element} (value : Xml.Element → Payload)
    (byTag : ∀ one other : Xml.Element, one.tag = other.tag → keep one = keep other)
    (sameTag : ∀ child, (part child).tag = child.tag)
    (sameValue : ∀ child, value (part child) = value child)
    (children : List Xml.Element) (key : String) :
    List.lookup key (Association.ofEntries ((((Xml.Element.lastOnes counting children).map
        part).filter keep).map fun child => (child.tag, value child))) =
      List.lookup key (Association.ofEntries
        ((children.filter keep).map fun child => (child.tag, value child))) := by
  have parts : (((Xml.Element.lastOnes counting children).map part).filter keep).map
      (fun child => (child.tag, value child)) =
        ((Xml.Element.lastOnes counting children).filter keep).map
          fun child => (child.tag, value child) := by
    have kept : keep ∘ part = keep := funext fun child => byTag _ _ (sameTag child)
    rw [List.filter_map, kept, List.map_map]
    exact List.map_congr_left fun child _ => by
      rw [Function.comp_apply, sameTag, sameValue]
  rw [parts, lookup_eq_find?, lookup_eq_find?, Association.find?_ofEntries,
    Association.find?_ofEntries, Association.find?_reverse_map _ Xml.Element.tag value,
    Association.find?_reverse_map _ Xml.Element.tag value, List.filter_filter, List.filter_filter,
    Xml.Element.getLast?_filter_lastOnes]
  intro one other same
  rw [same, byTag one other same]

end Payload

namespace Configuration

open Xml.Element

/-- The essential part of a format is read as the same format, or neither is read as any. -/
theorem formatPayload_essentialFormat (element : Xml.Element) :
    (formatPayload element).IsAlike (formatPayload element.essentialFormat) := by
  let entriesOf (fields : List Xml.Element) (options : List String) : Payload.Entries :=
    Association.put (Association.ofEntries (fields.map fun child => (child.tag, textPayload child)))
      "options" (.list (options.map .text))
  have options : element.essentialFormat.children.flatMap optionsOf =
      element.children.flatMap optionsOf := by
    have nothing (child : Xml.Element) (plain : child.tag ∉ ["option", "options"]) :
        optionsOf child = [] := by
      rw [List.mem_cons, List.mem_singleton, not_or] at plain
      simp [optionsOf, plain.1, plain.2]
    rw [essentialFormat, children_withChildren, List.flatMap_map]
    simp only [optionsOf_essentialField]
    exact flatMap_lastOnes nothing element.children
  have byTag (one other : Xml.Element) (same : one.tag = other.tag) :
      (!givesOptions one) = !givesOptions other := by
    rw [givesOptions, givesOptions, same]
  have same (key : String) :
      (entriesOf element.fieldElements (element.children.flatMap optionsOf)).lookup key =
        (entriesOf element.essentialFormat.fieldElements
          (element.essentialFormat.children.flatMap optionsOf)).lookup key := by
    have fields := Payload.Entries.lookup_ofEntries_lastOnes ["option", "options"] textPayload byTag
      tag_essentialField textPayload_essentialField element.children key
    rw [options, Payload.Entries.lookup_put, Payload.Entries.lookup_put]
    exact congrArg _ fields.symm
  intro format
  exact ⟨Payload.readsAsFormat_of_lookup same,
    Payload.readsAsFormat_of_lookup fun key => (same key).symm⟩

theorem gatheredEntry_essentialChild (child : Xml.Element) :
    gatheredEntry child.essentialChild = gatheredEntry child := by
  by_cases binds : child.tag = "environment"
  · have bindings : bindingsOf child.essentialChild = bindingsOf child := by
      rw [essentialChild, if_pos binds, bindingsOf, children_withChildren, List.map_map]
      exact List.map_congr_left fun entry _ => bindingOf_essentialVariable entry
    simp only [gatheredEntry, tag_essentialChild, binds, if_true, bindings]
  · simp only [gatheredEntry, tag_essentialChild, if_neg binds, textPayload_essentialChild]

/-- The essential part of what is in order is in order. -/
theorem isInOrder_essentialChild {child : Xml.Element} (inOrder : IsInOrder child) :
    IsInOrder child.essentialChild := by
  constructor
  · intro binds
    rw [tag_essentialChild] at binds
    rw [essentialChild, if_pos binds, children_withChildren]
    intro entry member
    obtain ⟨variable_, among, rfl⟩ := List.mem_map.mp member
    rw [bindingOf_essentialVariable]
    exact inOrder.environment binds variable_ among
  · intro lists
    rw [tag_essentialChild] at lists
    have noEnvironment : child.tag ≠ "environment" := by
      rw [lists]
      decide
    rw [essentialChild, if_neg noEnvironment, if_pos lists, children_withChildren]
    intro element member
    obtain ⟨format, among, rfl⟩ := List.mem_map.mp member
    exact inOrder.formats lists format among

theorem formatElements_essential (root : Xml.Element) :
    root.essential.formatElements = root.formatElements.map essentialFormat := by
  let inside (child : Xml.Element) : List Xml.Element :=
    if child.tag = "formats" then child.children else []
  have formats (element : Xml.Element) :
      element.formatElements = element.children.flatMap inside := by
    rw [Xml.Element.formatElements, childrenUnder]
    induction element.children with
    | nil => rfl
    | cons child rest inductionHypothesis =>
        rw [List.filter_cons, List.flatMap_cons, ← inductionHypothesis]
        by_cases lists : child.tag = "formats" <;> simp [inside, lists]
  have parts (child : Xml.Element) :
      inside child.essentialChild = (inside child).map essentialFormat := by
    by_cases lists : child.tag = "formats"
    · simp [inside, lists, essentialChild]
    · simp [inside, lists, tag_essentialChild]
  have nothing (child : Xml.Element) (plain : child.tag ∉ ["environment", "formats"]) :
      inside child = [] := by
    rw [List.mem_cons, List.mem_singleton, not_or] at plain
    exact if_neg plain.2
  rw [formats, formats, essential, children_withChildren, List.flatMap_map]
  simp only [parts]
  rw [← List.map_flatMap, flatMap_lastOnes nothing]

/-- What is passed over has no effect: of the essential part the same configuration is read. -/
theorem ofElement_essential {root : Xml.Element} {accepted : Configuration}
    (found : ofElement root = .ok accepted) : ofElement root.essential = .ok accepted := by
  obtain ⟨payload, described, reads⟩ := ofElement_eq_ok.mp found
  obtain ⟨expected, inOrder, rfl⟩ := payloadOf_eq_ok.mp described
  refine ofElement_eq_ok.mpr ⟨_, payloadOf_eq_ok.mpr ⟨expected, ?_, rfl⟩, ?_⟩
  · intro child member
    obtain ⟨whole, among, rfl⟩ := List.mem_map.mp member
    exact isInOrder_essentialChild
      (inOrder whole ((lastOnes_sublist _ root.children).subset among))
  · have alike : List.Forall₂ Payload.IsAlike (root.formatElements.map formatPayload)
        (root.essential.formatElements.map formatPayload) := by
      rw [formatElements_essential, List.map_map, List.forall₂_map_left_iff,
        List.forall₂_map_right_iff]
      exact List.forall₂_same.mpr fun element _ => formatPayload_essentialFormat element
    refine Payload.readsAsConfiguration_of_alike alike
      (Payload.readsAsConfiguration_of_lookup (fun key => ?_) reads)
    have byTag (one other : Xml.Element) (same : one.tag = other.tag) :
        decide (one.tag ≠ "formats") = decide (other.tag ≠ "formats") := by
      rw [same]
    have entries := Payload.Entries.lookup_ofEntries_lastOnes ["environment", "formats"]
      (fun child => (gatheredEntry child).2) byTag tag_essentialChild
      (fun child => congrArg Prod.snd (gatheredEntry_essentialChild child)) root.children key
    rw [Payload.Entries.ofChildren, Payload.Entries.lookup_put, Payload.Entries.lookup_put]
    exact congrArg _ entries.symm

end Configuration

/-! ### Documents without other elements -/

namespace Xml.Element

/-- The elements that stand where the options of a format do: by themselves or in a list. -/
def declaredOptions (element : Element) : List Element :=
  element.children.flatMap fun child =>
    if child.tag = "option" then [child]
    else if child.tag = "options" then child.children else []

/-- A variable holds nothing but its name and its value, each once at most and only where no
attribute gives it. -/
structure IsPlainVariable (entry : Element) : Prop where
  parts : ∀ child ∈ entry.children,
    child.tag ∈ ["name", "value"] ∧ entry.attributes.find? child.tag = none ∧ child.children = []
  once : (entry.children.map tag).Nodup

/-- A format has each field once at most, its lists of options hold nothing but options, and its
fields and options hold nothing but text. -/
structure IsPlainFormat (element : Element) : Prop where
  once : (element.fieldElements.map tag).Nodup
  texts : ∀ child ∈ element.fieldElements, child.children = []
  options : ∀ item ∈ element.declaredOptions, item.tag = "option" ∧ item.children = []

/-- An outermost element has each field once at most, fields hold nothing but text, and variables
and formats nothing that is passed over. -/
structure IsEssential (root : Element) : Prop where
  once : ((root.children.filter (·.tag ∉ ["environment", "formats"])).map tag).Nodup
  texts : ∀ child ∈ root.children, child.tag ∉ ["environment", "formats"] → child.children = []
  entries : ∀ element ∈ root.childrenUnder ["environment"], ∀ entry ∈ element.children,
    entry.IsPlainVariable
  formats : ∀ element ∈ root.formatElements, element.IsPlainFormat

theorem essentialVariable_eq_self {entry : Element} :
    entry.essentialVariable = entry ↔ entry.IsPlainVariable := by
  have among : (lastOnes [] entry.partElements.reverse).reverse.Sublist entry.partElements := by
    have reversed := (lastOnes_sublist [] entry.partElements.reverse).reverse
    rwa [List.reverse_reverse] at reversed
  rw [essentialVariable, withChildren_eq_self,
    map_eq_self_of_sublist (among.trans List.filter_sublist)]
  simp only [bare_eq_self]
  have once : lastOnes [] entry.children.reverse = entry.children.reverse ↔
      (entry.children.map tag).Nodup := by
    rw [lastOnes_eq_self, List.filter_eq_self.mpr (by simp), List.map_reverse, List.nodup_reverse]
  constructor
  · rintro ⟨same, texts⟩
    -- Nothing is left out by the second step, so nothing is left out by the first.
    have whole : entry.children.Sublist entry.partElements := by
      rwa [same] at among
    have looked : entry.partElements = entry.children := List.filter_sublist.antisymm whole
    rw [looked] at same
    refine ⟨fun child member => ?_, once.mp (List.reverse_eq_iff.mp same)⟩
    have kept := decide_eq_true_iff.mp (List.filter_eq_self.mp looked child member)
    exact ⟨kept.1, kept.2, texts child member⟩
  · rintro ⟨parts, distinct⟩
    have looked : entry.partElements = entry.children :=
      List.filter_eq_self.mpr fun child member =>
        decide_eq_true ⟨(parts child member).1, (parts child member).2.1⟩
    rw [looked]
    exact ⟨List.reverse_eq_iff.mpr (once.mpr distinct), fun child member => (parts child member).2.2⟩

theorem essentialField_eq_self {child : Element} :
    child.essentialField = child ↔
      if child.tag = "options" then ∀ item ∈ child.children, item.tag = "option" ∧ item.children = []
      else child.children = [] := by
  unfold essentialField
  split
  · rw [withChildren_eq_self, childrenUnder, map_eq_self_of_sublist List.filter_sublist,
      List.filter_eq_self, ← forall₂_and]
    simp only [bare_eq_self, List.mem_singleton, decide_eq_true_iff]
  · exact bare_eq_self

theorem forall_mem_declaredOptions {element : Element} {holds : Element → Prop} :
    (∀ item ∈ element.declaredOptions, holds item) ↔ ∀ child ∈ element.children,
      (child.tag = "option" → holds child) ∧
        (child.tag = "options" → ∀ item ∈ child.children, holds item) := by
  simp only [declaredOptions, List.forall_mem_flatMap]
  refine forall₂_congr fun child _ => ?_
  by_cases single : child.tag = "option"
  · simp [single]
  · by_cases wraps : child.tag = "options" <;> simp [single, wraps]

theorem fieldElements_eq (element : Element) :
    element.fieldElements = element.children.filter (·.tag ∉ ["option", "options"]) := by
  refine List.filter_congr fun child _ => ?_
  simp [Configuration.givesOptions, beq_eq_decide]

theorem essentialFormat_eq_self {element : Element} :
    element.essentialFormat = element ↔ element.IsPlainFormat := by
  rw [essentialFormat, withChildren_eq_self, map_eq_self_of_sublist (lastOnes_sublist _ _),
    lastOnes_eq_self, ← fieldElements_eq]
  simp only [essentialField_eq_self]
  constructor
  · rintro ⟨once, parts⟩
    refine ⟨once, fun child member => ?_, forall_mem_declaredOptions.mpr fun child member => ?_⟩
    · rw [fieldElements_eq, List.mem_filter] at member
      have plain := parts child member.1
      rwa [if_neg] at plain
      intro wraps
      simp [wraps] at member
    · have plain := parts child member
      constructor
      · intro single
        have noList : child.tag ≠ "options" := by
          rw [single]
          decide
        exact ⟨single, by rwa [if_neg noList] at plain⟩
      · intro wraps
        rwa [if_pos wraps] at plain
  · rintro ⟨once, texts, options⟩
    refine ⟨once, fun child member => ?_⟩
    obtain ⟨single, wrapped⟩ := forall_mem_declaredOptions.mp options child member
    split
    · next wraps => exact wrapped wraps
    · next noList =>
        by_cases bareOption : child.tag = "option"
        · exact (single bareOption).2
        · refine texts child ?_
          rw [fieldElements_eq, List.mem_filter]
          exact ⟨member, by simp [bareOption, noList]⟩

/-- A document is its own essential part exactly if it holds no other elements. -/
theorem essential_eq_self {root : Element} : root.essential = root ↔ root.IsEssential := by
  rw [essential, withChildren_eq_self, map_eq_self_of_sublist (lastOnes_sublist _ _),
    lastOnes_eq_self]
  have fixed {child : Element} {part : Element → Element} :
      child.withChildren (child.children.map part) = child ↔
        ∀ item ∈ child.children, part item = item := by
    rw [withChildren_eq_self, map_eq_self_of_sublist (List.Sublist.refl _), and_iff_right rfl]
  have parts (child : Element) : child.essentialChild = child ↔
      (child.tag = "environment" → ∀ entry ∈ child.children, entry.IsPlainVariable) ∧
      (child.tag = "formats" → ∀ element ∈ child.children, element.IsPlainFormat) ∧
      (child.tag ∉ ["environment", "formats"] → child.children = []) := by
    unfold essentialChild
    by_cases binds : child.tag = "environment"
    · simp [binds, fixed, essentialVariable_eq_self]
    · by_cases lists : child.tag = "formats"
      · simp [lists, fixed, essentialFormat_eq_self]
      · simp [binds, lists, bare_eq_self]
  simp only [parts]
  constructor
  · rintro ⟨once, each⟩
    refine ⟨once, fun child member => (each child member).2.2, fun element member => ?_,
      fun element member => ?_⟩
    · obtain ⟨among, binds⟩ := List.mem_filter.mp member
      exact (each element among).1 (by simpa using binds)
    · obtain ⟨child, listed, inside⟩ := List.mem_flatMap.mp member
      obtain ⟨among, lists⟩ := List.mem_filter.mp listed
      exact (each child among).2.1 (by simpa using lists) element inside
  · rintro ⟨once, texts, entries, formats⟩
    refine ⟨once, fun child member => ⟨fun binds => ?_, fun lists element inside => ?_,
      texts child member⟩⟩
    · exact entries child (List.mem_filter.mpr ⟨member, by simp [binds]⟩)
    · exact formats element
        (List.mem_flatMap.mpr ⟨child, List.mem_filter.mpr ⟨member, by simp [lists]⟩, inside⟩)

example :
    essential (.node "ToolConfiguration" [] none
      [.node "executable" [] (some "ogr2ogr") [],
        .node "executable" [] (some "gdal_translate") [.node "note" [] none []]]) =
      .node "ToolConfiguration" [] none [.node "executable" [] (some "gdal_translate") []] := by
  rfl

end Xml.Element

end GeoBridge
