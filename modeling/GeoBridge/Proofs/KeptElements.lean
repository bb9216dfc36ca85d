import GeoBridge.Proofs.EssentialElements

/-!
Owns which of the elements of a document take part in the configuration that is read from it.

Owns:
- the elements that must have a place, without which the whole document is rejected;
- what repeated sections declare: formats and options are gathered over all of them, but only the
  last environment counts, and only options are taken from lists of options;
- the exact condition under which all of them are kept, and the one under which no element is
  passed over.
-/

namespace GeoBridge

open GeoBridge.Configuration (bindingsOf optionText)

namespace Association

variable {κ α : Type} [DecidableEq κ]

/-- Later entries hide all earlier ones exactly if they give every key again. -/
theorem find?_reverse_append_iff {earlier later : Association κ α} :
    (∀ key value, find? (earlier ++ later).reverse key = some value →
      find? later.reverse key = some value) ↔
      ∀ key ∈ keys (earlier ++ later), key ∈ keys later := by
  have both (key : κ) : find? (earlier ++ later).reverse key =
      (find? later.reverse key).or (find? earlier.reverse key) := by
    rw [List.reverse_append, find?_append]
  constructor
  -- A key that is only given earlier would be found with its earlier value.
  · intro hidden key given
    have there : find? (earlier ++ later).reverse key ≠ none := by
      rw [ne_eq, find?_eq_none_iff, mem_keys_reverse, not_not]
      exact given
    obtain ⟨value, found⟩ := Option.ne_none_iff_exists'.mp there
    have again := hidden key value found
    by_contra absent
    rw [find?_eq_none_iff.mpr (mt mem_keys_reverse.mp absent)] at again
    cases again
  · intro again key value found
    have given : key ∈ keys (earlier ++ later) := by
      by_contra absent
      rw [find?_eq_none_iff.mpr (mt mem_keys_reverse.mp absent)] at found
      cases found
    rw [both] at found
    cases last : find? later.reverse key with
    | none =>
        have absent := find?_eq_none_iff.mp last
        exact (absent (mem_keys_reverse.mpr (again key given))).elim
    | some other =>
        rw [last] at found
        exact found

end Association

namespace Xml.Element

/-- The variables that all environments declare, in document order. -/
def declaredBindings (root : Element) : List (String × String) :=
  (root.childrenUnder ["environment"]).flatMap bindingsOf

/-- Everything that is declared has its part in a configuration: each variable has the value of its
last declaration, each element in a list of formats gives one format, and each element in a list of
options gives that format one option. -/
structure IsKeptIn (root : Element) (configuration : Configuration) : Prop where
  environment : ∀ name value, Association.find? root.declaredBindings.reverse name = some value →
    Association.find? configuration.environment name = some value
  formats : List.Forall₂
    (fun element format => format.options = element.declaredOptions.map optionText)
    root.formatElements configuration.formats

/-- Nothing is declared where it has no effect: the last environment declares every variable again,
and lists of options hold nothing else. -/
structure IsEffective (root : Element) : Prop where
  environment : ∀ name ∈ Association.keys root.declaredBindings,
    name ∈ Association.keys root.lastBindings
  options : ∀ element ∈ root.formatElements, ∀ item ∈ element.declaredOptions, item.tag = "option"

/-- The last environment declares what it does after all others. -/
theorem exists_earlierBindings (root : Element) :
    ∃ earlier, root.declaredBindings = earlier ++ root.lastBindings := by
  unfold declaredBindings lastBindings
  cases last : (root.childrenUnder ["environment"]).getLast? with
  | none =>
      rw [List.getLast?_eq_none_iff.mp last]
      exact ⟨[], rfl⟩
  | some element =>
      obtain ⟨before, parts⟩ := List.getLast?_eq_some_iff.mp last
      rw [parts, List.flatMap_append]
      exact ⟨before.flatMap bindingsOf, by simp⟩

theorem optionElements_eq (element : Element) :
    element.optionElements = element.declaredOptions.filter (·.tag = "option") := by
  rw [optionElements, declaredOptions, List.filter_flatMap]
  refine List.flatMap_congr fun child _ => ?_
  by_cases bare : child.tag = "option"
  · simp [bare]
  · by_cases wraps : child.tag = "options"
    · simp [wraps, childrenUnder]
    · simp [bare, wraps]

/-- All that stands where options do is taken exactly if it consists of options. -/
theorem optionTexts_eq_iff (element : Element) :
    element.optionElements.map optionText = element.declaredOptions.map optionText ↔
      ∀ item ∈ element.declaredOptions, item.tag = "option" := by
  rw [optionElements_eq]
  constructor
  · intro same item member
    -- Equal texts alone say nothing of the tags, but a filter that drops nothing does.
    have lengths := congrArg List.length same
    rw [List.length_map, List.length_map, List.length_filter_eq_length_iff] at lengths
    exact decide_eq_true_iff.mp (lengths item member)
  · intro all
    rw [List.filter_eq_self.mpr fun item member => decide_eq_true_iff.mpr (all item member)]

theorem kept_options_iff {elements : List Element} {formats : List Format}
    (described : List.Forall₂ DescribesFormat elements formats) :
    List.Forall₂ (fun element format => format.options = element.declaredOptions.map optionText)
        elements formats ↔
      ∀ element ∈ elements, ∀ item ∈ element.declaredOptions, item.tag = "option" := by
  induction described with
  | nil => exact ⟨fun _ => List.forall_mem_nil _, fun _ => .nil⟩
  | @cons element format _ _ first _ inductionHypothesis =>
      rw [List.forall₂_cons, List.forall_mem_cons, inductionHypothesis, first.options,
        optionTexts_eq_iff]

/-- A configuration keeps everything that its outermost element declares exactly if nothing is
declared there without effect. -/
theorem isKeptIn_iff {root : Element} {configuration : Configuration}
    (described : root.DescribesConfiguration configuration) :
    root.IsKeptIn configuration ↔ root.IsEffective := by
  have bound : (∀ name value,
      Association.find? root.declaredBindings.reverse name = some value →
        Association.find? configuration.environment name = some value) ↔
      ∀ name ∈ Association.keys root.declaredBindings,
        name ∈ Association.keys root.lastBindings := by
    obtain ⟨earlier, parts⟩ := root.exists_earlierBindings
    rw [parts, ← Association.find?_reverse_append_iff]
    simp only [described.environment, Association.find?_ofEntries]
  have options := kept_options_iff described.formats
  exact ⟨fun kept => ⟨bound.mp kept.environment, options.mp kept.formats⟩,
    fun effective => ⟨bound.mpr effective.environment, options.mpr effective.options⟩⟩

end Xml.Element

namespace Configuration

/-- A well-formed document is accepted or rejected. -/
theorem exists_rejection {document : Xml.Document} {root : Xml.Element}
    (opened : document.read = .ok root) (never : ∀ accepted, read document ≠ .ok accepted) :
    ∃ rejection, read document = .error (.rejected rejection) := by
  unfold read at never ⊢
  rw [opened] at never ⊢
  cases made : ofElement root with
  | ok accepted =>
      simp only [made] at never
      exact (never accepted rfl).elim
  | error rejection => exact ⟨rejection, by simp only [made]⟩

/-- A document with an element that has no place is rejected. What is read from any other one
follows its elements, and keeps everything that they declare exactly if the last environment
declares all variables again and lists of options hold nothing but options. Elements outside of the
essential part are passed over without effect, and there are none exactly if no field is given again
and neither texts nor variables hold further elements. -/
theorem read_keeps_effective {document : Xml.Document} {root : Xml.Element}
    (opened : document.read = .ok root) :
    (¬root.IsExpected → ∃ rejection, read document = .error (.rejected rejection)) ∧
    ∀ accepted, read document = .ok accepted →
      root.DescribesConfiguration accepted ∧ (root.IsKeptIn accepted ↔ root.IsEffective) ∧
      ofElement root.essential = .ok accepted ∧ (root.essential = root ↔ root.IsEssential) := by
  constructor
  · intro unexpected
    refine exists_rejection opened fun accepted found => unexpected ?_
    exact (describes_of_ofElement ((read_eq_ok opened).mp found)).1
  · intro accepted found
    have made := (read_eq_ok opened).mp found
    have described := (describes_of_ofElement made).2
    exact ⟨described, Xml.Element.isKeptIn_iff described, ofElement_essential made,
      Xml.Element.essential_eq_self⟩

/-- A configuration with two environments. -/
def twiceBound : Xml.Markup :=
  .branch "ToolConfiguration"
    [.leaf "executable" [] "gdal_translate",
      .branch "environment" [.leaf "variable" [("name", "A"), ("value", "1")] ""],
      .branch "environment" [.leaf "variable" [("name", "B"), ("value", "2")] ""]]

/-- It is accepted, but the variable of the first environment is lost. -/
theorem read_twiceBound :
    ∃ root, twiceBound.asDocument.read = .ok root ∧
      read twiceBound.asDocument =
        .ok { executable := "gdal_translate", environment := [("B", "2")] } ∧
      ¬root.IsKeptIn { executable := "gdal_translate", environment := [("B", "2")] } := by
  have opened : twiceBound.asDocument.read = .ok (twiceBound.resolved 0) :=
    Xml.Markup.read_asDocument (by decide +kernel) rfl (by decide +kernel)
  have found : read twiceBound.asDocument =
      .ok { executable := "gdal_translate", environment := [("B", "2")] } :=
    (read_eq_ok opened).mpr (by decide +kernel)
  refine ⟨_, opened, found, fun kept => ?_⟩
  have effective := ((read_keeps_effective opened).2 _ found).2.1.mp kept
  exact absurd (effective.environment "A") (by decide +kernel)

end Configuration

end GeoBridge
