import GeoBridge.Proofs.Utf8Text
import GeoBridge.Proofs.WrittenElements

/-!
Owns the documents that are written around an outermost element.

Owns:
- written elements with their names resolved, where no namespace is declared;
- the opening of a document that declares nothing, from its UTF-8 form;
- the reading of written documents, as text and as octets.
-/

namespace GeoBridge.Xml

namespace Markup

/-! ### Resolving the names -/

mutual

/-- The element that is read where an element is written at a depth, its names resolved. -/
def resolved (depth : Nat) : Markup → Element
  | .leaf tag attributes text =>
      .node tag attributes (WrittenElement.textOf (Text.unifyLineEnds text.toList)) []
  | .branch tag children =>
      .node tag []
        (WrittenElement.textOf (if children.isEmpty then [] else lineBreak (depth + 1)))
        (resolvedAll (depth + 1) children)

/-- The elements that are read inside another, their names resolved. -/
def resolvedAll (depth : Nat) : List Markup → List Element
  | [] => []
  | child :: rest => child.resolved depth :: resolvedAll depth rest

end

end Markup

/-! ### Names and values without declarations -/

section Plain

variable {name : String}

theorem divide_of_plain (plain : isPlainName name = true) : Scope.divide name = none := by
  rw [Scope.divide, dropWhile_colon plain]

theorem declaredPrefix?_of_plain (plain : isPlainName name = true) :
    Scope.declaredPrefix? name = none := by
  rw [Scope.declaredPrefix?, divide_of_plain plain, if_neg]
  rw [isPlainName, Bool.and_eq_true, bne_iff_ne] at plain
  simpa using plain.2

theorem elementName_of_plain (plain : isPlainName name = true) :
    Scope.initial.elementName name = some name := by
  rw [Scope.elementName, divide_of_plain plain]
  rfl

/-- Where each item of a list has a result, so has the list. -/
theorem mapM_of_forall {α β : Type} {reading : α → Option β} (result : α → β) {items : List α}
    (each : ∀ item ∈ items, reading item = some (result item)) :
    items.mapM reading = some (items.map result) := by
  induction items with
  | nil => rfl
  | cons first rest inductionHypothesis =>
      rw [List.mapM_cons, each first List.mem_cons_self,
        inductionHypothesis fun item member => each item (List.mem_cons_of_mem _ member)]
      rfl

variable {values : List (String × String)}

theorem within_of_plain (plain : ∀ entry ∈ values, isPlainName entry.1 = true) (scope : Scope) :
    scope.within values = some scope := by
  induction values with
  | nil => rfl
  | cons entry rest inductionHypothesis =>
      rw [Scope.within, declaredPrefix?_of_plain (plain entry List.mem_cons_self)]
      exact inductionHypothesis fun other member => plain other (List.mem_cons_of_mem _ member)

theorem attributes_of_plain (plain : ∀ entry ∈ values, isPlainName entry.1 = true)
    (distinct : (values.map Prod.fst).Nodup) (scope : Scope) :
    scope.attributes values = some values := by
  have proper : values.filter (fun entry => (Scope.declaredPrefix? entry.1).isNone) = values := by
    rw [List.filter_eq_self]
    intro entry member
    rw [declaredPrefix?_of_plain (plain entry member)]
    rfl
  have named : values.mapM (fun entry =>
      (scope.attributeName entry.1).map fun name => (name, entry.2)) = some values := by
    rw [mapM_of_forall id, List.map_id]
    intro entry member
    rw [Scope.attributeName, divide_of_plain (plain entry member)]
    rfl
  rw [Scope.attributes, proper, named, Option.bind_some, if_pos distinct]

/-- Without declarations, the values of attributes are the ones that were written. -/
theorem valuesOf_written (strict : Bool) (tag : String) {values : List (String × String)}
    (distinct : (values.map Prod.fst).Nodup) :
    ContentRules.valuesOf { attributes := [], strict } tag (values.map Piece.writtenAttribute) =
      some values := by
  have names : (values.map Piece.writtenAttribute).map (·.name) = values.map Prod.fst := by
    rw [List.map_map]
    rfl
  have read : (values.map Piece.writtenAttribute).mapM (fun entry =>
      (ValuePart.value strict true entry.value).map fun value => (entry.name, value)) =
        some values := by
    rw [List.mapM_map, mapM_of_forall id, List.map_id]
    intro entry _
    rw [Function.comp_apply, Piece.writtenAttribute, ValuePart.value_written,
      Option.map_some, String.ofList_toList]
    rfl
  rw [ContentRules.valuesOf]
  simp only [names, if_pos distinct, ContentRules.isCharacterData, List.find?_nil,
    List.filterMap_nil, List.append_nil, read]
  rfl

end Plain

/-! ### Resolving the element -/

namespace Markup

theorem resolve_of_parts {rules : ContentRules} {name : String}
    {written : List WrittenAttribute} {text : List Char} {children : List WrittenElement}
    {values : List (String × String)} {resolvedChildren : List Element}
    (valued : rules.valuesOf name written = some values)
    (plain : ∀ entry ∈ values, isPlainName entry.1 = true)
    (distinct : (values.map Prod.fst).Nodup) (plainTag : isPlainName name = true)
    (inside : WrittenElement.resolveAll rules Scope.initial children = some resolvedChildren) :
    (WrittenElement.node name written text children).resolve rules Scope.initial =
      some (.node name values (WrittenElement.textOf text) resolvedChildren) := by
  rw [WrittenElement.resolve, valued]
  simp only
  rw [within_of_plain plain]
  simp only
  rw [elementName_of_plain plainTag, attributes_of_plain plain distinct, inside]

mutual

/-- Without declarations, the names of an element are the ones that were written. -/
theorem resolve_element (strict : Bool) (depth : Nat) :
    (markup : Markup) → markup.isPlain = true →
      (markup.element depth).resolve { attributes := [], strict } Scope.initial =
        some (markup.resolved depth)
  | .leaf tag attributes text, plain => by
      simp only [isPlain, Bool.and_eq_true, List.all_eq_true, decide_eq_true_eq] at plain
      exact resolve_of_parts (valuesOf_written strict tag plain.2) plain.1.2 plain.2 plain.1.1
        rfl
  | .branch tag children, plain => by
      rw [isPlain, Bool.and_eq_true] at plain
      have vacant : ([] : List (String × String)).map Prod.fst |>.Nodup := List.nodup_nil
      exact resolve_of_parts (valuesOf_written strict tag vacant) (by simp) vacant plain.1
        (resolve_elements strict (depth + 1) children plain.2)

theorem resolve_elements (strict : Bool) (depth : Nat) :
    (children : List Markup) → areAllPlain children = true →
      WrittenElement.resolveAll { attributes := [], strict } Scope.initial
        (elements depth children) = some (resolvedAll depth children)
  | [], _ => rfl
  | child :: rest, plain => by
      rw [areAllPlain, Bool.and_eq_true] at plain
      rw [elements, WrittenElement.resolveAll, resolve_element strict depth child plain.1,
        resolve_elements strict depth rest plain.2]
      rfl

end

end Markup

/-! ### Reading the document -/

/-- The first octet of a character other than the null is not zero. -/
theorem encodeCharacter_begins {character : Char} (proper : character ≠ '\x00') :
    ∃ octet rest, Text.Utf8.encodeCharacter character = octet :: rest ∧ octet ≠ 0 := by
  have positive : character.toNat ≠ 0 := fun null => proper (Char.toNat_inj.mp null)
  have bounded : character.toNat < 0x110000 := by
    have valid := Text.Utf8.toNat_cases character
    omega
  have nonzero : ∀ {code : Nat}, code ≠ 0 → code < 256 → UInt8.ofNat code ≠ 0 := by
    intro code positive small zero
    have value := congrArg UInt8.toNat zero
    rw [UInt8.toNat_ofNat_of_lt' small] at value
    exact positive value
  unfold Text.Utf8.encodeCharacter
  simp only
  split
  · exact ⟨_, _, rfl, nonzero positive (by omega)⟩
  · split
    · exact ⟨_, _, rfl, nonzero (by omega) (by omega)⟩
    · split
      · exact ⟨_, _, rfl, nonzero (by omega) (by omega)⟩
      · exact ⟨_, _, rfl, nonzero (by omega) (by omega)⟩

theorem detect_of_nonzero {octet : UInt8} (nonzero : octet ≠ 0) (rest : List UInt8) :
    Encoding.detect (0x3C :: octet :: rest) = (.utf8, 0x3C :: octet :: rest) := by
  rw [Encoding.detect]
  · exact fun _ same => absurd (List.cons.inj same).1 (by decide)
  · exact fun _ same => absurd (List.cons.inj same).1 (by decide)
  · exact fun _ same => absurd (List.cons.inj same).1 (by decide)
  · exact fun _ _ same => absurd (List.cons.inj same).1 (by decide)
  · exact fun _ _ same => nonzero (List.cons.inj (List.cons.inj same).2).1

/-- What begins with a start tag declares nothing, and its characters are those of its UTF-8
form. -/
theorem openDocument_of_start (settled : Bool) {first : Char} {rest : List Char}
    (start : isNameStart first = true) :
    openDocument settled (('<' :: first :: rest).flatMap Text.Utf8.encodeCharacter) =
      .ok ({}, '<' :: first :: rest) := by
  have proper : first ≠ '\x00' := by
    rintro rfl
    revert start
    decide
  have notQuestion : first ≠ '?' := by
    rintro rfl
    revert start
    decide
  obtain ⟨octet, further, encoded, nonzero⟩ := encodeCharacter_begins proper
  have octets : ('<' :: first :: rest).flatMap Text.Utf8.encodeCharacter =
      0x3C :: octet :: (further ++ rest.flatMap Text.Utf8.encodeCharacter) := by
    rw [List.flatMap_cons, List.flatMap_cons, encoded]
    rfl
  have detected := octets ▸ detect_of_nonzero nonzero _
  have body : Declaration.body? ('<' :: first :: rest) = some none := by
    rw [Declaration.body?]
    intro behind same
    exact notQuestion (List.cons.inj (List.cons.inj same).2).1
  rw [openDocument, detected]
  simp only [Encoding.decode, Encoding.decodeUtf8_flatMap, body]

namespace Markup

/-- The characters of a document: an outermost element and the line end after it. -/
def document (markup : Markup) : List Char := markup.write 0 ++ ['\n']

theorem document_begins {markup : Markup} (plain : markup.isPlain = true) :
    ∃ first rest, markup.document = '<' :: first :: rest ∧ isNameStart first = true := by
  cases markup with
  | leaf tag attributes text =>
      simp only [isPlain, Bool.and_eq_true] at plain
      obtain ⟨first, rest, spelled, start⟩ := isNameStart_head plain.1.1
      rw [document, write, spelled]
      split
      · exact ⟨first, _, rfl, start⟩
      · exact ⟨first, _, rfl, start⟩
  | branch tag children =>
      rw [isPlain, Bool.and_eq_true] at plain
      obtain ⟨first, rest, spelled, start⟩ := isNameStart_head plain.1
      rw [document, write, spelled]
      split
      · exact ⟨first, _, rfl, start⟩
      · exact ⟨first, _, rfl, start⟩

/-- The content of a document is its outermost element, if all characters are allowed. -/
theorem readContent_document (strict : Bool) {tag : String} {children : List Markup}
    (plain : isPlain (.branch tag children) = true) (proper : children.isEmpty = false) :
    readContent { attributes := [], strict } (document (.branch tag children)) =
      if isAllowed (.branch tag children) then some (resolved 0 (.branch tag children))
      else none := by
  have ending : Piece.readAll ['\n'] = some [.text ['\n']] := by
    have one : Piece.read ['\n'] = some (.text ['\n'], []) := rfl
    rw [Piece.readAll_of_read one, Piece.readAll]
    rfl
  rw [readContent, document, readAll_write 0 ['\n'] _ plain, ending]
  by_cases allowed : isAllowed (.branch tag children) = true
  · rw [if_pos allowed, if_pos allowed, Option.map_some, Option.bind_some, read_pieces 0 tag proper]
    simp only
    rw [if_pos (by decide), resolve_element strict 0 _ plain]
  · rw [if_neg allowed, if_neg allowed, Option.bind_none]

/-- A written document is read as its outermost element, as text and as octets alike, if all
characters are allowed; otherwise it is malformed. -/
theorem read_document {tag : String} {children : List Markup}
    (plain : isPlain (.branch tag children) = true) (proper : children.isEmpty = false)
    {source : Document}
    (written : source = .text (String.ofList (document (.branch tag children))) ∨
      source = .octets (Text.Utf8.encode (String.ofList (document (.branch tag children))))) :
    source.read =
      if isAllowed (.branch tag children) then .ok (resolved 0 (.branch tag children))
      else .error .malformed := by
  obtain ⟨first, rest, begins, start⟩ := document_begins plain
  have opened (settled : Bool) : openDocument settled
      (Text.Utf8.encode (String.ofList (document (.branch tag children)))) =
        .ok ({}, document (.branch tag children)) := by
    rw [Text.Utf8.encode, String.toList_ofList, begins]
    exact openDocument_of_start settled start
  have characters : readCharacters {} (document (.branch tag children)) =
      if isAllowed (.branch tag children) then .ok (resolved 0 (.branch tag children))
      else .error .malformed := by
    have prolog : ({} : Prolog).read (document (.branch tag children)) =
        .ok ({}, document (.branch tag children)) := by
      have begun : Prolog.beginsElement ('<' :: first :: rest) = true := start
      rw [begins, Prolog.read, if_pos begun]
      rfl
    rw [readCharacters, prolog]
    simp only
    have content := readContent_document true plain proper
    rw [show ({} : Prolog).contentRules = { attributes := [], strict := true } from rfl, content]
    by_cases allowed : isAllowed (.branch tag children) = true
    · rw [if_pos allowed, if_pos allowed]
    · rw [if_neg allowed, if_neg allowed]
  rcases written with rfl | rfl
  · rw [Document.read, opened, Except.bind]
    exact characters
  · rw [Document.read, opened, Except.bind]
    exact characters

end Markup

end GeoBridge.Xml
