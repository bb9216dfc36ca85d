import GeoBridge.Proofs.WrittenConfigurations

/-!
Owns the way of configurations through their documents and back.

Owns:
- the characters that documents may hold, by their code points;
- writable configurations: the conditions on their texts;
- the round trip, which the writable configurations come through unchanged, and no others.
-/

namespace GeoBridge

open Xml (Markup)
open Text (throughElement)

/-! ### Writable configurations -/

/-- The characters that a document of version 1.0 may hold. -/
def Xml.IsCharacter (character : Char) : Prop :=
  let code := character.toNat
  code = 0x9 ∨ code = 0xA ∨ code = 0xD ∨ 0x20 ≤ code ∧ code ≤ 0xD7FF ∨
    0xE000 ≤ code ∧ code ≤ 0xFFFD ∨ 0x10000 ≤ code ∧ code ≤ 0x10FFFF

theorem Xml.isAllowed_iff (character : Char) :
    Xml.isAllowed character = true ↔ Xml.IsCharacter character := by
  have valid := Text.Utf8.toNat_cases character
  unfold Xml.isAllowed Xml.IsCharacter
  simp only
  split
  · simp only [Bool.or_eq_true, beq_iff_eq]
    omega
  · simp only [Bool.and_eq_true, bne_iff_ne]
    omega

theorem Xml.all_holds_iff {texts : List String} :
    texts.all Xml.holds = true ↔
      ∀ text ∈ texts, ∀ character ∈ text.toList, Xml.IsCharacter character := by
  simp only [List.all_eq_true, Xml.holds, Xml.isAllowed_iff]

/-! ### Texts that come back -/

theorem map_eq_self_iff {α : Type} {change : α → α} {items : List α} :
    items.map change = items ↔ ∀ item ∈ items, change item = item := by
  have same := @List.map_inj_left _ _ items change id
  rwa [List.map_id] at same

theorem option_map_eq_self_iff {α : Type} {change : α → α} {item : Option α} :
    item.map change = item ↔ ∀ present ∈ item.toList, change present = present := by
  cases item <;> simp

theorem Format.throughDocument_eq_iff (format : Format) :
    format.throughDocument = format ↔ ∀ text ∈ format.texts, throughElement text = text := by
  obtain ⟨toolCode, publicName, extension, singleFile, mimeType, kind, options⟩ := format
  rw [throughDocument, mk.injEq]
  simp only [texts, List.mem_append, List.mem_cons, List.not_mem_nil, or_false, or_imp,
    forall_and, forall_eq, option_map_eq_self_iff, map_eq_self_iff, true_and, and_assoc]

namespace Configuration

theorem throughDocument_eq_iff (configuration : Configuration) :
    configuration.throughDocument = configuration ↔
      ∀ text ∈ configuration.elementTexts, throughElement text = text := by
  obtain ⟨executable, dataPath, environment, formats⟩ := configuration
  rw [throughDocument, mk.injEq]
  simp only [elementTexts, List.mem_append, List.mem_cons, List.not_mem_nil, or_false, or_imp,
    forall_and, forall_eq, option_map_eq_self_iff, map_eq_self_iff, true_and, and_assoc,
    List.mem_flatMap, Format.throughDocument_eq_iff]
  refine and_congr_right fun _ => and_congr_right fun _ => ?_
  constructor
  · intro all text member
    obtain ⟨format, there, inside⟩ := member
    exact all format there text inside
  · exact fun all format there text inside => all text ⟨format, there, inside⟩

/-- The texts that validation takes as they are, blanks around them included. -/
def freeTexts (configuration : Configuration) : List String :=
  configuration.dataPath.toList ++ configuration.formats.flatMap fun format =>
    format.extension.toList ++ format.mimeType.toList ++ format.options

/-- A configuration that comes back from its document as it was written. -/
structure IsWritable (configuration : Configuration) : Prop where
  allowed : ∀ text ∈ configuration.elementTexts ++ configuration.attributeTexts,
    ∀ character ∈ text.toList, Xml.IsCharacter character
  withoutReturns : ∀ text ∈ configuration.elementTexts, '\r' ∉ text.toList
  trimmed : ∀ text ∈ configuration.freeTexts, Text.trim text = text
  named : "" ∉ Association.keys configuration.environment

instance (configuration : Configuration) : Decidable configuration.IsWritable :=
  decidable_of_iff
    ((configuration.elementTexts ++ configuration.attributeTexts).all Xml.holds = true ∧
      (∀ text ∈ configuration.elementTexts, '\r' ∉ text.toList) ∧
        (∀ text ∈ configuration.freeTexts, Text.trim text = text) ∧
          "" ∉ Association.keys configuration.environment)
    ⟨fun ⟨allowed, withoutReturns, trimmed, named⟩ =>
        ⟨Xml.all_holds_iff.mp allowed, withoutReturns, trimmed, named⟩,
      fun ⟨allowed, withoutReturns, trimmed, named⟩ =>
        ⟨Xml.all_holds_iff.mpr allowed, withoutReturns, trimmed, named⟩⟩

/-- Names are trimmed from the outset, so that only the other texts have to be. -/
theorem trimmed_elementTexts_iff {configuration : Configuration}
    (normal : configuration.IsNormal) :
    (∀ text ∈ configuration.elementTexts, Text.trim text = text) ↔
      ∀ text ∈ configuration.freeTexts, Text.trim text = text := by
  simp only [elementTexts, freeTexts, Format.texts, List.mem_append, List.mem_flatMap,
    List.mem_cons, List.not_mem_nil, or_false]
  constructor
  · intro trimmed text member
    refine trimmed text ?_
    rcases member with path | ⟨format, there, inside⟩
    · exact .inl (.inr path)
    · exact .inr ⟨format, there, by tauto⟩
  · intro trimmed text member
    rcases member with (rfl | path) | ⟨format, there, ((((rfl | rfl) | inside) | inside) | inside)⟩
    · exact normal.executable.1
    · exact trimmed text (.inl path)
    · exact (normal.formats format there).toolCode.1
    · exact (normal.formats format there).publicName.1
    · exact trimmed text (.inr ⟨format, there, .inl (.inl inside)⟩)
    · exact trimmed text (.inr ⟨format, there, .inl (.inr inside)⟩)
    · exact trimmed text (.inr ⟨format, there, .inr inside⟩)

theorem isWritable_iff {configuration : Configuration} (normal : configuration.IsNormal) :
    configuration.IsWritable ↔ configuration.markup.isAllowed = true ∧
      "" ∉ Association.keys configuration.environment ∧
        configuration.throughDocument = configuration := by
  have allowed : configuration.markup.isAllowed = true ↔
      ∀ text ∈ configuration.elementTexts ++ configuration.attributeTexts,
        ∀ character ∈ text.toList, Xml.IsCharacter character := by
    rw [markup_isAllowed, Xml.all_holds_iff]
  have unchanged : configuration.throughDocument = configuration ↔
      (∀ text ∈ configuration.elementTexts, '\r' ∉ text.toList) ∧
        ∀ text ∈ configuration.freeTexts, Text.trim text = text := by
    simp only [throughDocument_eq_iff, Text.throughElement_eq_self_iff,
      ← trimmed_elementTexts_iff normal]
    exact ⟨fun both => ⟨fun text member => (both text member).1,
      fun text member => (both text member).2⟩, fun parts text member =>
        ⟨parts.1 text member, parts.2 text member⟩⟩
  rw [allowed, unchanged]
  exact ⟨fun writable => ⟨writable.allowed, writable.named, writable.withoutReturns,
    writable.trimmed⟩, fun parts => ⟨parts.1, parts.2.2.1, parts.2.2.2, parts.2.1⟩⟩

/-- What comes back from the document of a configuration. -/
theorem read_written {configuration : Configuration} (normal : configuration.IsNormal)
    {document : Xml.Document} (written : document = .text configuration.write ∨
      document = .octets (Text.Utf8.encode configuration.write)) :
    read document =
      if configuration.markup.isAllowed = false then .error (.rejected .malformed)
      else if "" ∈ Association.keys configuration.environment then
        .error (.rejected (.namelessVariable "variable"))
      else
        match Schema.uniquelyNamed configuration.throughDocument with
        | .valid accepted => .ok accepted
        | .invalid issues => .error (.rejected (.invalid issues)) := by
  have opened : document.read =
      if configuration.markup.isAllowed then .ok (configuration.markup.resolved 0)
      else .error .malformed :=
    Markup.read_document configuration.markup_isPlain rfl written
  rw [read, opened]
  cases configuration.markup.isAllowed with
  | false => rfl
  | true =>
      simp only [if_true, Bool.true_eq_false, if_false]
      rw [ofElement_markup normal]
      by_cases nameless : "" ∈ Association.keys configuration.environment
      · rw [if_pos nameless, if_pos nameless]
      · rw [if_neg nameless, if_neg nameless]
        cases Schema.uniquelyNamed configuration.throughDocument <;> rfl

/-- A configuration that passed validation comes back from its document, given as text or as octets
in UTF-8, if and only if it is writable. In every other case the document is rejected, or another
configuration comes back. -/
theorem read_write {payload : Payload} {configuration : Configuration}
    (valid : Schema.configuration payload = .valid configuration) {document : Xml.Document}
    (written : document = .text configuration.write ∨
      document = .octets (Text.Utf8.encode configuration.write)) :
    (read document = .ok configuration ↔ configuration.IsWritable) ∧
      (¬configuration.IsWritable →
        (∃ rejection, read document = .error (.rejected rejection)) ∨
          ∃ other, read document = .ok other ∧ other ≠ configuration) := by
  have normal := Schema.isNormal_of_configuration valid
  rw [isWritable_iff normal, read_written normal written]
  cases allowed : configuration.markup.isAllowed with
  | false => simp
  | true =>
      by_cases nameless : "" ∈ Association.keys configuration.environment
      · simp [nameless]
      · simp only [Bool.true_eq_false, if_false, nameless, not_false_eq_true, true_and]
        by_cases same : configuration.throughDocument = configuration
        · rw [same, normal.unique]
          simp
        · cases unique : Schema.uniquelyNamed configuration.throughDocument with
          | invalid issues => simp [same]
          | valid accepted =>
              obtain rfl := Schema.eq_of_uniquelyNamed unique
              simp [same]

/-- A configuration with the marks of documents in its texts and all kinds of white space in its
environment. -/
def marked : Configuration where
  executable := "a&b <c>"
  dataPath := some "d\"e]]>"
  environment := [("X\tY", "\r\n <&>\""), ("é", "")]
  formats := [{ toolCode := "T\nT", publicName := "P", options := ["", "-o 'x'"] }]

/-- A configuration with a space before its data path. -/
def padded : Configuration where
  executable := "a"
  dataPath := some " d"

/-- The marked configuration comes back from its octets, and the padded one from its text not. -/
theorem read_write_marked_and_padded :
    Schema.configuration (.mapping marked.entries) = .valid marked ∧
      read (.octets (Text.Utf8.encode marked.write)) = .ok marked ∧
        Schema.configuration (.mapping padded.entries) = .valid padded ∧
          ((∃ rejection, read (.text padded.write) = .error (.rejected rejection)) ∨
            ∃ other, read (.text padded.write) = .ok other ∧ other ≠ padded) := by
  have markedValid : Schema.configuration (.mapping marked.entries) = .valid marked := by
    decide +kernel
  have paddedValid : Schema.configuration (.mapping padded.entries) = .valid padded := by
    decide +kernel
  exact ⟨markedValid, (read_write markedValid (.inr rfl)).1.mpr (by decide +kernel), paddedValid,
    (read_write paddedValid (.inl rfl)).2 (by decide +kernel)⟩

end Configuration

end GeoBridge
