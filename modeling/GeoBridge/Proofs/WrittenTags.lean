import GeoBridge.Proofs.TrimmedText
import GeoBridge.Xml.Document
import GeoBridge.Xml.Writer

/-!
Owns the tags that written elements are read as.

Owns:
- the references that escaped characters are read as;
- the names that need no prefix and declare nothing;
- the attributes and the tags, each read back whatever follows it.
-/

namespace GeoBridge.Xml

/-! ### Escapes -/

namespace Markup

/-- Whether a character of text is written as a reference. -/
def isEscapedInText (character : Char) : Bool :=
  character == '&' || character == '<' || character == '>'

/-- Whether a character of an attribute value is written as a reference. -/
def isEscapedInValue (character : Char) : Bool :=
  character == '"' || character == '\r' || character == '\n' || character == '\t'
    || isEscapedInText character

theorem escapedText_of_plain {character : Char} (plain : isEscapedInText character = false) :
    escapedText character = [character] := by
  simp only [isEscapedInText, Bool.or_eq_false_iff, beq_eq_false_iff_ne] at plain
  obtain ⟨⟨ampersand, less⟩, greater⟩ := plain
  unfold escapedText
  split
  · exact absurd rfl ampersand
  · exact absurd rfl less
  · exact absurd rfl greater
  · rfl

theorem escapedText_of_escaped {character : Char} (escaped : isEscapedInText character = true)
    (rest : List Char) :
    ∃ behind, escapedText character ++ rest = '&' :: behind ∧
      Reference.read behind = some (.character character, rest) := by
  simp only [isEscapedInText, Bool.or_eq_true, beq_iff_eq] at escaped
  rcases escaped with (rfl | rfl) | rfl <;> exact ⟨_, rfl, rfl⟩

theorem escapedValue_of_plain {character : Char} (plain : isEscapedInValue character = false) :
    escapedValue character = [character] := by
  simp only [isEscapedInValue, Bool.or_eq_false_iff, beq_eq_false_iff_ne] at plain
  obtain ⟨⟨⟨⟨quote, return_⟩, feed⟩, tab⟩, plain⟩ := plain
  unfold escapedValue
  split
  · exact absurd rfl quote
  · exact absurd rfl return_
  · exact absurd rfl feed
  · exact absurd rfl tab
  · exact escapedText_of_plain plain

theorem escapedValue_of_escaped {character : Char} (escaped : isEscapedInValue character = true)
    (rest : List Char) :
    ∃ behind, escapedValue character ++ rest = '&' :: behind ∧
      Reference.read behind = some (.character character, rest) := by
  simp only [isEscapedInValue, isEscapedInText, Bool.or_eq_true, beq_iff_eq] at escaped
  rcases escaped with (((rfl | rfl) | rfl) | rfl) | (rfl | rfl) | rfl <;> exact ⟨_, rfl, rfl⟩

theorem isAllowed_of_escaped {character : Char} (escaped : isEscapedInValue character = true) :
    isAllowed character = true := by
  simp only [isEscapedInValue, isEscapedInText, Bool.or_eq_true, beq_iff_eq] at escaped
  rcases escaped with (((rfl | rfl) | rfl) | rfl) | (rfl | rfl) | rfl <;> rfl

/-- No written value ends its own quotes, and none holds a line end. -/
theorem notMem_flatMap_escapedValue {mark : Char} (marks : mark = '"' ∨ mark = '\r')
    (characters : List Char) : mark ∉ characters.flatMap escapedValue := by
  intro member
  obtain ⟨character, -, inside⟩ := List.mem_flatMap.mp member
  by_cases escaped : isEscapedInValue character = true
  · simp only [isEscapedInValue, isEscapedInText, Bool.or_eq_true, beq_iff_eq] at escaped
    revert inside
    rcases marks with rfl | rfl <;>
      rcases escaped with (((rfl | rfl) | rfl) | rfl) | (rfl | rfl) | rfl <;> decide
  · rw [Bool.not_eq_true] at escaped
    rw [escapedValue_of_plain escaped, List.mem_singleton] at inside
    subst inside
    rcases marks with rfl | rfl <;> cases escaped

end Markup

/-! ### Names -/

/-- Whether a text can be a name without a prefix that declares nothing. -/
def isPlainName (name : String) : Bool := isLocalName name.toList && name != "xmlns"

section Names

variable {name : String}

theorem isNameStart_head (plain : isPlainName name = true) :
    ∃ first rest, name.toList = first :: rest ∧ isNameStart first = true := by
  rw [isPlainName, Bool.and_eq_true] at plain
  cases characters : name.toList with
  | nil => simp [characters, isLocalName] at plain
  | cons first rest =>
      rw [characters, isLocalName, Bool.and_eq_true] at plain
      exact ⟨first, rest, rfl, plain.1.1⟩

theorem isNameCharacter_of_mem (plain : isPlainName name = true) :
    ∀ character ∈ name.toList, isNameCharacter character = true := by
  rw [isPlainName, Bool.and_eq_true] at plain
  intro character member
  cases characters : name.toList with
  | nil => simp [characters] at member
  | cons first rest =>
      rw [characters] at plain member
      rw [isLocalName, Bool.and_eq_true] at plain
      rcases List.mem_cons.mp member with rfl | later
      · rw [isNameCharacter, plain.1.1]
        rfl
      · exact List.all_eq_true.mp plain.1.2 character later

theorem isNameOrColon_of_mem (plain : isPlainName name = true) :
    ∀ character ∈ name.toList, isNameOrColon character = true := by
  intro character member
  rw [isNameOrColon, isNameCharacter_of_mem plain character member, Bool.or_true]

theorem ne_of_mem_name (plain : isPlainName name = true) {mark : Char}
    (barred : isNameCharacter mark = false) : ∀ character ∈ name.toList, character ≠ mark := by
  rintro character member rfl
  rw [isNameCharacter_of_mem plain character member] at barred
  cases barred

theorem isNameCharacter_colon : isNameCharacter ':' = false := rfl

/-- A plain name is not divided. -/
theorem dropWhile_colon (plain : isPlainName name = true) :
    name.toList.dropWhile (· != ':') = [] := by
  rw [List.dropWhile_eq_nil_iff]
  intro character member
  simpa using ne_of_mem_name plain isNameCharacter_colon character member

theorem isQualifiedName_of_plain (plain : isPlainName name = true) :
    isQualifiedName name.toList = true := by
  rw [isQualifiedName, dropWhile_colon plain]
  rw [isPlainName, Bool.and_eq_true] at plain
  exact plain.1

theorem ne_of_isNameStart {first mark : Char} (start : isNameStart first = true)
    (barred : isNameStart mark = false) : first ≠ mark := by
  rintro rfl
  rw [barred] at start
  cases start

end Names

/-! ### Attributes -/

namespace ValuePart

/-- The part that a character of a written value is read as. -/
def ofWritten (character : Char) : ValuePart :=
  if Markup.isEscapedInValue character then .referred character else .literal character

theorem readAll_of_reference {behind rest : List Char} {character : Char}
    (found : Reference.read behind = some (.character character, rest)) :
    readAll ('&' :: behind) = (readAll rest).map (.referred character :: ·) := by
  rw [readAll]
  split
  · next missing =>
      rw [found] at missing
      cases missing
  · next same =>
      rw [found] at same
      cases same
      rfl

/-- A written value is read back part by part, if all its characters are allowed. -/
theorem readAll_written (characters : List Char) :
    readAll (characters.flatMap Markup.escapedValue) =
      if characters.all isAllowed then some (characters.map ofWritten) else none := by
  induction characters with
  | nil => rw [List.flatMap_nil, readAll]; rfl
  | cons character rest inductionHypothesis =>
      rw [List.flatMap_cons, List.all_cons, List.map_cons]
      by_cases escaped : Markup.isEscapedInValue character = true
      · obtain ⟨behind, front, found⟩ := Markup.escapedValue_of_escaped escaped
          (rest.flatMap Markup.escapedValue)
        rw [front, readAll_of_reference found, inductionHypothesis,
          Markup.isAllowed_of_escaped escaped, Bool.true_and, ofWritten, if_pos escaped]
        split <;> rfl
      · rw [Bool.not_eq_true] at escaped
        have notReference : character ≠ '&' := by rintro rfl; cases escaped
        have notMarkup : (character == '<') = false := by
          rw [beq_eq_false_iff_ne]
          rintro rfl
          cases escaped
        have spaced : (if isSpace character then ' ' else character) = character := by
          by_cases space : isSpace character = true
          · simp only [isSpace, Bool.or_eq_true, beq_iff_eq] at space
            rcases space with ((rfl | rfl) | rfl) | rfl
            · rfl
            · cases escaped
            · cases escaped
            · cases escaped
          · rw [if_neg space]
        have literal : ofWritten character = .literal character := by
          rw [ofWritten, if_neg (by simp [escaped])]
        rw [Markup.escapedValue_of_plain escaped, List.singleton_append, readAll, notMarkup,
          spaced, inductionHypothesis, literal]
        · cases isAllowed character <;> cases rest.all isAllowed <;> rfl
        · exact notReference

theorem value_written (strict : Bool) (characters : List Char) :
    value strict true (characters.map ofWritten) = some (String.ofList characters) := by
  have whole : ValuePart.characters strict (characters.map ofWritten) = some characters := by
    induction characters with
    | nil => rfl
    | cons character rest inductionHypothesis =>
        rw [List.map_cons, ofWritten]
        split <;> rw [ValuePart.characters, inductionHypothesis] <;> rfl
  rw [value, whole]
  rfl

end ValuePart

namespace Piece

/-- An attribute of a written element, as it is read. -/
def writtenAttribute (entry : String × String) : WrittenAttribute :=
  ⟨entry.1, entry.2.toList.map ValuePart.ofWritten⟩

variable {name : String}

theorem readAttribute_written (plain : isPlainName name = true) (value : String)
    (rest : List Char) :
    readAttribute (name.toList ++ '=' :: '"' ::
        (value.toList.flatMap Markup.escapedValue ++ '"' :: rest)) =
      if value.toList.all isAllowed then some (writtenAttribute (name, value), rest) else none := by
  have equals : isNameOrColon '=' = false := rfl
  have proper := isNameOrColon_of_mem plain
  have inside : ∀ character ∈ value.toList.flatMap Markup.escapedValue,
      (character != '"') = true := by
    intro character member
    rw [bne_iff_ne]
    rintro rfl
    exact Markup.notMem_flatMap_escapedValue (.inl rfl) _ member
  have unified : Text.unifyLineEnds (value.toList.flatMap Markup.escapedValue) =
      value.toList.flatMap Markup.escapedValue :=
    Text.unifyLineEnds_eq_self_iff.mpr (Markup.notMem_flatMap_escapedValue (.inr rfl) _)
  unfold readAttribute
  simp only
  rw [takeWhile_cut proper equals, dropWhile_cut proper equals, isQualifiedName_of_plain plain]
  simp only [Bool.not_true, Bool.false_eq_true, if_false]
  rw [List.dropWhile_cons_of_neg (by decide)]
  simp only
  rw [List.dropWhile_cons_of_neg (by decide)]
  simp only [beq_self_eq_true, Bool.true_or, if_true]
  rw [takeWhile_cut inside (by decide), dropWhile_cut inside (by decide), ValuePart.ofValue,
    unified, ValuePart.readAll_written]
  simp only [String.ofList_toList]
  split <;> rfl


/-- A tag reads on past the space before its next attribute. -/
theorem readAttributes_of_space {first : Char} {begun : List Char}
    (start : isNameStart first = true) :
    readAttributes (' ' :: first :: begun) =
      (readAttribute (first :: begun)).bind fun found =>
        (readAttributes found.2).map fun parts => (found.1 :: parts.1, parts.2) := by
  have spaceless : (' ' :: first :: begun).dropWhile isSpace = first :: begun := by
    have proper : isSpace first = false := by
      simp only [isSpace, Bool.or_eq_false_iff, beq_eq_false_iff_ne]
      refine ⟨⟨⟨?_, ?_⟩, ?_⟩, ?_⟩ <;> exact ne_of_isNameStart start rfl
    rw [List.dropWhile_cons_of_pos (by decide), List.dropWhile_cons_of_neg (by simp [proper])]
  rw [readAttributes]
  split
  · next same =>
      rw [spaceless] at same
      exact absurd (List.cons.inj same).1 (ne_of_isNameStart start rfl)
  · next same =>
      rw [spaceless] at same
      exact absurd (List.cons.inj same).1 (ne_of_isNameStart start rfl)
  · rw [if_neg (by simp [spaceless])]
    split
    · next missing =>
        rw [spaceless] at missing
        rw [missing, Option.bind_none]
    · next found =>
        rw [spaceless] at found
        rw [found, Option.bind_some]
        split
        · next missing => rw [missing, Option.map_none]
        · next ended => rw [ended, Option.map_some]

/-- Whether all characters of an attribute's value are allowed. -/
def holdsAllowed (entry : String × String) : Bool := entry.2.toList.all isAllowed

/-- The attributes of a written tag are read back up to its end, whatever the end is. -/
theorem readAttributes_written {attributes : List (String × String)}
    (plain : ∀ entry ∈ attributes, isPlainName entry.1 = true) {ending rest : List Char}
    {closed : Bool} (ended : readAttributes ending = some ([], closed, rest)) :
    readAttributes (attributes.flatMap Markup.writeAttribute ++ ending) =
      if attributes.all holdsAllowed then some (attributes.map writtenAttribute, closed, rest)
      else none := by
  induction attributes with
  | nil => exact ended
  | cons entry further inductionHypothesis =>
      obtain ⟨first, begun, name, start⟩ := isNameStart_head (plain entry List.mem_cons_self)
      have spelled : (entry :: further).flatMap Markup.writeAttribute ++ ending =
          ' ' :: (entry.1.toList ++ '=' :: '"' :: (entry.2.toList.flatMap Markup.escapedValue ++
            '"' :: (further.flatMap Markup.writeAttribute ++ ending))) := by
        simp [Markup.writeAttribute]
      have one := readAttribute_written (plain entry List.mem_cons_self) entry.2
        (further.flatMap Markup.writeAttribute ++ ending)
      rw [spelled, name, List.cons_append, readAttributes_of_space start, ← List.cons_append,
        ← name, one, List.all_cons, List.map_cons]
      by_cases allowed : entry.2.toList.all isAllowed = true
      · rw [if_pos allowed, Option.bind_some, holdsAllowed, allowed, Bool.true_and,
          inductionHypothesis fun other member => plain other (List.mem_cons_of_mem _ member)]
        split <;> rfl
      · rw [if_neg allowed, Option.bind_none, holdsAllowed, Bool.not_eq_true _ |>.mp allowed]
        rfl

theorem readAttributes_opened (rest : List Char) :
    readAttributes ('>' :: rest) = some ([], false, rest) := by
  rw [readAttributes]
  rfl

theorem readAttributes_closed (rest : List Char) :
    readAttributes (' ' :: '/' :: '>' :: rest) = some ([], true, rest) := by
  rw [readAttributes]
  rfl

/-! ### Tags -/

/-- What begins with a mark and a name is a start tag. -/
theorem read_of_start {first : Char} (start : isNameStart first = true) (rest : List Char) :
    read ('<' :: first :: rest) = readOpening (first :: rest) := by
  rw [read]
  · exact fun _ same => ne_of_isNameStart start rfl (List.cons.inj same).1
  · exact fun _ same => ne_of_isNameStart start rfl (List.cons.inj same).1
  · exact fun _ same => ne_of_isNameStart start rfl (List.cons.inj same).1
  · exact fun _ same => ne_of_isNameStart start rfl (List.cons.inj same).1

/-- A start tag is read back up to its end, whatever the end is. -/
theorem read_opening (plain : isPlainName name = true) {attributes : List (String × String)}
    (plainNames : ∀ entry ∈ attributes, isPlainName entry.1 = true) {mark : Char}
    {ending rest : List Char} (stops : isNameOrColon mark = false) {closed : Bool}
    (ended : readAttributes (mark :: ending) = some ([], closed, rest)) :
    read ('<' :: (name.toList ++ (attributes.flatMap Markup.writeAttribute ++ mark :: ending))) =
      if attributes.all holdsAllowed then
        some (.opening name (attributes.map writtenAttribute) closed, rest)
      else none := by
  obtain ⟨first, begun, spelled, start⟩ := isNameStart_head plain
  obtain ⟨next, behind, follows, stops⟩ : ∃ next behind,
      attributes.flatMap Markup.writeAttribute ++ mark :: ending = next :: behind ∧
        isNameOrColon next = false := by
    cases attributes with
    | nil => exact ⟨mark, ending, rfl, stops⟩
    | cons entry further => exact ⟨' ', _, rfl, rfl⟩
  rw [follows, spelled, List.cons_append, read_of_start start, ← List.cons_append, ← spelled,
    readOpening]
  rw [takeWhile_cut (isNameOrColon_of_mem plain) stops,
    dropWhile_cut (isNameOrColon_of_mem plain) stops, isQualifiedName_of_plain plain, ← follows,
    readAttributes_written plainNames ended, String.ofList_toList]
  simp only [Bool.not_true, Bool.false_eq_true, if_false]
  by_cases allowed : attributes.all holdsAllowed = true
  · rw [if_pos allowed, if_pos allowed]
  · rw [if_neg allowed, if_neg allowed]

/-- An end tag is read back. -/
theorem read_closing (plain : isPlainName name = true) (rest : List Char) :
    read (Markup.endTag name ++ rest) = some (.closing name, rest) := by
  obtain ⟨first, begun, spelled, -⟩ := isNameStart_head plain
  have stops : isNameOrColon '>' = false := rfl
  have endTag : Markup.endTag name ++ rest = '<' :: '/' :: (name.toList ++ '>' :: rest) := by
    simp [Markup.endTag]
  rw [endTag, read, readClosing]
  rw [takeWhile_cut (isNameOrColon_of_mem plain) stops,
    dropWhile_cut (isNameOrColon_of_mem plain) stops, List.dropWhile_cons_of_neg (by decide)]
  simp only [spelled, List.isEmpty_cons, Bool.false_eq_true, if_false]
  rw [← spelled, String.ofList_toList]

end Piece

end GeoBridge.Xml
