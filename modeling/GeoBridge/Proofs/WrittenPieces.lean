import GeoBridge.Proofs.WrittenTags

/-!
Owns the pieces that written content is read as.

Owns:
- the pieces of text: references for the characters that are escaped, and runs of the others;
- the reading of content that begins with a tag or with text, whatever follows;
- the text that the pieces add to the element around them.
-/

namespace GeoBridge.Xml

namespace Piece

/-! ### Reading one piece after the other -/

section Reading

variable {name : String}

theorem readAll_of_read {characters rest : List Char} {piece : Piece}
    (found : read characters = some (piece, rest)) :
    readAll characters = (readAll rest).map (piece :: ·) := by
  have proper : characters.isEmpty = false := by
    cases characters with
    | nil => cases found
    | cons _ _ => rfl
  rw [readAll, if_neg (by simp [proper])]
  split
  · next missing =>
      rw [found] at missing
      cases missing
  · next same =>
      rw [found] at same
      cases same
      rfl

theorem readAll_of_unread {characters : List Char} (proper : characters ≠ [])
    (unread : read characters = none) : readAll characters = none := by
  rw [readAll, if_neg (by simpa using proper)]
  split
  · rfl
  · next found =>
      rw [unread] at found
      cases found

theorem readAll_opening (plain : isPlainName name = true) {attributes : List (String × String)}
    (plainNames : ∀ entry ∈ attributes, isPlainName entry.1 = true) {mark : Char}
    {ending rest : List Char} (stops : isNameOrColon mark = false) {closed : Bool}
    (ended : readAttributes (mark :: ending) = some ([], closed, rest)) :
    readAll ('<' :: (name.toList ++ (attributes.flatMap Markup.writeAttribute ++ mark :: ending))) =
      if attributes.all holdsAllowed then
        (readAll rest).map (.opening name (attributes.map writtenAttribute) closed :: ·)
      else none := by
  have one := read_opening plain plainNames stops ended
  by_cases allowed : attributes.all holdsAllowed = true
  · rw [if_pos allowed] at one ⊢
    exact readAll_of_read one
  · rw [if_neg allowed] at one ⊢
    exact readAll_of_unread (by simp) one

theorem readAll_closing (plain : isPlainName name = true) (rest : List Char) :
    readAll (Markup.endTag name ++ rest) = (readAll rest).map (.closing name :: ·) :=
  readAll_of_read (read_closing plain rest)

end Reading

/-! ### Text -/

theorem isFreeOf_of_notMem {marker characters : List Char} {mark : Char} (part : mark ∈ marker)
    (absent : mark ∉ characters) : isFreeOf marker characters = true := by
  rw [isFreeOf, Option.isNone_iff_eq_none]
  induction characters with
  | nil => rfl
  | cons character rest inductionHypothesis =>
      have notHere : ¬marker.isPrefixOf (character :: rest) = true := fun begins =>
        absent ((List.isPrefixOf_iff_prefix.mp begins).subset part)
      rw [splitAtMarker, if_neg notHere,
        inductionHypothesis fun later => absent (List.mem_cons_of_mem _ later)]

theorem isTextCharacter_of_plain {character : Char}
    (plain : Markup.isEscapedInText character = false) : isTextCharacter character = true := by
  simp only [Markup.isEscapedInText, Bool.or_eq_false_iff, beq_eq_false_iff_ne] at plain
  simp [isTextCharacter, plain]

/-- A run of characters that stand for themselves is one piece of text, up to markup, a reference
or the end. -/
theorem read_run {first : Char} {rest behind : List Char}
    (plain : ∀ character ∈ first :: rest, Markup.isEscapedInText character = false)
    (stops : ∀ next more, behind = next :: more → isTextCharacter next = false) :
    read (first :: rest ++ behind) =
      if (first :: rest).all isAllowed then
        some (.text (Text.unifyLineEnds (first :: rest)), behind)
      else none := by
  have textual : ∀ character ∈ rest, isTextCharacter character = true := fun character member =>
    isTextCharacter_of_plain (plain character (List.mem_cons_of_mem _ member))
  have taken : (rest ++ behind).takeWhile isTextCharacter = rest ∧
      (rest ++ behind).dropWhile isTextCharacter = behind := by
    cases behind with
    | nil =>
        rw [List.append_nil]
        exact ⟨List.takeWhile_eq_self_iff.mpr textual, List.dropWhile_eq_nil_iff.mpr textual⟩
    | cons next more =>
        have stop := stops next more rfl
        exact ⟨takeWhile_cut textual stop, dropWhile_cut textual stop⟩
  have free : isFreeOf [']', ']', '>'] (first :: rest) = true := by
    have absent : '>' ∉ first :: rest := fun member => by cases plain _ member
    exact isFreeOf_of_notMem (by decide) absent
  have begins := isTextCharacter_of_plain (plain first List.mem_cons_self)
  rw [isTextCharacter, Bool.and_eq_true, bne_iff_ne, bne_iff_ne] at begins
  rw [List.cons_append, read]
  · rw [taken.1, taken.2, free, Bool.and_true]
  · exact fun _ mark _ => begins.1 mark
  · exact fun _ mark _ => begins.1 mark
  · exact fun _ mark _ => begins.1 mark
  · exact fun _ mark _ => begins.1 mark
  · exact begins.1
  · exact begins.2

theorem readAll_run {run behind : List Char} (proper : run ≠ [])
    (plain : ∀ character ∈ run, Markup.isEscapedInText character = false)
    (stops : ∀ next more, behind = next :: more → isTextCharacter next = false) :
    readAll (run ++ behind) =
      if run.all isAllowed then (readAll behind).map (.text (Text.unifyLineEnds run) :: ·)
      else none := by
  obtain ⟨first, rest, rfl⟩ := List.exists_cons_of_ne_nil proper
  have one := read_run plain stops
  by_cases allowed : (first :: rest).all isAllowed = true
  · rw [if_pos allowed] at one ⊢
    exact readAll_of_read one
  · rw [if_neg allowed] at one ⊢
    exact readAll_of_unread (by simp) one

/-- An escaped character is one reference. -/
theorem readAll_escaped {character : Char} (escaped : Markup.isEscapedInText character = true)
    (behind : List Char) :
    readAll (Markup.escapedText character ++ behind) =
      (readAll behind).map (.reference (.character character) :: ·) := by
  obtain ⟨begun, front, found⟩ := Markup.escapedText_of_escaped escaped behind
  have one : read ('&' :: begun) = some (.reference (.character character), behind) := by
    rw [read, found]
    rfl
  rw [front, readAll_of_read one]

/-- The pieces of written text: a reference for each escaped character, and one piece of text for
each run of others. -/
def textPieces : List Char → List Piece
  | [] => []
  | first :: rest =>
      if Markup.isEscapedInText first then .reference (.character first) :: textPieces rest
      else
        .text (Text.unifyLineEnds (first :: rest.takeWhile (!Markup.isEscapedInText ·))) ::
          textPieces (rest.dropWhile (!Markup.isEscapedInText ·))
  termination_by text => text.length
  decreasing_by
    · simp
    · exact Nat.lt_succ_of_le (dropWhile_length_le _ _)

/-- The part of a text behind a run of characters that stand for themselves begins with an escaped
one. -/
theorem isEscaped_of_dropWhile {text rest : List Char} {next : Char}
    (behind : text.dropWhile (!Markup.isEscapedInText ·) = next :: rest) :
    Markup.isEscapedInText next = true := by
  have stop := List.head?_dropWhile_not (!Markup.isEscapedInText ·) text
  rw [behind] at stop
  simpa using stop

theorem flatMap_escapedText_of_plain {run : List Char}
    (plain : ∀ character ∈ run, Markup.isEscapedInText character = false) :
    run.flatMap Markup.escapedText = run := by
  induction run with
  | nil => rfl
  | cons first rest inductionHypothesis =>
      rw [List.flatMap_cons, Markup.escapedText_of_plain (plain first List.mem_cons_self),
        inductionHypothesis fun character member => plain character (List.mem_cons_of_mem _ member),
        List.singleton_append]

/-- Written text behind a run of characters that stand for themselves begins with markup or with a
reference. -/
theorem isTextCharacter_behind_run {text behind more : List Char} {next : Char}
    (front : (text.dropWhile (!Markup.isEscapedInText ·)).flatMap Markup.escapedText ++
      '<' :: behind = next :: more) : isTextCharacter next = false := by
  cases further : text.dropWhile (!Markup.isEscapedInText ·) with
  | nil =>
      rw [further, List.flatMap_nil, List.nil_append, List.cons.injEq] at front
      rw [← front.1]
      rfl
  | cons character others =>
      obtain ⟨begun, written, -⟩ := Markup.escapedText_of_escaped
        (isEscaped_of_dropWhile further) (others.flatMap Markup.escapedText ++ '<' :: behind)
      rw [further, List.flatMap_cons, List.append_assoc, written, List.cons.injEq] at front
      rw [← front.1]
      rfl

/-- Written text is read back piece by piece, if all its characters are allowed. -/
theorem readAll_text (text behind : List Char) :
    readAll (text.flatMap Markup.escapedText ++ '<' :: behind) =
      if text.all isAllowed then (readAll ('<' :: behind)).map (textPieces text ++ ·)
      else none := by
  fun_induction textPieces text with
  | case1 => simp
  | case2 first rest escaped inductionHypothesis =>
      have allowed : isAllowed first = true :=
        Markup.isAllowed_of_escaped (by rw [Markup.isEscapedInValue, escaped, Bool.or_true])
      rw [List.flatMap_cons, List.append_assoc, readAll_escaped escaped, inductionHypothesis,
        List.all_cons, allowed, Bool.true_and]
      split
      · rw [Option.map_map]
        rfl
      · rfl
  | case3 first rest escaped inductionHypothesis =>
      let run := first :: rest.takeWhile (!Markup.isEscapedInText ·)
      have whole : first :: rest = run ++ rest.dropWhile (!Markup.isEscapedInText ·) := by
        rw [List.cons_append, List.takeWhile_append_dropWhile]
      have plain : ∀ character ∈ run, Markup.isEscapedInText character = false := by
        intro character member
        rcases List.mem_cons.mp member with rfl | later
        · simpa using escaped
        · simpa using List.mem_takeWhile_imp later
      rw [whole, List.flatMap_append, flatMap_escapedText_of_plain plain, List.append_assoc,
        readAll_run (List.cons_ne_nil _ _) plain fun _ _ => isTextCharacter_behind_run,
        inductionHypothesis, List.all_append]
      cases allowed : run.all isAllowed with
      | true =>
          rw [if_pos rfl, Bool.true_and]
          split
          · rw [Option.map_map]
            rfl
          · rfl
      | false => rfl

end Piece

/-! ### Text inside elements -/

namespace OpenElement

theorem addText_nil (element : OpenElement) : element.addText [] = element := by
  rw [addText, List.append_nil]
  split <;> rfl

theorem addText_addText (element : OpenElement) (first second : List Char) :
    (element.addText first).addText second = element.addText (first ++ second) := by
  by_cases childless : element.children.isEmpty = true
  · simp [addText, childless]
  · simp [addText, childless]

end OpenElement

/-- Written text adds itself to the element around it, its line ends unified. -/
theorem WrittenElement.readWithin_text (inner : OpenElement) (outer : List OpenElement)
    (text : List Char) (more : List Piece) :
    readWithin inner outer (Piece.textPieces text ++ more) =
      readWithin (inner.addText (Text.unifyLineEnds text)) outer more := by
  fun_induction Piece.textPieces text generalizing inner with
  | case1 => rw [List.nil_append, Text.unifyLineEnds, OpenElement.addText_nil]
  | case2 first rest escaped inductionHypothesis =>
      have noReturn : first ≠ '\r' := by rintro rfl; cases escaped
      rw [List.cons_append, readWithin, inductionHypothesis, OpenElement.addText_addText,
        List.singleton_append, Text.unifyLineEnds.eq_3 _ _ fun _ same _ => noReturn same,
        if_neg (by simpa using noReturn)]
  | case3 first rest escaped inductionHypothesis =>
      have apart : (rest.dropWhile (!Markup.isEscapedInText ·)).head? ≠ some '\n' := by
        intro feed
        obtain ⟨others, behind⟩ := List.head?_eq_some_iff.mp feed
        cases Piece.isEscaped_of_dropWhile behind
      rw [List.cons_append, readWithin, inductionHypothesis, OpenElement.addText_addText,
        ← Text.unifyLineEnds_append apart, List.cons_append, List.takeWhile_append_dropWhile]

end GeoBridge.Xml
