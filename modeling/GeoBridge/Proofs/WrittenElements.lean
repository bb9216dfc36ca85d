import GeoBridge.Proofs.WrittenPieces

/-!
Owns the elements that written elements are read as.

Owns:
- the conditions on a written element: its names, and the characters that it holds;
- its pieces, which are read if and only if every character is allowed;
- the element that its pieces spell.
-/

namespace GeoBridge.Xml

namespace Markup

mutual

/-- Whether the names of an element and of what stands in it are plain, and no attribute is written
twice. -/
def isPlain : Markup → Bool
  | .leaf tag attributes _ =>
      isPlainName tag && attributes.all (isPlainName ·.1) && (attributes.map Prod.fst).Nodup
  | .branch tag children => isPlainName tag && areAllPlain children

/-- Whether this holds of every element of a list. -/
def areAllPlain : List Markup → Bool
  | [] => true
  | child :: rest => child.isPlain && areAllPlain rest

end

mutual

/-- Whether a document may hold all characters of an element's text and values. -/
def isAllowed : Markup → Bool
  | .leaf _ attributes text => attributes.all Piece.holdsAllowed && text.toList.all Xml.isAllowed
  | .branch _ children => areAllAllowed children

/-- Whether this holds of every element of a list. -/
def areAllAllowed : List Markup → Bool
  | [] => true
  | child :: rest => child.isAllowed && areAllAllowed rest

end

mutual

/-- The pieces of an element at a depth. -/
def pieces (depth : Nat) : Markup → List Piece
  | .leaf tag attributes text =>
      let opening := Piece.opening tag (attributes.map Piece.writtenAttribute)
      if text.isEmpty then [opening true]
      else opening false :: (Piece.textPieces text.toList ++ [.closing tag])
  | .branch tag children =>
      if children.isEmpty then [.opening tag [] true]
      else
        .opening tag [] false ::
          (piecesOfAll (depth + 1) children ++ [.text (lineBreak depth), .closing tag])

/-- The pieces of the elements inside another, each after a line break. -/
def piecesOfAll (depth : Nat) : List Markup → List Piece
  | [] => []
  | child :: rest => .text (lineBreak depth) :: (child.pieces depth ++ piecesOfAll depth rest)

end

/-! ### Reading the pieces -/

theorem write_begins (depth : Nat) (markup : Markup) :
    ∃ behind, markup.write depth = '<' :: behind := by
  cases markup with
  | leaf tag attributes text =>
      rw [write]
      split
      · exact ⟨_, rfl⟩
      · exact ⟨_, rfl⟩
  | branch tag children =>
      rw [write]
      split
      · exact ⟨_, rfl⟩
      · exact ⟨_, rfl⟩

/-- A line break is read as text of its own. -/
theorem readAll_lineBreak (depth : Nat) (behind : List Char) :
    Piece.readAll (lineBreak depth ++ '<' :: behind) =
      (Piece.readAll ('<' :: behind)).map (.text (lineBreak depth) :: ·) := by
  have blank : ∀ character ∈ lineBreak depth, character = '\n' ∨ character = ' ' := by
    intro character member
    rcases List.mem_cons.mp member with feed | space
    · exact .inl feed
    · exact .inr (List.eq_of_mem_replicate space)
  have plain : ∀ character ∈ lineBreak depth, isEscapedInText character = false := by
    intro character member
    rcases blank character member with rfl | rfl <;> rfl
  have allowed : (lineBreak depth).all Xml.isAllowed = true := by
    rw [List.all_eq_true]
    intro character member
    rcases blank character member with rfl | rfl <;> rfl
  have unified : Text.unifyLineEnds (lineBreak depth) = lineBreak depth := by
    rw [Text.unifyLineEnds_eq_self_iff]
    intro member
    rcases blank _ member with same | same <;> cases same
  have stops : ∀ next rest, '<' :: behind = next :: rest → Piece.isTextCharacter next = false := by
    rintro next rest same
    rw [← (List.cons.inj same).1]
    rfl
  rw [Piece.readAll_run (by simp [lineBreak]) plain stops, if_pos allowed, unified]

/-- A leaf is read back piece by piece, if all its characters are allowed. -/
theorem readAll_leaf {tag : String} {attributes : List (String × String)} {text : String}
    (plain : isPlain (.leaf tag attributes text) = true) (depth : Nat) (behind : List Char) :
    Piece.readAll (write depth (.leaf tag attributes text) ++ behind) =
      if isAllowed (.leaf tag attributes text) then
        (Piece.readAll behind).map (pieces depth (.leaf tag attributes text) ++ ·)
      else none := by
  simp only [isPlain, Bool.and_eq_true, List.all_eq_true] at plain
  obtain ⟨⟨plainTag, plainNames⟩, -⟩ := plain
  rw [write, pieces, isAllowed]
  by_cases empty : text.isEmpty = true
  · have opened := Piece.readAll_opening plainTag plainNames rfl
      (Piece.readAttributes_closed behind)
    have vacant : text.toList = [] := by simpa using empty
    simp only [if_pos empty, vacant, List.all_nil, Bool.and_true, List.cons_append,
      List.append_assoc, List.nil_append]
    exact opened
  · have opened := Piece.readAll_opening plainTag plainNames rfl
      (Piece.readAttributes_opened
        (text.toList.flatMap escapedText ++ (endTag tag ++ behind)))
    have held := Piece.readAll_text text.toList ('/' :: (tag.toList ++ '>' :: behind))
    have closed := Piece.readAll_closing plainTag behind
    simp only [endTag, List.cons_append, List.nil_append, List.append_assoc] at opened held closed
    simp only [if_neg empty, endTag, List.cons_append, List.nil_append, List.append_assoc]
    rw [opened, held, closed]
    cases attributes.all Piece.holdsAllowed <;> cases text.toList.all Xml.isAllowed <;>
      simp [Option.map_map, Function.comp_def]

mutual

/-- A written element is read back piece by piece, if all its characters are allowed. -/
theorem readAll_write (depth : Nat) (behind : List Char) :
    (markup : Markup) → markup.isPlain = true →
      Piece.readAll (markup.write depth ++ behind) =
        if markup.isAllowed then (Piece.readAll behind).map (markup.pieces depth ++ ·) else none
  | .leaf _ _ _, plain => readAll_leaf plain depth behind
  | .branch tag children, plain => by
      rw [isPlain, Bool.and_eq_true] at plain
      have inside := readAll_writeAll (depth + 1) (lineBreak depth ++ (endTag tag ++ behind))
        children plain.2
      have broken := readAll_lineBreak depth ('/' :: (tag.toList ++ '>' :: behind))
      have closed := Piece.readAll_closing plain.1 behind
      have noAttributes : ∀ entry ∈ ([] : List (String × String)), isPlainName entry.1 = true :=
        fun _ member => absurd member List.not_mem_nil
      rw [write, pieces, isAllowed]
      by_cases empty : children.isEmpty = true
      · have opened :=
          Piece.readAll_opening plain.1 noAttributes rfl (Piece.readAttributes_closed behind)
        obtain rfl := List.isEmpty_iff.mp empty
        simp only [List.isEmpty_nil, if_true, areAllAllowed, List.cons_append, List.append_assoc,
          List.nil_append]
        exact opened
      · have opened := Piece.readAll_opening plain.1 noAttributes rfl (Piece.readAttributes_opened
            (writeAll (depth + 1) children ++ (lineBreak depth ++ (endTag tag ++ behind))))
        simp only [endTag, List.cons_append, List.nil_append, List.append_assoc,
          List.flatMap_nil, List.all_nil, if_true, List.map_nil] at opened inside broken closed
        simp only [if_neg empty, endTag, List.cons_append, List.nil_append, List.append_assoc]
        rw [opened, inside, broken, closed]
        cases areAllAllowed children <;> simp [Option.map_map, Function.comp_def]

theorem readAll_writeAll (depth : Nat) (behind : List Char) :
    (children : List Markup) → areAllPlain children = true →
      Piece.readAll (writeAll depth children ++ behind) =
        if areAllAllowed children then (Piece.readAll behind).map (piecesOfAll depth children ++ ·)
        else none
  | [], _ => by simp [writeAll, areAllAllowed, piecesOfAll]
  | child :: rest, plain => by
      rw [areAllPlain, Bool.and_eq_true] at plain
      have first := readAll_write depth (writeAll depth rest ++ behind) child plain.1
      have further := readAll_writeAll depth behind rest plain.2
      obtain ⟨begun, begins⟩ := write_begins depth child
      have broken := readAll_lineBreak depth (begun ++ (writeAll depth rest ++ behind))
      rw [← List.cons_append, ← begins, first, further] at broken
      rw [writeAll, areAllAllowed, piecesOfAll, List.append_assoc, List.append_assoc, broken]
      cases child.isAllowed <;> cases areAllAllowed rest <;>
        simp [Option.map_map, Function.comp_def]

end

/-! ### Building the element -/

mutual

/-- The element that is read where an element is written at a depth. -/
def element (depth : Nat) : Markup → WrittenElement
  | .leaf tag attributes text =>
      .node tag (attributes.map Piece.writtenAttribute) (Text.unifyLineEnds text.toList) []
  | .branch tag children =>
      .node tag [] (if children.isEmpty then [] else lineBreak (depth + 1))
        (elements (depth + 1) children)

/-- The elements that are read inside another. -/
def elements (depth : Nat) : List Markup → List WrittenElement
  | [] => []
  | child :: rest => child.element depth :: elements depth rest

end

theorem addText_name (element : OpenElement) (characters : List Char) :
    (element.addText characters).name = element.name := by
  rw [OpenElement.addText]
  split <;> rfl

theorem addText_of_child (inner : OpenElement) (child : WrittenElement) (characters : List Char) :
    (inner.addChild child).addText characters = inner.addChild child := rfl

/-- A leaf becomes a child of the element around it. -/
theorem readWithin_leaf (tag : String) (attributes : List (String × String)) (text : String)
    (depth : Nat) (inner : OpenElement) (outer : List OpenElement) (more : List Piece) :
    WrittenElement.readWithin inner outer (pieces depth (.leaf tag attributes text) ++ more) =
      WrittenElement.readWithin (inner.addChild (element depth (.leaf tag attributes text))) outer
        more := by
  rw [pieces]
  by_cases empty : text.isEmpty = true
  · have vacant : text.toList = [] := by simpa using empty
    rw [if_pos empty, List.cons_append, List.nil_append, WrittenElement.readWithin, if_pos rfl,
      element, vacant]
    rfl
  · rw [if_neg empty, List.cons_append, List.append_assoc, WrittenElement.readWithin,
      if_neg (by decide), WrittenElement.readWithin_text, List.cons_append, List.nil_append,
      WrittenElement.readWithin, addText_name, if_pos (beq_self_eq_true tag)]
    rfl

/-- An element that has begun, with a further one inside it on a line of its own. -/
def addWritten (depth : Nat) (inner : OpenElement) (child : Markup) : OpenElement :=
  (inner.addText (lineBreak depth)).addChild (child.element depth)

theorem foldl_addWritten (depth : Nat) (inner : OpenElement) (first : WrittenElement)
    (children : List Markup) :
    children.foldl (addWritten depth) (inner.addChild first) =
      { inner with children := (elements depth children).reverse ++ first :: inner.children } := by
  induction children generalizing first inner with
  | nil => rfl
  | cons child rest inductionHypothesis =>
      rw [List.foldl_cons, addWritten, addText_of_child, inductionHypothesis, elements,
        List.reverse_cons, List.append_assoc]
      rfl

theorem foldl_addWritten_name (depth : Nat) (inner : OpenElement) (children : List Markup) :
    (children.foldl (addWritten depth) inner).name = inner.name := by
  induction children generalizing inner with
  | nil => rfl
  | cons child rest inductionHypothesis =>
      rw [List.foldl_cons, inductionHypothesis]
      exact addText_name inner _

/-- Among the children of an element, only the first line break counts as its text. -/
theorem close_foldl_addWritten (depth : Nat) (tag : String) {children : List Markup}
    (proper : children.isEmpty = false) :
    ((children.foldl (addWritten (depth + 1)) { name := tag, attributes := [] }).addText
        (lineBreak depth)).close = element depth (.branch tag children) := by
  cases children with
  | nil => cases proper
  | cons child rest =>
      rw [List.foldl_cons, addWritten, foldl_addWritten, element, proper]
      simp [OpenElement.addText, OpenElement.close, elements]

mutual

/-- The pieces of an element are read as a child of the element around it. -/
theorem readWithin_pieces (depth : Nat) (outer : List OpenElement) (more : List Piece) :
    (markup : Markup) → (inner : OpenElement) →
      WrittenElement.readWithin inner outer (markup.pieces depth ++ more) =
        WrittenElement.readWithin (inner.addChild (markup.element depth)) outer more
  | .leaf tag attributes text, inner => readWithin_leaf tag attributes text depth inner outer more
  | .branch tag children, inner => by
      rw [pieces]
      by_cases empty : children.isEmpty = true
      · obtain rfl := List.isEmpty_iff.mp empty
        rfl
      · rw [if_neg empty, List.cons_append, List.append_assoc, WrittenElement.readWithin,
          if_neg (by decide), readWithin_piecesOfAll, List.cons_append, List.cons_append,
          List.nil_append, WrittenElement.readWithin, WrittenElement.readWithin, addText_name,
          foldl_addWritten_name, if_pos (beq_self_eq_true tag),
          close_foldl_addWritten depth tag (Bool.not_eq_true _ |>.mp empty)]

theorem readWithin_piecesOfAll (depth : Nat) (outer : List OpenElement) (more : List Piece) :
    (children : List Markup) → (inner : OpenElement) →
      WrittenElement.readWithin inner outer (piecesOfAll depth children ++ more) =
        WrittenElement.readWithin (children.foldl (addWritten depth) inner) outer more
  | [], _ => rfl
  | child :: rest, inner => by
      rw [piecesOfAll, List.cons_append, List.append_assoc, WrittenElement.readWithin,
        readWithin_pieces, readWithin_piecesOfAll, List.foldl_cons, addWritten]

end

/-- The pieces of an outermost element that holds others are read as that element. -/
theorem read_pieces (depth : Nat) (tag : String) {children : List Markup}
    (proper : children.isEmpty = false) (more : List Piece) :
    WrittenElement.read (pieces depth (.branch tag children) ++ more) =
      some (element depth (.branch tag children), more) := by
  rw [pieces, if_neg (by simp [proper]), List.cons_append, List.append_assoc, WrittenElement.read,
    if_neg (by decide), readWithin_piecesOfAll, List.cons_append, List.cons_append,
    List.nil_append, WrittenElement.readWithin, WrittenElement.readWithin, addText_name,
    foldl_addWritten_name, if_pos (beq_self_eq_true tag), close_foldl_addWritten depth tag proper]

end Markup

end GeoBridge.Xml
