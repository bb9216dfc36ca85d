import GeoBridge.Xml.Reference

/-!
Owns the pieces that the content of a document is written in.

Owns:
- tags with their attributes as written, text, references, character sections and remarks;
- the reading of one piece, which always consumes something;
- the division of content into pieces.
-/

namespace GeoBridge.Xml

/-- An attribute as written. -/
structure WrittenAttribute where
  name : String
  value : List ValuePart
deriving DecidableEq, Repr

/-- One piece of content. Comments and processing instructions are remarks. -/
inductive Piece where
  | opening (name : String) (attributes : List WrittenAttribute) (closed : Bool)
  | closing (name : String)
  | text (characters : List Char)
  | reference (value : Reference)
  | section (characters : List Char)
  | remark
deriving DecidableEq, Repr

namespace Piece

/-- Read one attribute at its name. -/
def readAttribute (characters : List Char) : Option (WrittenAttribute × List Char) :=
  let name := characters.takeWhile isNameOrColon
  if !isQualifiedName name then none
  else
    match (characters.dropWhile isNameOrColon).dropWhile isSpace with
    | '=' :: rest =>
        match rest.dropWhile isSpace with
        | quote :: value =>
            if quote == '"' || quote == '\'' then
              match value.dropWhile (· != quote) with
              | _ :: behind =>
                  (ValuePart.ofValue (value.takeWhile (· != quote))).map fun parts =>
                    (⟨String.ofList name, parts⟩, behind)
              | [] => none
            else none
        | [] => none
    | _ => none

theorem readAttribute_length {characters rest : List Char} {written : WrittenAttribute}
    (found : readAttribute characters = some (written, rest)) :
    rest.length < characters.length := by
  unfold readAttribute at found
  simp only at found
  split at found
  · simp at found
  · split at found
    · next afterName equalsBehind =>
        have nameBound := dropWhile_length_le isNameOrColon characters
        have spaceBound := dropWhile_length_le isSpace (characters.dropWhile isNameOrColon)
        rw [equalsBehind, List.length_cons] at spaceBound
        split at found
        · next quote value quoteBehind =>
            have quoteBound := dropWhile_length_le isSpace afterName
            rw [quoteBehind, List.length_cons] at quoteBound
            split at found
            · split at found
              · next closingQuote behind valueBehind =>
                  have valueBound := dropWhile_length_le (· != quote) value
                  rw [valueBehind, List.length_cons] at valueBound
                  simp only [Option.map_eq_some_iff, Prod.mk.injEq] at found
                  obtain ⟨parts, -, -, same⟩ := found
                  subst same
                  omega
              · simp at found
            · simp at found
        · simp at found
    · simp at found

/-- Read the rest of a start tag: attributes, each after some space, and the end of the tag. The
flag tells whether the tag closes its own element. -/
def readAttributes (characters : List Char) :
    Option (List WrittenAttribute × Bool × List Char) :=
  match spaceless : characters.dropWhile isSpace with
  | '>' :: rest => some ([], false, rest)
  | '/' :: '>' :: rest => some ([], true, rest)
  | begun =>
      if begun.length == characters.length then none
      else
        match found : readAttribute begun with
        | none => none
        | some (written, behind) =>
            have : behind.length < characters.length := by
              have shorter := readAttribute_length found
              have bound := dropWhile_length_le isSpace characters
              rw [spaceless] at bound
              omega
            match readAttributes behind with
            | none => none
            | some (attributes, closed, rest) => some (written :: attributes, closed, rest)
  termination_by characters.length

theorem readAttributes_length {characters rest : List Char} {attributes : List WrittenAttribute}
    {closed : Bool} (found : readAttributes characters = some (attributes, closed, rest)) :
    rest.length < characters.length := by
  fun_induction readAttributes characters generalizing attributes closed rest with
  | case1 characters behind spaceless =>
      have bound := dropWhile_length_le isSpace characters
      rw [spaceless, List.length_cons] at bound
      simp only [Option.some.injEq, Prod.mk.injEq] at found
      rw [← found.2.2]
      omega
  | case2 characters behind spaceless =>
      have bound := dropWhile_length_le isSpace characters
      rw [spaceless, List.length_cons, List.length_cons] at bound
      simp only [Option.some.injEq, Prod.mk.injEq] at found
      rw [← found.2.2]
      omega
  | case3 => simp at found
  | case4 => simp at found
  | case5 => simp at found
  | case6 characters _ _ _ _ _ _ shorter _ _ _ _ inductionHypothesis =>
      simp only [Option.some.injEq, Prod.mk.injEq] at found
      have := inductionHypothesis (by assumption)
      rw [← found.2.2]
      omega

/-- Read a start tag after its opening mark. -/
def readOpening (characters : List Char) : Option (Piece × List Char) :=
  let name := characters.takeWhile isNameOrColon
  if !isQualifiedName name then none
  else
    match readAttributes (characters.dropWhile isNameOrColon) with
    | none => none
    | some (attributes, closed, rest) =>
        some (.opening (String.ofList name) attributes closed, rest)

/-- Read an end tag after its opening marks. -/
def readClosing (characters : List Char) : Option (Piece × List Char) :=
  let name := characters.takeWhile isNameOrColon
  match (characters.dropWhile isNameOrColon).dropWhile isSpace with
  | '>' :: rest =>
      if name.isEmpty then none else some (.closing (String.ofList name), rest)
  | _ => none

/-- Read a comment after its opening marks. Two hyphens can only stand at its end. -/
def readComment (characters : List Char) : Option (List Char) :=
  match splitAtMarker ['-', '-'] characters with
  | some (inside, '>' :: rest) => if inside.all isAllowed then some rest else none
  | _ => none

/-- Whether a name is the reserved target of declarations, in any case. -/
def isReservedTarget (name : List Char) : Bool :=
  name.map Char.toLower == ['x', 'm', 'l']

/-- Read a processing instruction after its opening marks. -/
def readInstruction (characters : List Char) : Option (List Char) :=
  let target := characters.takeWhile isNameCharacter
  if !isLocalName target || isReservedTarget target then none
  else
    let behind := characters.dropWhile isNameCharacter
    match behind with
    | '?' :: '>' :: rest => some rest
    | first :: _ =>
        if isSpace first then
          match splitAtMarker ['?', '>'] behind with
          | some (inside, rest) => if inside.all isAllowed then some rest else none
          | none => none
        else none
    | [] => none

/-- Whether characters are free of a marker. -/
def isFreeOf (marker characters : List Char) : Bool :=
  (splitAtMarker marker characters).isNone

/-- Whether a character begins markup or a reference. -/
def isTextCharacter (character : Char) : Bool := character != '<' && character != '&'

/-- Read one piece of content. -/
def read : List Char → Option (Piece × List Char)
  | [] => none
  | '<' :: '!' :: '-' :: '-' :: rest => (readComment rest).map fun behind => (.remark, behind)
  | '<' :: '!' :: '[' :: 'C' :: 'D' :: 'A' :: 'T' :: 'A' :: '[' :: rest =>
      match splitAtMarker [']', ']', '>'] rest with
      | some (inside, behind) =>
          if inside.all isAllowed then some (.section (Text.unifyLineEnds inside), behind) else none
      | none => none
  | '<' :: '?' :: rest => (readInstruction rest).map fun behind => (.remark, behind)
  | '<' :: '/' :: rest => readClosing rest
  | '<' :: rest => readOpening rest
  | '&' :: rest =>
      (Reference.read rest).map fun (value, behind) => (.reference value, behind)
  | character :: rest =>
      let run := character :: rest.takeWhile isTextCharacter
      if run.all isAllowed && isFreeOf [']', ']', '>'] run then
        some (.text (Text.unifyLineEnds run), rest.dropWhile isTextCharacter)
      else none

theorem readOpening_length {characters rest : List Char} {piece : Piece}
    (found : readOpening characters = some (piece, rest)) : rest.length < characters.length := by
  have bound := dropWhile_length_le isNameOrColon characters
  unfold readOpening at found
  simp only at found
  split at found
  · simp at found
  · split at found
    · simp at found
    · next attributes =>
        have shorter := readAttributes_length attributes
        simp only [Option.some.injEq, Prod.mk.injEq] at found
        rw [← found.2]
        omega

theorem readClosing_length {characters rest : List Char} {piece : Piece}
    (found : readClosing characters = some (piece, rest)) : rest.length < characters.length := by
  have nameBound := dropWhile_length_le isNameOrColon characters
  have spaceBound := dropWhile_length_le isSpace (characters.dropWhile isNameOrColon)
  unfold readClosing at found
  simp only at found
  split at found
  · next behind =>
      split at found
      · simp at found
      · rw [behind, List.length_cons] at spaceBound
        simp only [Option.some.injEq, Prod.mk.injEq] at found
        rw [← found.2]
        omega
  · simp at found

theorem readComment_length {characters rest : List Char}
    (found : readComment characters = some rest) : rest.length ≤ characters.length := by
  unfold readComment at found
  split at found
  · next split =>
      have bound := splitAtMarker_length split
      split at found
      · simp only [Option.some.injEq] at found
        rw [List.length_cons, found] at bound
        omega
      · simp at found
  · simp at found

theorem readInstruction_length {characters rest : List Char}
    (found : readInstruction characters = some rest) : rest.length ≤ characters.length := by
  have bound := dropWhile_length_le isNameCharacter characters
  unfold readInstruction at found
  simp only at found
  split at found
  · simp at found
  · split at found
    · next behind =>
        simp only [Option.some.injEq] at found
        rw [behind, found, List.length_cons, List.length_cons] at bound
        omega
    · next behind =>
        split at found
        · split at found
          · next split =>
              have further := splitAtMarker_length split
              split at found
              · simp only [Option.some.injEq] at found
                rw [found] at further
                omega
              · simp at found
          · simp at found
        · simp at found
    · simp at found

theorem read_length {characters rest : List Char} {piece : Piece}
    (found : read characters = some (piece, rest)) : rest.length < characters.length := by
  unfold read at found
  split at found
  · simp at found
  · simp only [Option.map_eq_some_iff, Prod.mk.injEq] at found
    obtain ⟨behind, comment, -, same⟩ := found
    subst same
    have := readComment_length comment
    simp only [List.length_cons]
    omega
  · split at found
    · next split =>
        have := splitAtMarker_length split
        split at found
        · simp only [Option.some.injEq, Prod.mk.injEq] at found
          rw [← found.2]
          simp only [List.length_cons]
          omega
        · simp at found
    · simp at found
  · simp only [Option.map_eq_some_iff, Prod.mk.injEq] at found
    obtain ⟨behind, instruction, -, same⟩ := found
    subst same
    have := readInstruction_length instruction
    simp only [List.length_cons]
    omega
  · have := readClosing_length found
    simp only [List.length_cons]
    omega
  · have := readOpening_length found
    simp only [List.length_cons]
    omega
  · simp only [Option.map_eq_some_iff, Prod.mk.injEq] at found
    obtain ⟨⟨value, behind⟩, read, -, same⟩ := found
    subst same
    have := Reference.read_length read
    simp only [List.length_cons]
    omega
  · next character remaining _ _ _ _ _ _ =>
      simp only at found
      split at found
      · have := dropWhile_length_le isTextCharacter remaining
        simp only [Option.some.injEq, Prod.mk.injEq] at found
        rw [← found.2]
        simp only [List.length_cons]
        omega
      · simp at found

/-- The pieces of content, where it consists of pieces. -/
def readAll (characters : List Char) : Option (List Piece) :=
  if characters.isEmpty then some []
  else
    match found : read characters with
    | none => none
    | some (piece, rest) =>
        have : rest.length < characters.length := read_length found
        (readAll rest).map (piece :: ·)
  termination_by characters.length

end Piece

end GeoBridge.Xml
