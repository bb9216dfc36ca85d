import GeoBridge.Xml.Element
import GeoBridge.Xml.Fault

/-!
Owns what stands before the outermost element of a document.

Owns:
- the tokens of a document type declaration;
- the grammar of the declarations inside it, as stages and the steps between them;
- the refusal of entity declarations, at the place where each is complete;
- the rules for content that the declarations leave behind.
-/

namespace GeoBridge.Xml

/-- One token before the outermost element. -/
inductive Token where
  | space
  | remark
  | keyword (name : String)
  | name (value : String)
  | prefixedName (value : String)
  | nameToken
  | quantifiedName
  | literal (characters : List Char)
  | percent
  | parameterReference
  | comma
  | bar
  | openBracket
  | closeBracket
  | openGroup
  | closeGroup
  | closeGroupRepeated
  | closeGroupQuantified
  | close
  | poundName (value : String)
deriving DecidableEq, Repr

namespace Token

/-- Whether what follows a token is the end, space, or one of some marks. -/
def isFollowedBy (marks : List Char) : List Char → Bool
  | [] => true
  | next :: _ => isSpace next || marks.contains next

/-- A token if what follows it may follow. -/
def check (marks : List Char) (token : Token) (rest : List Char) : Option (Token × List Char) :=
  if isFollowedBy marks rest then some (token, rest) else none

/-- Read a literal after its opening quote. -/
def readLiteral (quote : Char) (characters : List Char) : Option (Token × List Char) :=
  match characters.dropWhile (· != quote) with
  | [] => none
  | _ :: rest =>
      let inside := characters.takeWhile (· != quote)
      if inside.all isAllowed then check ['>', '%', '['] (.literal inside) rest else none

/-- The kind of a name. One that does not begin like a name, or has a colon at its end or several
of them, is only a name token. -/
def ofName (characters : List Char) : Token :=
  let proper := (characters.head?.map isNameStart).getD false
  if !proper then .nameToken
  else
    match characters.dropWhile (· != ':') with
    | [] => .name (String.ofList characters)
    | [_] => .nameToken
    | _ :: behind =>
        if behind.contains ':' then .nameToken else .prefixedName (String.ofList characters)

/-- Read a name, with the mark of repetition that may follow it. -/
def readName (characters : List Char) : Option (Token × List Char) :=
  let name := characters.takeWhile isNameOrColon
  match characters.dropWhile isNameOrColon with
  | '+' :: rest | '*' :: rest | '?' :: rest =>
      if ofName name == .nameToken then none else some (.quantifiedName, rest)
  | rest => check ['>', ')', ',', '|', '[', '%'] (ofName name) rest

/-- Read what begins with a percent sign. -/
def readPercent (characters : List Char) : Option (Token × List Char) :=
  match characters with
  | [] => none
  | next :: _ =>
      if isSpace next || next == '%' then some (.percent, characters)
      else
        match characters.dropWhile isNameCharacter with
        | ';' :: rest =>
            if isLocalName (characters.takeWhile isNameCharacter) then
              some (.parameterReference, rest)
            else none
        | _ => none

/-- Read a closing parenthesis and the mark of repetition that may follow it. -/
def readCloseGroup : List Char → Option (Token × List Char)
  | '*' :: rest => some (.closeGroupRepeated, rest)
  | '?' :: rest | '+' :: rest => some (.closeGroupQuantified, rest)
  | rest => check ['>', ',', '|', ')'] .closeGroup rest

/-- Whether a character can stand in the keyword of a declaration. -/
def isKeywordCharacter (character : Char) : Bool := character.isAlpha || character == '_'

/-- Read the keyword that opens a declaration. -/
def readKeyword (characters : List Char) : Option (Token × List Char) :=
  let word := characters.takeWhile isKeywordCharacter
  match characters.dropWhile isKeywordCharacter with
  | next :: rest =>
      if isSpace next && !word.isEmpty then some (.keyword (String.ofList word), next :: rest)
      else none
  | [] => none

/-- Read one token. -/
def read : List Char → Option (Token × List Char)
  | [] => none
  | '<' :: '!' :: '-' :: '-' :: rest =>
      (Piece.readComment rest).map fun behind => (.remark, behind)
  | '<' :: '!' :: rest => readKeyword rest
  | '<' :: '?' :: rest => (Piece.readInstruction rest).map fun behind => (.remark, behind)
  | '<' :: _ => none
  | '"' :: rest => readLiteral '"' rest
  | '\'' :: rest => readLiteral '\'' rest
  | '%' :: rest => readPercent rest
  | ',' :: rest => some (.comma, rest)
  | '[' :: rest => some (.openBracket, rest)
  | ']' :: ']' :: '>' :: _ => none
  | ']' :: rest => some (.closeBracket, rest)
  | '(' :: rest => some (.openGroup, rest)
  | ')' :: rest => readCloseGroup rest
  | '|' :: rest => some (.bar, rest)
  | '>' :: rest => some (.close, rest)
  | '#' :: rest =>
      let word := rest.takeWhile isNameCharacter
      if isLocalName word then
        check [')', '>', '%', '|'] (.poundName (String.ofList word))
          (rest.dropWhile isNameCharacter)
      else none
  | character :: rest =>
      if isSpace character then some (.space, rest)
      else if isNameOrColon character then readName (character :: rest)
      else none

theorem check_rest {marks characters rest : List Char} {token found : Token}
    (checked : check marks token characters = some (found, rest)) : rest = characters := by
  unfold check at checked
  split at checked
  · simp only [Option.some.injEq, Prod.mk.injEq] at checked
    exact checked.2.symm
  · simp at checked

theorem readLiteral_length {quote : Char} {characters rest : List Char} {token : Token}
    (found : readLiteral quote characters = some (token, rest)) :
    rest.length ≤ characters.length := by
  have bound := dropWhile_length_le (· != quote) characters
  unfold readLiteral at found
  split at found
  · simp at found
  · next behind =>
      simp only at found
      split at found
      · have same := check_rest found
        rw [behind, List.length_cons, ← same] at bound
        omega
      · simp at found

theorem readPercent_length {characters rest : List Char} {token : Token}
    (found : readPercent characters = some (token, rest)) : rest.length ≤ characters.length := by
  have bound := dropWhile_length_le isNameCharacter characters
  unfold readPercent at found
  split at found
  · simp at found
  · split at found
    · simp only [Option.some.injEq, Prod.mk.injEq] at found
      exact Nat.le_of_eq (congrArg List.length found.2.symm)
    · split at found
      · next behind =>
          split at found
          · simp only [Option.some.injEq, Prod.mk.injEq] at found
            rw [behind, List.length_cons, found.2] at bound
            omega
          · simp at found
      · simp at found

theorem readCloseGroup_length {characters rest : List Char} {token : Token}
    (found : readCloseGroup characters = some (token, rest)) :
    rest.length ≤ characters.length := by
  unfold readCloseGroup at found
  split at found
  · simp only [Option.some.injEq, Prod.mk.injEq] at found
    rw [← found.2, List.length_cons]
    omega
  · simp only [Option.some.injEq, Prod.mk.injEq] at found
    rw [← found.2, List.length_cons]
    omega
  · simp only [Option.some.injEq, Prod.mk.injEq] at found
    rw [← found.2, List.length_cons]
    omega
  · exact Nat.le_of_eq (congrArg List.length (check_rest found))

theorem readKeyword_length {characters rest : List Char} {token : Token}
    (found : readKeyword characters = some (token, rest)) : rest.length ≤ characters.length := by
  have bound := dropWhile_length_le isKeywordCharacter characters
  unfold readKeyword at found
  simp only at found
  split at found
  · next behind =>
      split at found
      · simp only [Option.some.injEq, Prod.mk.injEq] at found
        rw [behind, found.2] at bound
        exact bound
      · simp at found
  · simp at found

theorem readName_length {characters rest : List Char} {token : Token}
    (begins : (characters.head?.map isNameOrColon).getD false = true)
    (found : readName characters = some (token, rest)) : rest.length < characters.length := by
  have shorter : (characters.dropWhile isNameOrColon).length < characters.length := by
    cases characters with
    | nil => simp at begins
    | cons first further =>
        simp only [List.head?_cons, Option.map_some, Option.getD_some] at begins
        rw [List.dropWhile_cons_of_pos begins, List.length_cons]
        exact Nat.lt_succ_of_le (dropWhile_length_le _ _)
  unfold readName at found
  simp only at found
  split at found
  · next behind =>
      split at found
      · simp at found
      · simp only [Option.some.injEq, Prod.mk.injEq] at found
        rw [behind, List.length_cons, found.2] at shorter
        omega
  · next behind =>
      split at found
      · simp at found
      · simp only [Option.some.injEq, Prod.mk.injEq] at found
        rw [behind, List.length_cons, found.2] at shorter
        omega
  · next behind =>
      split at found
      · simp at found
      · simp only [Option.some.injEq, Prod.mk.injEq] at found
        rw [behind, List.length_cons, found.2] at shorter
        omega
  · rw [check_rest found]
    exact shorter

theorem read_length {characters rest : List Char} {token : Token}
    (found : read characters = some (token, rest)) : rest.length < characters.length := by
  unfold read at found
  split at found
  · simp at found
  · simp only [Option.map_eq_some_iff, Prod.mk.injEq] at found
    obtain ⟨behind, comment, -, same⟩ := found
    subst same
    have := Piece.readComment_length comment
    simp only [List.length_cons]
    omega
  · have := readKeyword_length found
    simp only [List.length_cons]
    omega
  · simp only [Option.map_eq_some_iff, Prod.mk.injEq] at found
    obtain ⟨behind, instruction, -, same⟩ := found
    subst same
    have := Piece.readInstruction_length instruction
    simp only [List.length_cons]
    omega
  · simp at found
  · have := readLiteral_length found
    simp only [List.length_cons]
    omega
  · have := readLiteral_length found
    simp only [List.length_cons]
    omega
  · have := readPercent_length found
    simp only [List.length_cons]
    omega
  · simp only [Option.some.injEq, Prod.mk.injEq] at found
    simp [← found.2]
  · simp only [Option.some.injEq, Prod.mk.injEq] at found
    simp [← found.2]
  · simp at found
  · simp only [Option.some.injEq, Prod.mk.injEq] at found
    simp [← found.2]
  · simp only [Option.some.injEq, Prod.mk.injEq] at found
    simp [← found.2]
  · have := readCloseGroup_length found
    simp only [List.length_cons]
    omega
  · simp only [Option.some.injEq, Prod.mk.injEq] at found
    simp [← found.2]
  · simp only [Option.some.injEq, Prod.mk.injEq] at found
    simp [← found.2]
  · next remaining =>
      simp only at found
      split at found
      · have same := check_rest found
        have := dropWhile_length_le isNameCharacter remaining
        rw [← same] at this
        simp only [List.length_cons]
        omega
      · simp at found
  · next character remaining _ _ _ _ _ _ _ _ _ _ _ _ _ _ _ =>
      split at found
      · simp only [Option.some.injEq, Prod.mk.injEq] at found
        simp [← found.2]
      · split at found
        · next begins => exact readName_length (by simpa using begins) found
        · simp at found

end Token

/-! ## The grammar of declarations -/

/-- The entity that a declaration is about. -/
structure DeclaredEntity where
  name : String
  isParameter : Bool
deriving DecidableEq, Repr

/-- The attribute that a declaration is about. -/
structure DeclaredAttribute where
  element : String
  attributeName : String
  characterData : Bool := false
  isIdentifier : Bool := false
deriving DecidableEq, Repr

/-- The sign that separates the members of a group, once one has been seen. -/
inductive Separator where
  | undecided
  | sequence
  | choice
deriving DecidableEq, Repr

/-- The place in the grammar before the outermost element. -/
inductive Stage where
  | beforeDoctype
  | doctypeName
  | afterDoctypeName
  | doctypePublicId
  | doctypeSystemId
  | afterDoctypeIds
  | subset
  | afterSubset
  | afterDoctype
  | entityStart
  | parameterEntityName
  | entityDefinition (entity : DeclaredEntity)
  | entityPublicId (entity : DeclaredEntity)
  | entitySystemId (entity : DeclaredEntity) (publicId : Option String)
  | afterEntityIds (entity : DeclaredEntity) (publicId : Option String) (systemId : String)
  | entityNotation (entity : DeclaredEntity) (publicId : Option String) (systemId : String)
  | notationName
  | notationKind
  | notationPublicId
  | afterNotationPublicId
  | notationSystemId
  | attributesElement
  | attributeNameOrEnd (element : String)
  | attributeType (subject : DeclaredAttribute)
  | notationGroup (subject : DeclaredAttribute)
  | groupMember (subject : DeclaredAttribute) (notations : Bool)
  | afterGroupMember (subject : DeclaredAttribute) (notations : Bool)
  | attributeDefault (subject : DeclaredAttribute)
  | fixedDefault (subject : DeclaredAttribute)
  | elementName
  | elementContent
  | contentStart
  | mixedStart
  | mixedName
  | afterMixedName
  | contentMember (groups : List Separator)
  | afterContentMember (groups : List Separator)
  | declarationEnd
deriving DecidableEq, Repr

/-- What has been settled before the outermost element. -/
structure Prolog where
  stage : Stage := .beforeDoctype
  standalone : Bool := false
  hasParameterReferences : Bool := false
  processing : Bool := true
  rules : List AttributeRule := []
deriving DecidableEq, Repr

namespace Prolog

/-- Whether entities that are not declared make the document invalid. -/
def isStrict (prolog : Prolog) : Bool := prolog.standalone || !prolog.hasParameterReferences

/-- Whether a character may stand in a public identifier. -/
def isPublicIdCharacter (character : Char) : Bool :=
  character.isAlphanum || character == ' ' || character == '\r' || character == '\n'
    || "-'()+,./:=?;!*#@$_%".toList.contains character

/-- The normal form of a public identifier: single spaces between its words. -/
def normalizedPublicId (characters : List Char) : String :=
  String.ofList
    (ValuePart.collapseSpaces
      (characters.map fun character => if isSpace character then ' ' else character))

/-- Whether the value of an entity is well formed: no percent sign, and every ampersand begins a
reference. -/
def isEntityValue : List Char → Bool
  | [] => true
  | '%' :: _ => false
  | '&' :: rest => (Reference.read rest).isSome && isEntityValue rest
  | _ :: rest => isEntityValue rest

/-- Go on at another stage. -/
def goTo (prolog : Prolog) (stage : Stage) : Except Fault Prolog := .ok { prolog with stage }

/-- Go on at another stage after an identifier that must be a public one. -/
def withPublicId (prolog : Prolog) (characters : List Char) (stage : Stage) :
    Except Fault Prolog :=
  if characters.all isPublicIdCharacter then prolog.goTo stage else .error .malformed

/-- Whether the declaration of an entity is refused. The entities that every document has may be
declared again, and declarations that are not processed declare nothing. -/
def refuses (prolog : Prolog) (entity : DeclaredEntity) : Bool :=
  prolog.processing && (entity.isParameter || (Reference.predefined.lookup entity.name).isNone)

/-- The declaration of an entity is complete. -/
def completeEntity (prolog : Prolog) (entity : DeclaredEntity)
    (systemId publicId : Option String) (stage : Stage) : Except Fault Prolog :=
  if prolog.refuses entity then .error (.entityDeclared entity.name systemId publicId)
  else prolog.goTo stage

/-- Add the rule of an attribute. A rule with a default, or for an identifier, does not replace an
earlier one. -/
def addRule (prolog : Prolog) (subject : DeclaredAttribute) (default : Option String) : Prolog :=
  let known := prolog.rules.any fun rule =>
    rule.element == subject.element && rule.attributeName == subject.attributeName
  if !prolog.processing || (known && (default.isSome || subject.isIdentifier)) then prolog
  else
    { prolog with
      rules := prolog.rules ++
        [⟨subject.element, subject.attributeName, subject.characterData, default⟩] }

/-- The declaration of an attribute ends with the default value that a literal gives. -/
def withDefault (prolog : Prolog) (subject : DeclaredAttribute) (characters : List Char) :
    Except Fault Prolog :=
  let next := Stage.attributeNameOrEnd subject.element
  if !prolog.processing then prolog.goTo next
  else
    match (ValuePart.ofValue characters).bind
        (ValuePart.value prolog.isStrict subject.characterData) with
    | none => .error .malformed
    | some value => (prolog.addRule subject (some value)).goTo next

/-- The types of attributes other than enumerations and notations. -/
def typeKeywords : List String :=
  ["CDATA", "ID", "IDREF", "IDREFS", "ENTITY", "ENTITIES", "NMTOKEN", "NMTOKENS"]

/-- One step inside the declaration of an entity. -/
def entityStep (prolog : Prolog) : Stage → Token → Except Fault Prolog
  | .entityStart, .percent => prolog.goTo .parameterEntityName
  | .entityStart, .name name => prolog.goTo (.entityDefinition ⟨name, false⟩)
  | .parameterEntityName, .name name => prolog.goTo (.entityDefinition ⟨name, true⟩)
  | .entityDefinition entity, .name "SYSTEM" => prolog.goTo (.entitySystemId entity none)
  | .entityDefinition entity, .name "PUBLIC" => prolog.goTo (.entityPublicId entity)
  | .entityDefinition entity, .literal characters =>
      if prolog.processing && !prolog.refuses entity && !isEntityValue characters then
        .error .malformed
      else prolog.completeEntity entity none none .declarationEnd
  | .entityPublicId entity, .literal characters =>
      prolog.withPublicId characters (.entitySystemId entity (some (normalizedPublicId characters)))
  | .entitySystemId entity publicId, .literal characters =>
      prolog.goTo (.afterEntityIds entity publicId (String.ofList characters))
  | .afterEntityIds entity publicId systemId, .close =>
      prolog.completeEntity entity (some systemId) publicId .subset
  | .afterEntityIds entity publicId systemId, .name "NDATA" =>
      if entity.isParameter then .error .malformed
      else prolog.goTo (.entityNotation entity publicId systemId)
  | .entityNotation entity publicId systemId, .name _ =>
      prolog.completeEntity entity (some systemId) publicId .declarationEnd
  | _, _ => .error .malformed

/-- One step inside the declaration of a notation. -/
def notationStep (prolog : Prolog) : Stage → Token → Except Fault Prolog
  | .notationName, .name _ => prolog.goTo .notationKind
  | .notationKind, .name "SYSTEM" => prolog.goTo .notationSystemId
  | .notationKind, .name "PUBLIC" => prolog.goTo .notationPublicId
  | .notationPublicId, .literal characters =>
      prolog.withPublicId characters .afterNotationPublicId
  | .afterNotationPublicId, .literal _ => prolog.goTo .declarationEnd
  | .afterNotationPublicId, .close => prolog.goTo .subset
  | .notationSystemId, .literal _ => prolog.goTo .declarationEnd
  | _, _ => .error .malformed

/-- One step inside the declaration of attributes. -/
def attributeStep (prolog : Prolog) : Stage → Token → Except Fault Prolog
  | .attributesElement, .name element | .attributesElement, .prefixedName element =>
      prolog.goTo (.attributeNameOrEnd element)
  | .attributeNameOrEnd _, .close => prolog.goTo .subset
  | .attributeNameOrEnd element, .name attributeName
  | .attributeNameOrEnd element, .prefixedName attributeName =>
      prolog.goTo (.attributeType { element, attributeName })
  | .attributeType subject, .openGroup => prolog.goTo (.groupMember subject false)
  | .attributeType subject, .name "NOTATION" => prolog.goTo (.notationGroup subject)
  | .attributeType subject, .name keyword =>
      if typeKeywords.contains keyword then
        prolog.goTo (.attributeDefault
          { subject with characterData := keyword == "CDATA", isIdentifier := keyword == "ID" })
      else .error .malformed
  | .notationGroup subject, .openGroup => prolog.goTo (.groupMember subject true)
  | .groupMember subject notations, .name _ => prolog.goTo (.afterGroupMember subject notations)
  | .groupMember subject false, .prefixedName _ | .groupMember subject false, .nameToken =>
      prolog.goTo (.afterGroupMember subject false)
  | .afterGroupMember subject notations, .bar => prolog.goTo (.groupMember subject notations)
  | .afterGroupMember subject _, .closeGroup => prolog.goTo (.attributeDefault subject)
  | .attributeDefault subject, .poundName "FIXED" => prolog.goTo (.fixedDefault subject)
  | .attributeDefault subject, .poundName "IMPLIED"
  | .attributeDefault subject, .poundName "REQUIRED" =>
      (prolog.addRule subject none).goTo (.attributeNameOrEnd subject.element)
  | .attributeDefault subject, .literal characters
  | .fixedDefault subject, .literal characters => prolog.withDefault subject characters
  | _, _ => .error .malformed

/-- The groups around a member once the innermost of them has a separator, which must agree with
the one it had. -/
def separate (prolog : Prolog) (separator : Separator) : List Separator → Except Fault Prolog
  | [] => .error .malformed
  | innermost :: outer =>
      if innermost == .undecided || innermost == separator then
        prolog.goTo (.contentMember (separator :: outer))
      else .error .malformed

/-- The end of the innermost group. -/
def closeContentGroup (prolog : Prolog) : List Separator → Except Fault Prolog
  | _ :: outer :: further => prolog.goTo (.afterContentMember (outer :: further))
  | _ => prolog.goTo .declarationEnd

/-- One step inside the declaration of an element. -/
def elementStep (prolog : Prolog) : Stage → Token → Except Fault Prolog
  | .elementName, .name _ | .elementName, .prefixedName _ => prolog.goTo .elementContent
  | .elementContent, .name "EMPTY" | .elementContent, .name "ANY" => prolog.goTo .declarationEnd
  | .elementContent, .openGroup => prolog.goTo .contentStart
  | .contentStart, .poundName "PCDATA" => prolog.goTo .mixedStart
  | .contentStart, .openGroup => prolog.goTo (.contentMember [.undecided, .undecided])
  | .contentStart, .name _ | .contentStart, .prefixedName _ | .contentStart, .quantifiedName =>
      prolog.goTo (.afterContentMember [.undecided])
  | .mixedStart, .closeGroup | .mixedStart, .closeGroupRepeated => prolog.goTo .declarationEnd
  | .mixedStart, .bar => prolog.goTo .mixedName
  | .mixedName, .name _ | .mixedName, .prefixedName _ => prolog.goTo .afterMixedName
  | .afterMixedName, .closeGroupRepeated => prolog.goTo .declarationEnd
  | .afterMixedName, .bar => prolog.goTo .mixedName
  | .contentMember groups, .openGroup => prolog.goTo (.contentMember (.undecided :: groups))
  | .contentMember groups, .name _ | .contentMember groups, .prefixedName _
  | .contentMember groups, .quantifiedName => prolog.goTo (.afterContentMember groups)
  | .afterContentMember groups, .closeGroup | .afterContentMember groups, .closeGroupRepeated
  | .afterContentMember groups, .closeGroupQuantified => prolog.closeContentGroup groups
  | .afterContentMember groups, .comma => prolog.separate .sequence groups
  | .afterContentMember groups, .bar => prolog.separate .choice groups
  | _, _ => .error .malformed

/-- One step in the document type declaration, outside of the declarations inside it. -/
def doctypeStep (prolog : Prolog) : Stage → Token → Except Fault Prolog
  | .beforeDoctype, .remark => prolog.goTo .beforeDoctype
  | .beforeDoctype, .keyword "DOCTYPE" => prolog.goTo .doctypeName
  | .doctypeName, .name _ | .doctypeName, .prefixedName _ => prolog.goTo .afterDoctypeName
  | .afterDoctypeName, .openBracket | .afterDoctypeIds, .openBracket => prolog.goTo .subset
  | .afterDoctypeName, .close | .afterDoctypeIds, .close | .afterSubset, .close =>
      prolog.goTo .afterDoctype
  | .afterDoctypeName, .name "SYSTEM" => prolog.goTo .doctypeSystemId
  | .afterDoctypeName, .name "PUBLIC" => prolog.goTo .doctypePublicId
  | .doctypePublicId, .literal characters =>
      ({ prolog with hasParameterReferences := true }).withPublicId characters .doctypeSystemId
  | .doctypeSystemId, .literal _ =>
      ({ prolog with hasParameterReferences := true }).goTo .afterDoctypeIds
  | .subset, .remark => prolog.goTo .subset
  | .subset, .keyword "ENTITY" => prolog.goTo .entityStart
  | .subset, .keyword "ATTLIST" => prolog.goTo .attributesElement
  | .subset, .keyword "ELEMENT" => prolog.goTo .elementName
  | .subset, .keyword "NOTATION" => prolog.goTo .notationName
  | .subset, .parameterReference =>
      ({ prolog with hasParameterReferences := true, processing := prolog.standalone }).goTo .subset
  | .subset, .closeBracket => prolog.goTo .afterSubset
  | .declarationEnd, .close => prolog.goTo .subset
  | .afterDoctype, .remark => prolog.goTo .afterDoctype
  | _, _ => .error .malformed

/-- One step. Space is allowed between any two tokens. -/
def step (prolog : Prolog) (token : Token) : Except Fault Prolog :=
  if token == .space then .ok prolog
  else
    match prolog.stage with
    | .entityStart | .parameterEntityName | .entityDefinition _ | .entityPublicId _
    | .entitySystemId _ _ | .afterEntityIds _ _ _ | .entityNotation _ _ _ =>
        prolog.entityStep prolog.stage token
    | .notationName | .notationKind | .notationPublicId | .afterNotationPublicId
    | .notationSystemId => prolog.notationStep prolog.stage token
    | .attributesElement | .attributeNameOrEnd _ | .attributeType _ | .notationGroup _
    | .groupMember _ _ | .afterGroupMember _ _ | .attributeDefault _ | .fixedDefault _ =>
        prolog.attributeStep prolog.stage token
    | .elementName | .elementContent | .contentStart | .mixedStart | .mixedName
    | .afterMixedName | .contentMember _ | .afterContentMember _ =>
        prolog.elementStep prolog.stage token
    | _ => prolog.doctypeStep prolog.stage token

/-- Whether characters begin an element. -/
def beginsElement : List Char → Bool
  | '<' :: first :: _ => isNameStart first
  | _ => false

/-- Whether the outermost element may begin here. -/
def isOutside (prolog : Prolog) : Bool :=
  prolog.stage == .beforeDoctype || prolog.stage == .afterDoctype

/-- Read up to the outermost element. -/
def read (prolog : Prolog) (characters : List Char) : Except Fault (Prolog × List Char) :=
  if beginsElement characters then
    if prolog.isOutside then .ok (prolog, characters) else .error .malformed
  else
    match found : Token.read characters with
    | none => .error .malformed
    | some (token, rest) =>
        have : rest.length < characters.length := Token.read_length found
        match prolog.step token with
        | .error fault => .error fault
        | .ok next => next.read rest
  termination_by characters.length

/-- The rules for the content that follows. -/
def contentRules (prolog : Prolog) : ContentRules where
  attributes := prolog.rules
  strict := prolog.isStrict

end Prolog

end GeoBridge.Xml
