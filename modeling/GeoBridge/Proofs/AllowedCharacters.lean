import GeoBridge.Proofs.TrimmedText
import GeoBridge.Xml.Document

/-!
Owns which characters come out of documents: none but those that a document may hold.

Owns:
- the characters of references, attribute values and pieces;
- elements all of whose texts and attribute values are allowed, before and after their names are
  expanded;
- the same of the default values that a prolog declares, and of every document that is read.

An allowed character comes from the text of a document, from a number that stands for it, or from
the normal form of white space. Each of these is met once, where the reader builds it.
-/

namespace GeoBridge.Xml

/-- A document may hold each of some characters. -/
def AreAllowed (characters : List Char) : Prop :=
  ∀ character ∈ characters, isAllowed character = true

theorem areAllowed_cons {character : Char} {rest : List Char} :
    AreAllowed (character :: rest) ↔ isAllowed character = true ∧ AreAllowed rest :=
  List.forall_mem_cons

theorem AreAllowed.append {first second : List Char} (one : AreAllowed first)
    (other : AreAllowed second) : AreAllowed (first ++ second) :=
  List.forall_mem_append.mpr ⟨one, other⟩

theorem areAllowed_unifyLineEnds {characters : List Char} (allowed : AreAllowed characters) :
    AreAllowed (Text.unifyLineEnds characters) := by
  fun_induction Text.unifyLineEnds characters with
  | case1 => exact allowed
  | case2 rest inductionHypothesis =>
      have feed := (areAllowed_cons.mp allowed).2
      exact areAllowed_cons.mpr
        ⟨(areAllowed_cons.mp feed).1, inductionHypothesis (areAllowed_cons.mp feed).2⟩
  | case3 character rest _ inductionHypothesis =>
      obtain ⟨first, further⟩ := areAllowed_cons.mp allowed
      refine areAllowed_cons.mpr ⟨?_, inductionHypothesis further⟩
      by_cases return_ : character = '\r'
      · rw [return_]
        decide
      · rwa [if_neg (by simpa using return_)]

/-! ### References and attribute values -/

namespace Reference

/-- A reference that stands for an allowed character, or for an entity. -/
def IsAllowed : Reference → Prop
  | .character value => isAllowed value = true
  | .entity _ => True

theorem isAllowed_of_characterOf? {code : Nat} {value : Char}
    (found : characterOf? code = some value) : isAllowed value = true := by
  unfold characterOf? at found
  split at found
  · simp only at found
    split at found
    · next allowed =>
        cases found
        exact allowed
    · cases found
  · cases found

theorem isAllowed_ofName (name : String) : (ofName name).IsAllowed := by
  have all : ∀ entry ∈ predefined, isAllowed entry.2 = true := by decide
  unfold ofName
  cases found : predefined.lookup name with
  | none => trivial
  | some value =>
      obtain ⟨before, after, parts, -⟩ := List.lookup_eq_some_iff.mp found
      exact all (name, value) (by simp [parts])

theorem isAllowed_of_readNumber {base : Nat} {isDigit : Char → Bool} {characters rest : List Char}
    {reference : Reference} (found : readNumber base isDigit characters = some (reference, rest)) :
    reference.IsAllowed := by
  unfold readNumber at found
  split at found
  · simp only [Option.map_eq_some_iff, Prod.mk.injEq] at found
    obtain ⟨value, known, rfl, -⟩ := found
    exact isAllowed_of_characterOf? known
  · cases found

theorem isAllowed_of_read {characters rest : List Char} {reference : Reference}
    (found : read characters = some (reference, rest)) : reference.IsAllowed := by
  unfold read at found
  split at found
  · exact isAllowed_of_readNumber found
  · exact isAllowed_of_readNumber found
  · split at found
    · simp only at found
      split at found
      · cases found
        exact isAllowed_ofName _
      · cases found
    · cases found

end Reference

namespace ValuePart

/-- A part of a value that stands for an allowed character, or for an entity. -/
def IsAllowed : ValuePart → Prop
  | .literal character | .referred character => isAllowed character = true
  | .entity _ => True

theorem isAllowed_ofReference {reference : Reference} (allowed : reference.IsAllowed) :
    (ofReference reference).IsAllowed := by
  cases reference <;> exact allowed

theorem isAllowed_of_readAll {characters : List Char} {parts : List ValuePart}
    (found : readAll characters = some parts) : ∀ part ∈ parts, part.IsAllowed := by
  fun_induction readAll characters generalizing parts with
  | case1 =>
      cases found
      exact List.forall_mem_nil _
  | case2 => cases found
  | case3 rest reference behind known _ inductionHypothesis =>
      obtain ⟨further, rest, rfl⟩ := Option.map_eq_some_iff.mp found
      exact List.forall_mem_cons.mpr
        ⟨isAllowed_ofReference (Reference.isAllowed_of_read known), inductionHypothesis rest⟩
  | case4 => cases found
  | case5 character rest _ proper inductionHypothesis =>
      obtain ⟨further, rest, rfl⟩ := Option.map_eq_some_iff.mp found
      refine List.forall_mem_cons.mpr ⟨?_, inductionHypothesis rest⟩
      change isAllowed (if isSpace character then ' ' else character) = true
      split
      · decide
      · have both : ¬character = '<' ∧ isAllowed character = true := by simpa using proper
        exact both.2

theorem areAllowed_characters {strict : Bool} {parts : List ValuePart} {found : List Char}
    (allowed : ∀ part ∈ parts, part.IsAllowed) (same : characters strict parts = some found) :
    AreAllowed found := by
  induction parts generalizing found with
  | nil =>
      cases same
      exact List.forall_mem_nil _
  | cons part rest inductionHypothesis =>
      obtain ⟨first, further⟩ := List.forall_mem_cons.mp allowed
      cases part with
      | literal character | referred character =>
          obtain ⟨others, stood, rfl⟩ := Option.map_eq_some_iff.mp same
          exact areAllowed_cons.mpr ⟨first, inductionHypothesis further stood⟩
      | entity name =>
          rw [characters] at same
          split at same
          · cases same
          · exact inductionHypothesis further same

/-- Words are joined by spaces that were there before. -/
theorem mem_of_mem_collapseSpaces {characters : List Char} {character : Char}
    (member : character ∈ collapseSpaces characters) : character ∈ characters := by
  unfold collapseSpaces at member
  simp only [List.mem_reverse] at member
  have gathered := (List.dropWhile_sublist _).subset member
  -- The fold only leaves characters out, whatever it has gathered before.
  have fold (further gathered : List Char)
      (there : character ∈ further.foldl (fun (gathered : List Char) (character : Char) =>
        if character == ' ' && (gathered.isEmpty || gathered.head? == some ' ') then gathered
        else character :: gathered) gathered) : character ∈ gathered ∨ character ∈ further := by
    induction further generalizing gathered with
    | nil => exact .inl there
    | cons next rest inductionHypothesis =>
        rcases inductionHypothesis _ there with before | later
        · simp only at before
          split at before
          · exact .inl before
          · rcases List.mem_cons.mp before with rfl | before
            · exact .inr List.mem_cons_self
            · exact .inl before
        · exact .inr (List.mem_cons_of_mem _ later)
  exact (fold characters [] gathered).resolve_left List.not_mem_nil

theorem areAllowed_value {strict characterData : Bool} {parts : List ValuePart} {text : String}
    (allowed : ∀ part ∈ parts, part.IsAllowed)
    (found : value strict characterData parts = some text) : AreAllowed text.toList := by
  obtain ⟨inside, stood, rfl⟩ := Option.map_eq_some_iff.mp found
  have insideAllowed := areAllowed_characters allowed stood
  rw [String.toList_ofList]
  split
  · exact insideAllowed
  · exact fun character member => insideAllowed character (mem_of_mem_collapseSpaces member)

end ValuePart

/-! ### Pieces -/

/-- An attribute whose value stands for allowed characters. -/
def WrittenAttribute.IsAllowed (written : WrittenAttribute) : Prop :=
  ∀ part ∈ written.value, part.IsAllowed

namespace Piece

/-- A piece that brings in allowed characters only. -/
def IsAllowed : Piece → Prop
  | .opening _ attributes _ => ∀ written ∈ attributes, written.IsAllowed
  | .text characters | .section characters => AreAllowed characters
  | .reference value => value.IsAllowed
  | .closing _ | .remark => True

theorem isAllowed_of_readAttribute {characters rest : List Char} {written : WrittenAttribute}
    (found : readAttribute characters = some (written, rest)) : written.IsAllowed := by
  unfold readAttribute at found
  simp only at found
  split at found
  · cases found
  · split at found
    · split at found
      · split at found
        · split at found
          · obtain ⟨parts, known, same⟩ := Option.map_eq_some_iff.mp found
            cases same
            exact ValuePart.isAllowed_of_readAll known
          · cases found
        · cases found
      · cases found
    · cases found

theorem isAllowed_of_readAttributes {characters rest : List Char}
    {attributes : List WrittenAttribute} {closed : Bool}
    (found : readAttributes characters = some (attributes, closed, rest)) :
    ∀ written ∈ attributes, written.IsAllowed := by
  fun_induction readAttributes characters generalizing attributes closed rest with
  | case1 | case2 =>
      cases found
      exact List.forall_mem_nil _
  | case3 | case4 | case5 => cases found
  | case6 _ _ _ _ _ _ further _ _ _ known _ inductionHypothesis =>
      cases found
      exact List.forall_mem_cons.mpr
        ⟨isAllowed_of_readAttribute known, inductionHypothesis further⟩

theorem isAllowed_of_readOpening {characters rest : List Char} {piece : Piece}
    (found : readOpening characters = some (piece, rest)) : piece.IsAllowed := by
  unfold readOpening at found
  simp only at found
  split at found
  · cases found
  · split at found
    · cases found
    · next known =>
        cases found
        exact isAllowed_of_readAttributes known

theorem isAllowed_of_readClosing {characters rest : List Char} {piece : Piece}
    (found : readClosing characters = some (piece, rest)) : piece.IsAllowed := by
  unfold readClosing at found
  simp only at found
  split at found
  · split at found
    · cases found
    · cases found
      trivial
  · cases found

theorem isAllowed_of_read {characters rest : List Char} {piece : Piece}
    (found : read characters = some (piece, rest)) : piece.IsAllowed := by
  unfold read at found
  split at found
  · cases found
  · obtain ⟨_, -, same⟩ := Option.map_eq_some_iff.mp found
    cases same
    trivial
  · split at found
    · split at found
      · next allowed =>
          cases found
          exact areAllowed_unifyLineEnds (List.all_eq_true.mp allowed)
      · cases found
    · cases found
  · obtain ⟨_, -, same⟩ := Option.map_eq_some_iff.mp found
    cases same
    trivial
  · exact isAllowed_of_readClosing found
  · exact isAllowed_of_readOpening found
  · obtain ⟨⟨value, behind⟩, known, same⟩ := Option.map_eq_some_iff.mp found
    cases same
    exact Reference.isAllowed_of_read known
  · simp only at found
    split at found
    · next proper =>
        cases found
        exact areAllowed_unifyLineEnds
          (List.all_eq_true.mp (Bool.and_eq_true_iff.mp proper).1)
    · cases found

theorem isAllowed_of_readAll {characters : List Char} {pieces : List Piece}
    (found : readAll characters = some pieces) : ∀ piece ∈ pieces, piece.IsAllowed := by
  fun_induction readAll characters generalizing pieces with
  | case1 =>
      cases found
      exact List.forall_mem_nil _
  | case2 => cases found
  | case3 _ _ piece rest known _ inductionHypothesis =>
      obtain ⟨further, rest, rfl⟩ := Option.map_eq_some_iff.mp found
      exact List.forall_mem_cons.mpr ⟨isAllowed_of_read known, inductionHypothesis rest⟩

end Piece

/-! ### Elements as written -/

/-- A written element whose attributes and texts, down to the innermost, are allowed. -/
inductive WrittenElement.IsAllowed : WrittenElement → Prop
  | node {name : String} {attributes : List WrittenAttribute} {text : List Char}
      {children : List WrittenElement} :
      (∀ written ∈ attributes, written.IsAllowed) → AreAllowed text →
      (∀ child ∈ children, IsAllowed child) → IsAllowed (.node name attributes text children)

/-- An element under way, of which all that is there is allowed. -/
structure OpenElement.IsAllowed (element : OpenElement) : Prop where
  attributes : ∀ written ∈ element.attributes, written.IsAllowed
  text : AreAllowed element.text
  children : ∀ child ∈ element.children, child.IsAllowed

namespace OpenElement.IsAllowed

variable {element : OpenElement}

theorem begun {name : String} {attributes : List WrittenAttribute}
    (allowed : ∀ written ∈ attributes, written.IsAllowed) :
    ({ name, attributes } : OpenElement).IsAllowed where
  attributes := allowed
  text := List.forall_mem_nil _
  children := List.forall_mem_nil _

theorem close (allowed : element.IsAllowed) : element.close.IsAllowed :=
  .node allowed.attributes allowed.text fun child member =>
    allowed.children child (List.mem_reverse.mp member)

theorem addText (allowed : element.IsAllowed) {characters : List Char}
    (further : AreAllowed characters) : (element.addText characters).IsAllowed := by
  unfold OpenElement.addText
  split
  · exact ⟨allowed.attributes, allowed.text.append further, allowed.children⟩
  · exact allowed

theorem addChild (allowed : element.IsAllowed) {child : WrittenElement}
    (further : child.IsAllowed) : (element.addChild child).IsAllowed :=
  ⟨allowed.attributes, allowed.text, List.forall_mem_cons.mpr ⟨further, allowed.children⟩⟩

end OpenElement.IsAllowed

namespace WrittenElement

theorem isAllowed_of_readWithin {inner : OpenElement} {outer : List OpenElement}
    {pieces rest : List Piece} {element : WrittenElement}
    (allowed : ∀ piece ∈ pieces, piece.IsAllowed) (innerAllowed : inner.IsAllowed)
    (outerAllowed : ∀ open_ ∈ outer, open_.IsAllowed)
    (found : readWithin inner outer pieces = some (element, rest)) : element.IsAllowed := by
  -- A piece adds to the innermost element, opens another one in it, or closes it into the one
  -- around it, and each of these keeps all the elements under way allowed.
  fun_induction readWithin inner outer pieces with
  | case1 => cases found
  | case2 inner outer name attributes rest begun inductionHypothesis =>
      obtain ⟨first, further⟩ := List.forall_mem_cons.mp allowed
      exact inductionHypothesis further
        (innerAllowed.addChild (OpenElement.IsAllowed.begun first).close) outerAllowed found
  | case3 inner outer name attributes closed rest begun _ inductionHypothesis =>
      obtain ⟨first, further⟩ := List.forall_mem_cons.mp allowed
      exact inductionHypothesis further (OpenElement.IsAllowed.begun first)
        (List.forall_mem_cons.mpr ⟨innerAllowed, outerAllowed⟩) found
  | case4 inner name rest same =>
      cases found
      exact innerAllowed.close
  | case5 inner name rest same parent further inductionHypothesis =>
      obtain ⟨parentAllowed, furtherAllowed⟩ := List.forall_mem_cons.mp outerAllowed
      exact inductionHypothesis (List.forall_mem_cons.mp allowed).2
        (parentAllowed.addChild innerAllowed.close) furtherAllowed found
  | case6 => cases found
  | case7 inner outer characters rest inductionHypothesis
  | case8 inner outer characters rest inductionHypothesis =>
      obtain ⟨first, further⟩ := List.forall_mem_cons.mp allowed
      exact inductionHypothesis further (innerAllowed.addText first) outerAllowed found
  | case9 inner outer value rest inductionHypothesis =>
      obtain ⟨first, further⟩ := List.forall_mem_cons.mp allowed
      exact inductionHypothesis further
        (innerAllowed.addText (List.forall_mem_singleton.mpr first)) outerAllowed found
  | case10 => cases found
  | case11 inner outer rest inductionHypothesis =>
      exact inductionHypothesis (List.forall_mem_cons.mp allowed).2 innerAllowed outerAllowed found

theorem isAllowed_of_read {pieces rest : List Piece} {element : WrittenElement}
    (allowed : ∀ piece ∈ pieces, piece.IsAllowed) (found : read pieces = some (element, rest)) :
    element.IsAllowed := by
  unfold read at found
  split at found
  · obtain ⟨first, further⟩ := List.forall_mem_cons.mp allowed
    simp only at found
    split at found
    · cases found
      exact (OpenElement.IsAllowed.begun first).close
    · exact isAllowed_of_readWithin further (.begun first)
        (List.forall_mem_nil _) found
  · cases found

end WrittenElement

/-! ### Elements -/

/-- An element whose texts and attribute values, down to the innermost, are allowed. -/
inductive Element.IsAllowed : Element → Prop
  | node {tag : String} {attributes : Association String String} {text : Option String}
      {children : List Element} :
      (∀ entry ∈ attributes, AreAllowed entry.2.toList) →
      (∀ present ∈ text, AreAllowed present.toList) →
      (∀ child ∈ children, IsAllowed child) → IsAllowed (.node tag attributes text children)

/-- Rules whose default values are allowed. -/
def AreRulesAllowed (rules : List AttributeRule) : Prop :=
  ∀ rule ∈ rules, ∀ value ∈ rule.default, AreAllowed value.toList

theorem mem_of_mapM {α β : Type} {reading : α → Option β} {items : List α} {results : List β}
    {result : β} (read : items.mapM reading = some results) (member : result ∈ results) :
    ∃ item ∈ items, reading item = some result := by
  induction items generalizing results with
  | nil =>
      cases read
      cases member
  | cons item rest inductionHypothesis =>
      rw [List.mapM_cons] at read
      obtain ⟨first, one, read⟩ := Option.bind_eq_some_iff.mp read
      obtain ⟨further, others, read⟩ := Option.bind_eq_some_iff.mp read
      cases read
      rcases List.mem_cons.mp member with rfl | later
      · exact ⟨item, List.mem_cons_self, one⟩
      · obtain ⟨source, sourceMember, same⟩ := inductionHypothesis others later
        exact ⟨source, List.mem_cons_of_mem _ sourceMember, same⟩

theorem areAllowed_of_valuesOf {rules : ContentRules} {element : String}
    {written : List WrittenAttribute} {values : List (String × String)}
    (rulesAllowed : AreRulesAllowed rules.attributes)
    (allowed : ∀ entry ∈ written, entry.IsAllowed)
    (found : rules.valuesOf element written = some values) :
    ∀ entry ∈ values, AreAllowed entry.2.toList := by
  unfold ContentRules.valuesOf at found
  simp only at found
  split at found
  · obtain ⟨given, read, rfl⟩ := Option.map_eq_some_iff.mp found
    intro entry member
    -- What is written comes first, and then the defaults of what is not.
    rcases List.mem_append.mp member with there | default_
    · obtain ⟨source, sourceMember, same⟩ := mem_of_mapM read there
      obtain ⟨value, found, rfl⟩ := Option.map_eq_some_iff.mp same
      exact ValuePart.areAllowed_value (allowed source sourceMember) found
    · obtain ⟨rule, ruleMember, same⟩ := List.mem_filterMap.mp default_
      split at same
      · obtain ⟨value, found, rfl⟩ := Option.map_eq_some_iff.mp same
        exact rulesAllowed rule ruleMember value found
      · cases same
  · cases found

theorem areAllowed_of_attributes {scope : Scope} {values : List (String × String)}
    {attributes : Association String String} (allowed : ∀ entry ∈ values, AreAllowed entry.2.toList)
    (found : scope.attributes values = some attributes) :
    ∀ entry ∈ attributes, AreAllowed entry.2.toList := by
  unfold Scope.attributes at found
  obtain ⟨entries, named, same⟩ := Option.bind_eq_some_iff.mp found
  split at same
  · cases same
    intro entry member
    obtain ⟨source, sourceMember, expanded⟩ := mem_of_mapM named member
    obtain ⟨name, -, rfl⟩ := Option.map_eq_some_iff.mp expanded
    exact allowed source (List.mem_filter.mp sourceMember).1
  · cases same

namespace WrittenElement

mutual

/-- The expansion of names leaves texts and values as they are. -/
theorem isAllowed_of_resolve {rules : ContentRules} {scope : Scope} {element : WrittenElement}
    {resolved : Element} (rulesAllowed : AreRulesAllowed rules.attributes)
    (allowed : element.IsAllowed) (found : element.resolve rules scope = some resolved) :
    resolved.IsAllowed := by
  cases allowed with
  | @node name attributes text children attributesAllowed textAllowed childrenAllowed =>
      rw [resolve] at found
      split at found
      · cases found
      · next values valued =>
          split at found
          · cases found
          · next inner bound =>
              split at found
              · next tag expanded others _ named below =>
                  cases found
                  refine .node ?_ ?_ ?_
                  · exact areAllowed_of_attributes
                      (areAllowed_of_valuesOf rulesAllowed attributesAllowed valued) named
                  · intro present there
                    unfold textOf at there
                    split at there
                    · cases there
                    · cases there
                      rwa [String.toList_ofList]
                  · exact isAllowed_of_resolveAll rulesAllowed childrenAllowed below
              · cases found

theorem isAllowed_of_resolveAll {rules : ContentRules} {scope : Scope}
    {elements : List WrittenElement} {resolved : List Element}
    (rulesAllowed : AreRulesAllowed rules.attributes)
    (allowed : ∀ element ∈ elements, element.IsAllowed)
    (found : resolveAll rules scope elements = some resolved) :
    ∀ element ∈ resolved, element.IsAllowed := by
  cases elements with
  | nil =>
      cases found
      exact List.forall_mem_nil _
  | cons element rest =>
      obtain ⟨first, further⟩ := List.forall_mem_cons.mp allowed
      rw [resolveAll] at found
      split at found
      · next one others =>
          cases found
          exact List.forall_mem_cons.mpr
            ⟨isAllowed_of_resolve rulesAllowed first one,
              isAllowed_of_resolveAll rulesAllowed further others⟩
      · cases found

end

end WrittenElement

/-! ### Before the outermost element -/

/-- A result that leaves no rules, or rules whose default values are allowed. -/
def KeepsRulesAllowed (result : Except Fault Prolog) : Prop :=
  ∀ prolog, result = .ok prolog → AreRulesAllowed prolog.rules

theorem keepsRulesAllowed_ite {condition : Prop} [Decidable condition]
    {first second : Except Fault Prolog} (whenTrue : KeepsRulesAllowed first)
    (whenFalse : KeepsRulesAllowed second) :
    KeepsRulesAllowed (if condition then first else second) := by
  by_cases holds : condition
  · rwa [if_pos holds]
  · rwa [if_neg holds]

@[simp] theorem keepsRulesAllowed_error (fault : Fault) : KeepsRulesAllowed (.error fault) :=
  fun _ same => nomatch same

namespace Prolog

variable {prolog : Prolog}

section Steps

variable (allowed : AreRulesAllowed prolog.rules)

include allowed

theorem keepsRulesAllowed_goTo (stage : Stage) : KeepsRulesAllowed (prolog.goTo stage) := by
  intro next same
  cases same
  exact allowed

theorem keepsRulesAllowed_withPublicId (characters : List Char) (stage : Stage) :
    KeepsRulesAllowed (prolog.withPublicId characters stage) :=
  keepsRulesAllowed_ite (keepsRulesAllowed_goTo allowed stage) (keepsRulesAllowed_error _)

theorem keepsRulesAllowed_completeEntity (entity : DeclaredEntity)
    (systemId publicId : Option String) (stage : Stage) :
    KeepsRulesAllowed (prolog.completeEntity entity systemId publicId stage) :=
  keepsRulesAllowed_ite (keepsRulesAllowed_error _) (keepsRulesAllowed_goTo allowed stage)

theorem areRulesAllowed_addRule (subject : DeclaredAttribute) {default : Option String}
    (defaultAllowed : ∀ value ∈ default, AreAllowed value.toList) :
    AreRulesAllowed (prolog.addRule subject default).rules := by
  unfold addRule
  simp only
  split
  · exact allowed
  · exact List.forall_mem_append.mpr ⟨allowed, List.forall_mem_singleton.mpr defaultAllowed⟩

theorem keepsRulesAllowed_withDefault (subject : DeclaredAttribute) (characters : List Char) :
    KeepsRulesAllowed (prolog.withDefault subject characters) := by
  unfold withDefault
  refine keepsRulesAllowed_ite (keepsRulesAllowed_goTo allowed _) ?_
  split
  · exact keepsRulesAllowed_error _
  · next value known =>
      obtain ⟨parts, read, stood⟩ := Option.bind_eq_some_iff.mp known
      refine keepsRulesAllowed_goTo (areRulesAllowed_addRule allowed subject ?_) _
      rintro _ ⟨⟩
      exact ValuePart.areAllowed_value (ValuePart.isAllowed_of_readAll read) stood

theorem keepsRulesAllowed_separate (separator : Separator) (groups : List Separator) :
    KeepsRulesAllowed (prolog.separate separator groups) := by
  unfold separate
  split
  · exact keepsRulesAllowed_error _
  · exact keepsRulesAllowed_ite (keepsRulesAllowed_goTo allowed _) (keepsRulesAllowed_error _)

theorem keepsRulesAllowed_closeContentGroup (groups : List Separator) :
    KeepsRulesAllowed (prolog.closeContentGroup groups) := by
  unfold closeContentGroup
  split <;> exact keepsRulesAllowed_goTo allowed _

theorem keepsRulesAllowed_entityStep (stage : Stage) (token : Token) :
    KeepsRulesAllowed (prolog.entityStep stage token) := by
  unfold entityStep
  split <;> simp [keepsRulesAllowed_ite, keepsRulesAllowed_goTo, keepsRulesAllowed_withPublicId,
    keepsRulesAllowed_completeEntity, allowed]

theorem keepsRulesAllowed_notationStep (stage : Stage) (token : Token) :
    KeepsRulesAllowed (prolog.notationStep stage token) := by
  unfold notationStep
  split <;> simp [keepsRulesAllowed_goTo, keepsRulesAllowed_withPublicId, allowed]

theorem keepsRulesAllowed_attributeStep (stage : Stage) (token : Token) :
    KeepsRulesAllowed (prolog.attributeStep stage token) := by
  unfold attributeStep
  split <;> simp [keepsRulesAllowed_ite, keepsRulesAllowed_goTo, keepsRulesAllowed_withDefault,
    areRulesAllowed_addRule, allowed]

theorem keepsRulesAllowed_elementStep (stage : Stage) (token : Token) :
    KeepsRulesAllowed (prolog.elementStep stage token) := by
  unfold elementStep
  split <;> simp [keepsRulesAllowed_goTo, keepsRulesAllowed_separate,
    keepsRulesAllowed_closeContentGroup, allowed]

theorem keepsRulesAllowed_doctypeStep (stage : Stage) (token : Token) :
    KeepsRulesAllowed (prolog.doctypeStep stage token) := by
  unfold doctypeStep
  split <;> simp [keepsRulesAllowed_goTo, keepsRulesAllowed_withPublicId, allowed]

/-- A step leaves the rules as they are, or adds one whose default value was read. -/
theorem keepsRulesAllowed_step (token : Token) : KeepsRulesAllowed (prolog.step token) := by
  unfold step
  refine keepsRulesAllowed_ite (fun next same => ?_) ?_
  · cases same
    exact allowed
  · split <;> simp [keepsRulesAllowed_entityStep, keepsRulesAllowed_notationStep,
      keepsRulesAllowed_attributeStep, keepsRulesAllowed_elementStep,
      keepsRulesAllowed_doctypeStep, allowed]

end Steps

theorem areRulesAllowed_of_read {characters rest : List Char} {last : Prolog}
    (allowed : AreRulesAllowed prolog.rules)
    (found : prolog.read characters = .ok (last, rest)) : AreRulesAllowed last.rules := by
  fun_induction Prolog.read prolog characters with
  | case1 =>
      cases found
      exact allowed
  | case2 => cases found
  | case3 => cases found
  | case4 => cases found
  | case5 prolog characters _ token rest _ _ next stepped inductionHypothesis =>
      exact inductionHypothesis (keepsRulesAllowed_step allowed token next stepped) found

end Prolog

/-! ### Documents -/

theorem isAllowed_of_readContent {rules : ContentRules} {characters : List Char} {element : Element}
    (rulesAllowed : AreRulesAllowed rules.attributes)
    (found : readContent rules characters = some element) : element.IsAllowed := by
  unfold readContent at found
  split at found
  · next written rest known =>
      obtain ⟨pieces, divided, read⟩ := Option.bind_eq_some_iff.mp known
      split at found
      · have writtenAllowed :=
          WrittenElement.isAllowed_of_read (Piece.isAllowed_of_readAll divided) read
        exact WrittenElement.isAllowed_of_resolve rulesAllowed writtenAllowed found
      · cases found
  · cases found

theorem isAllowed_of_readCharacters {declaration : Declaration} {characters : List Char}
    {element : Element} (found : readCharacters declaration characters = .ok element) :
    element.IsAllowed := by
  unfold readCharacters at found
  split at found
  · cases found
  · next prolog content opened =>
      have noRules : AreRulesAllowed [] := List.forall_mem_nil _
      have rulesAllowed : AreRulesAllowed prolog.rules :=
        Prolog.areRulesAllowed_of_read noRules opened
      split at found
      · next read =>
          cases found
          exact isAllowed_of_readContent rulesAllowed read
      · cases found

/-- No document brings in a character that it could not hold, in whatever encoding and however it
is written. -/
theorem Document.isAllowed_of_read {document : Document} {element : Element}
    (found : document.read = .ok element) : element.IsAllowed := by
  have opened (settled : Bool) (octets : List UInt8)
      (read : ((openDocument settled octets).bind fun start =>
        readCharacters start.1 start.2) = .ok element) : element.IsAllowed := by
    cases start : openDocument settled octets with
    | error fault =>
        rw [start] at read
        cases read
    | ok start_ =>
        rw [start] at read
        exact isAllowed_of_readCharacters read
  cases document with
  | text content => exact opened true _ found
  | octets content => exact opened false content found

end GeoBridge.Xml
