import GeoBridge.Configuration.Document

/-!
Owns which documents cannot be decoded, and what becomes of all others.

Owns:
- results that are no problem of an encoding, and that every step of the reader gives such results;
- the octets that name an encoding of no use: exactly those whose reading fails with its problem;
- the ways in which the reading of a configuration ends.
-/

namespace GeoBridge.Xml

/-- A result is no problem of an encoding. It may be a fault of form. -/
def IsDecoded {α : Type} (result : Except Fault α) : Prop :=
  ∀ problem, result ≠ .error (.encoding problem)

@[simp] theorem isDecoded_ok {α : Type} (value : α) : IsDecoded (.ok value) :=
  fun _ problem => nomatch problem

@[simp] theorem isDecoded_malformed {α : Type} : IsDecoded (.error .malformed : Except Fault α) :=
  fun _ problem => nomatch problem

@[simp] theorem isDecoded_entityDeclared {α : Type} (name : String)
    (systemId publicId : Option String) :
    IsDecoded (.error (.entityDeclared name systemId publicId) : Except Fault α) :=
  fun _ problem => nomatch problem

/-- A fault that is passed on stays what it is. -/
theorem IsDecoded.passedOn {α β : Type} {fault : Fault}
    (decoded : IsDecoded (.error fault : Except Fault α)) :
    IsDecoded (.error fault : Except Fault β) := by
  rintro problem same
  cases same
  exact decoded problem rfl

theorem isDecoded_ite {α : Type} {condition : Prop} [Decidable condition]
    {first second : Except Fault α} (whenTrue : IsDecoded first) (whenFalse : IsDecoded second) :
    IsDecoded (if condition then first else second) := by
  by_cases holds : condition
  · rwa [if_pos holds]
  · rwa [if_neg holds]

/-! ### Before the outermost element -/

namespace Prolog

variable (prolog : Prolog)

@[simp] theorem isDecoded_goTo (stage : Stage) : IsDecoded (prolog.goTo stage) := isDecoded_ok _

@[simp] theorem isDecoded_withPublicId (characters : List Char) (stage : Stage) :
    IsDecoded (prolog.withPublicId characters stage) :=
  isDecoded_ite (isDecoded_goTo _ _) isDecoded_malformed

@[simp] theorem isDecoded_completeEntity (entity : DeclaredEntity)
    (systemId publicId : Option String) (stage : Stage) :
    IsDecoded (prolog.completeEntity entity systemId publicId stage) :=
  isDecoded_ite (isDecoded_entityDeclared _ _ _) (isDecoded_goTo _ _)

@[simp] theorem isDecoded_withDefault (subject : DeclaredAttribute) (characters : List Char) :
    IsDecoded (prolog.withDefault subject characters) := by
  unfold withDefault
  refine isDecoded_ite (isDecoded_goTo _ _) ?_
  split
  · exact isDecoded_malformed
  · exact isDecoded_goTo _ _

@[simp] theorem isDecoded_separate (separator : Separator) (groups : List Separator) :
    IsDecoded (prolog.separate separator groups) := by
  unfold separate
  split
  · exact isDecoded_malformed
  · exact isDecoded_ite (isDecoded_goTo _ _) isDecoded_malformed

@[simp] theorem isDecoded_closeContentGroup (groups : List Separator) :
    IsDecoded (prolog.closeContentGroup groups) := by
  unfold closeContentGroup
  split <;> exact isDecoded_goTo _ _

@[simp] theorem isDecoded_entityStep (stage : Stage) (token : Token) :
    IsDecoded (prolog.entityStep stage token) := by
  unfold entityStep
  split <;> simp [isDecoded_ite]

@[simp] theorem isDecoded_notationStep (stage : Stage) (token : Token) :
    IsDecoded (prolog.notationStep stage token) := by
  unfold notationStep
  split <;> simp

@[simp] theorem isDecoded_attributeStep (stage : Stage) (token : Token) :
    IsDecoded (prolog.attributeStep stage token) := by
  unfold attributeStep
  split <;> simp [isDecoded_ite]

@[simp] theorem isDecoded_elementStep (stage : Stage) (token : Token) :
    IsDecoded (prolog.elementStep stage token) := by
  unfold elementStep
  split <;> simp

@[simp] theorem isDecoded_doctypeStep (stage : Stage) (token : Token) :
    IsDecoded (prolog.doctypeStep stage token) := by
  unfold doctypeStep
  split <;> simp

/-- No step is a problem of an encoding, whatever the stage and the token. -/
theorem isDecoded_step (token : Token) : IsDecoded (prolog.step token) := by
  unfold step
  refine isDecoded_ite (isDecoded_ok _) ?_
  split <;> simp

theorem isDecoded_read (characters : List Char) : IsDecoded (prolog.read characters) := by
  induction prolog, characters using Prolog.read.induct with
  | case1 prolog characters begins outside =>
      rw [read, if_pos begins, if_pos outside]
      exact isDecoded_ok _
  | case2 prolog characters begins inside =>
      rw [read, if_pos begins, if_neg inside]
      exact isDecoded_malformed
  | case3 prolog characters goesOn none_ =>
      rw [read, if_neg goesOn]
      split
      · exact isDecoded_malformed
      · next found => simp [none_] at found
  | case4 prolog characters goesOn token rest found _ fault refused =>
      have stepDecoded := prolog.isDecoded_step token
      rw [refused] at stepDecoded
      rw [read, if_neg goesOn]
      split
      · exact isDecoded_malformed
      · next again =>
          rw [found] at again
          cases again
          rw [refused]
          exact stepDecoded.passedOn
  | case5 prolog characters goesOn token rest found _ next stepped inductionHypothesis =>
      rw [read, if_neg goesOn]
      split
      · exact isDecoded_malformed
      · next again =>
          rw [found] at again
          cases again
          rw [stepped]
          exact inductionHypothesis

end Prolog

/-! ### Documents -/

theorem isDecoded_readCharacters (declaration : Declaration) (characters : List Char) :
    IsDecoded (readCharacters declaration characters) := by
  have prologDecoded :=
    ({ standalone := declaration.standalone } : Prolog).isDecoded_read characters
  unfold readCharacters
  split
  · next refused =>
      rw [refused] at prologDecoded
      exact prologDecoded.passedOn
  · split
    · exact isDecoded_ok _
    · exact isDecoded_malformed

/-- Octets begin with a declaration that names an encoding, and the name is of no use. -/
def NamesUnusableEncoding (octets : List UInt8) (problem : EncodingProblem) : Prop :=
  ∃ inside count declaration name,
    Declaration.body? ((Encoding.detect octets).1.decode (Encoding.detect octets).2) =
      some (some (inside, count)) ∧
    Declaration.ofBody inside = some declaration ∧ declaration.encoding = some name ∧
    (Encoding.detect octets).1.adopt name = .error (.encoding problem)

theorem openDocument_eq_undecoded {octets : List UInt8} {problem : EncodingProblem} :
    openDocument false octets = .error (.encoding problem) ↔
      NamesUnusableEncoding octets problem := by
  unfold openDocument NamesUnusableEncoding
  constructor
  · intro undecoded
    simp only at undecoded
    split at undecoded
    · cases undecoded
    · cases undecoded
    · next inside count begins =>
        split at undecoded
        · cases undecoded
        · next declaration declared =>
            split at undecoded
            · cases undecoded
            · next name named =>
                split at undecoded
                · next fault refused =>
                    cases undecoded
                    exact ⟨inside, count, declaration, name, begins, declared, named, refused⟩
                · cases undecoded
  · rintro ⟨inside, count, declaration, name, begins, declared, named, refused⟩
    simp only [begins, declared, named, refused, Bool.false_eq_true, if_false]

/-- Where the encoding is settled from outside, the declaration is not asked for one. -/
theorem isDecoded_openDocument_settled (octets : List UInt8) :
    IsDecoded (openDocument true octets) := by
  unfold openDocument
  simp only [if_true]
  split
  · exact isDecoded_malformed
  · exact isDecoded_ok _
  · split
    · exact isDecoded_malformed
    · exact isDecoded_ok _

namespace Document

theorem read_text (content : String) :
    (text content).read = (openDocument true (Text.Utf8.encode content)).bind fun start =>
      readCharacters start.1 start.2 := rfl

theorem read_octets (content : List UInt8) :
    (octets content).read = (openDocument false content).bind fun start =>
      readCharacters start.1 start.2 := rfl

theorem isDecoded_read_text (content : String) : IsDecoded (text content).read := by
  have settled := isDecoded_openDocument_settled (Text.Utf8.encode content)
  rw [read_text]
  cases opened : openDocument true (Text.Utf8.encode content) with
  | error fault =>
      rw [opened] at settled
      exact settled.passedOn
  | ok start => exact isDecoded_readCharacters start.1 start.2

/-- The reading of octets is a problem of their encoding exactly if they name one of no use. -/
theorem read_octets_eq_undecoded {content : List UInt8} {problem : EncodingProblem} :
    (octets content).read = .error (.encoding problem) ↔
      NamesUnusableEncoding content problem := by
  rw [← openDocument_eq_undecoded, read_octets]
  cases openDocument false content with
  | error fault => simp [Except.bind]
  | ok start =>
      refine ⟨fun undecoded => ?_, fun undecoded => nomatch undecoded⟩
      exact absurd undecoded (isDecoded_readCharacters start.1 start.2 problem)

end Document

end GeoBridge.Xml

namespace GeoBridge.Configuration

/-- Whatever is no configuration is rejected, but for octets that name an encoding of no use. -/
theorem read_eq_error {document : Xml.Document} {unreadable : Unreadable}
    (failed : read document = .error unreadable) :
    (∃ rejection, unreadable = .rejected rejection) ∨
    ∃ octets problem, document = .octets octets ∧ Xml.NamesUnusableEncoding octets problem ∧
      unreadable = .undecoded problem := by
  unfold read at failed
  split at failed
  · cases failed
    exact .inl ⟨_, rfl⟩
  · cases failed
    exact .inl ⟨_, rfl⟩
  · next problem undecoded =>
      cases failed
      cases document with
      | text content => exact absurd undecoded (Xml.Document.isDecoded_read_text content problem)
      | octets content =>
          have names := Xml.Document.read_octets_eq_undecoded.mp undecoded
          exact .inr ⟨content, problem, rfl, names, rfl⟩
  · next root found =>
      split at failed
      · cases failed
      · cases failed
        exact .inl ⟨_, rfl⟩

theorem read_of_unusableEncoding {octets : List UInt8} {problem : Xml.EncodingProblem}
    (unusable : Xml.NamesUnusableEncoding octets problem) :
    read (.octets octets) = .error (.undecoded problem) := by
  unfold read
  rw [Xml.Document.read_octets_eq_undecoded.mpr unusable]

end GeoBridge.Configuration
