import GeoBridge.Crs.Geodesy
import GeoBridge.Proofs.NormalizedText

/-!
Owns which coordinate systems have a text, and how the others are refused.

Owns:
- descriptions of systems, which fail in words about the input or in those of the library;
- answers of systems, of which only texts that are not empty are accepted;
- the end of every request for the text of a documented system: a usable text or a refusal, and the
  two ways in which it comes to neither.
-/

namespace GeoBridge

open Text (WideText)

namespace Crs

variable {library : CrsLibrary} {crs : Crs} {shown : String} {answer : CrsAnswer}
  {failure : Failure}

/-! ### Descriptions -/

/-- A system is documented if it is named by a user, known to the library, or answers by a text. -/
def IsDocumented : Crs → Prop
  | .custom _ (.value _) | .other _ => False
  | _ => True

/-- A system is untold if it is known to the library, which fails to tell a text of it. -/
def IsUntold (library : CrsLibrary) (crs : Crs) : Prop :=
  ∃ system reason, crs = .known system ∧ library.textOf system = .error reason

/-- A system is blank if it answers by a text that is not empty and holds nothing but blanks. -/
def IsBlankIn (library : CrsLibrary) (crs : Crs) : Prop :=
  ∃ shown content, crs.description library = .ok (shown, .text content) ∧ content ≠ [] ∧
    ∀ sign ∈ content, isBlankSign sign = true

theorem ofInput_error {found : Except String Nat}
    (refused : ofInput library shown found = .error failure) : ∃ cause, failure = .crs cause := by
  unfold ofInput at refused
  split at refused <;> cases refused
  exact ⟨_, rfl⟩

theorem ofInput_ok {found : Except String Nat} {name : String}
    (described : ofInput library name found = .ok (shown, answer)) :
    ∃ told, answer = .ofTold told := by
  unfold ofInput at described
  split at described <;> cases described
  exact ⟨_, rfl⟩

theorem ofTold_cases (told : Option String) :
    (∃ content, CrsAnswer.ofTold told = .text content) ∨
      CrsAnswer.ofTold told = .value .null := by
  cases told with
  | none => exact .inr rfl
  | some content => exact .inl ⟨_, rfl⟩

theorem description_of_untold {system : Nat} {reason : String}
    (untold : library.textOf system = .error reason) :
    (known system).description library = .error (.geodesy reason) := by
  rw [description, untold]

/-- Documented systems are undescribed in words about the input, or the library does not tell
them. -/
theorem description_error (documented : crs.IsDocumented)
    (refused : crs.description library = .error failure) :
    (∃ cause, failure = .crs cause) ∨ crs.IsUntold library := by
  cases crs with
  | integer _ | truth _ | text _ => exact .inl (ofInput_error refused)
  | known system =>
      cases told : library.textOf system with
      | error reason => exact .inr ⟨system, reason, rfl, told⟩
      | ok found =>
          rw [description, told] at refused
          cases refused
  | custom shown answer => cases refused
  | other payload => exact documented.elim

/-- Documented systems answer by a text or by nothing. -/
theorem description_ok (documented : crs.IsDocumented)
    (described : crs.description library = .ok (shown, answer)) :
    (∃ content, answer = .text content) ∨ answer = .value .null := by
  have named {shown name : String} {found : Except String Nat}
      (described : ofInput library name found = .ok (shown, answer)) :
      (∃ content, answer = .text content) ∨ answer = .value .null := by
    obtain ⟨told, rfl⟩ := ofInput_ok described
    exact ofTold_cases told
  cases crs with
  | integer _ | truth _ | text _ => exact named described
  | known system =>
      rw [description] at described
      split at described <;> cases described
      exact ofTold_cases _
  | custom name answer =>
      cases described
      cases answer with
      | text content => exact .inl ⟨content, rfl⟩
      | value payload => exact documented.elim
  | other payload => exact documented.elim

/-! ### Texts -/

/-- What a caller can rely on: a text that is not empty and in normal form, or a refusal as a
coordinate system. -/
def IsUsableOrRefused (result : Except Failure WideText) : Prop :=
  (∃ text, result = .ok text ∧ text ≠ [] ∧ normalize text = text) ∨
    ∃ cause, result = .error (.crs cause)

theorem serialize_text {content : WideText} (proper : content ≠ []) :
    serialize shown (.text content) = .ok (normalize content) :=
  if_neg (by simpa using proper)

theorem serialize_error (refused : serialize shown answer = .error failure) :
    failure = .crs (.noText shown) ∨
      ∃ payload, answer = .value payload ∧ payload.isNothing = false ∧
        failure = .notText payload.kindName := by
  cases answer with
  | text content =>
      rw [serialize] at refused
      split at refused <;> cases refused
      exact .inl rfl
  | value payload =>
      rw [serialize] at refused
      split at refused
      · cases refused
        exact .inl rfl
      · next something =>
          cases refused
          exact .inr ⟨payload, rfl, Bool.eq_false_iff.mpr something, rfl⟩

/-- Without a text there was no description, or none in its answer. -/
theorem wellKnownTextIn_error (refused : crs.wellKnownTextIn library = .error failure) :
    crs.description library = .error failure ∨
      ∃ shown answer, crs.description library = .ok (shown, answer) ∧
        serialize shown answer = .error failure := by
  rw [wellKnownTextIn] at refused
  cases described : crs.description library with
  | error undescribed =>
      rw [described] at refused
      cases refused
      exact .inl rfl
  | ok description =>
      rw [described] at refused
      exact .inr ⟨_, _, rfl, refused⟩

theorem wellKnownTextIn_of_blank (blank : crs.IsBlankIn library) :
    crs.wellKnownTextIn library = .ok [] := by
  obtain ⟨shown, content, described, proper, blanks⟩ := blank
  rw [wellKnownTextIn, described]
  change serialize shown (.text content) = .ok []
  rw [serialize_text proper, normalize_eq_nil_iff.mpr blanks]

theorem wellKnownTextIn_of_untold {system : Nat} {reason : String}
    (untold : library.textOf system = .error reason) :
    (known system).wellKnownTextIn library = .error (.geodesy reason) := by
  rw [wellKnownTextIn, description_of_untold untold]
  rfl

theorem isUsableOrRefused_of_described (documented : crs.IsDocumented)
    (told : ¬ crs.IsUntold library) (proper : ¬ crs.IsBlankIn library) :
    IsUsableOrRefused (crs.wellKnownTextIn library) := by
  cases described : crs.description library with
  | error failure =>
      rcases description_error documented described with ⟨cause, rfl⟩ | untold
      · exact .inr ⟨cause, by rw [wellKnownTextIn, described]; rfl⟩
      · exact absurd untold told
  | ok description =>
      obtain ⟨shown, answer⟩ := description
      have ends : crs.wellKnownTextIn library = serialize shown answer := by
        rw [wellKnownTextIn, described]
        rfl
      rw [ends]
      rcases description_ok documented described with ⟨content, rfl⟩ | rfl
      · by_cases vacant : content = []
        · rw [vacant]
          exact .inr ⟨_, rfl⟩
        · rw [serialize_text vacant]
          refine .inl ⟨_, rfl, fun nothing => proper ?_, normalize_normalize content⟩
          exact ⟨shown, content, described, vacant, normalize_eq_nil_iff.mp nothing⟩
      · exact .inr ⟨_, rfl⟩

/-- A documented system is refused or gets a usable text, but for two cases: The failure of a
library to tell the text of a known system passes through, and of a text that holds nothing but
blanks nothing is left. -/
theorem usable_or_refused (library : CrsLibrary) {crs : Crs} (documented : crs.IsDocumented) :
    (IsUsableOrRefused (crs.wellKnownTextIn library) ↔
      ¬ crs.IsUntold library ∧ ¬ crs.IsBlankIn library) ∧
    (∀ system reason, crs = .known system → library.textOf system = .error reason →
      crs.wellKnownTextIn library = .error (.geodesy reason)) ∧
    (crs.IsBlankIn library → crs.wellKnownTextIn library = .ok []) := by
  refine ⟨⟨fun settled => ⟨?_, ?_⟩,
      fun ⟨told, proper⟩ => isUsableOrRefused_of_described documented told proper⟩,
    fun system reason known untold => known ▸ wellKnownTextIn_of_untold untold,
    wellKnownTextIn_of_blank⟩
  · rintro ⟨system, reason, rfl, untold⟩
    rw [wellKnownTextIn_of_untold untold] at settled
    rcases settled with ⟨text, told, -⟩ | ⟨cause, refused⟩
    · cases told
    · cases refused
  · intro blank
    rw [wellKnownTextIn_of_blank blank] at settled
    rcases settled with ⟨text, told, proper, -⟩ | ⟨cause, refused⟩
    · exact proper (Except.ok.inj told).symm
    · cases refused

/-- A library that knows one system, but has no text for it. -/
def heightsAlone : CrsLibrary := Geodesy.library { systems := [(4979, none)], reason := "no text" }

/-- A system that answers by a line break. -/
def lineBreakSystem : Crs := custom "<custom>" (.text (.ofString "\n"))

/-- Nothing is left of a line break, and the failure to tell the heights passes through. -/
theorem line_break_is_not_refused :
    lineBreakSystem.wellKnownTextIn heightsAlone = .ok [] ∧
      ¬ IsUsableOrRefused (lineBreakSystem.wellKnownTextIn heightsAlone) ∧
      (known 4979).wellKnownTextIn heightsAlone = .error (.geodesy "no text") := by
  have documented : lineBreakSystem.IsDocumented := trivial
  have blank : lineBreakSystem.IsBlankIn heightsAlone := ⟨_, _, rfl, by decide, by decide⟩
  obtain ⟨exactly, -, empty⟩ := usable_or_refused heightsAlone documented
  have heights : (known 4979).IsDocumented := trivial
  have untold := (usable_or_refused heightsAlone heights).2.1
  exact ⟨empty blank, fun settled => (exactly.mp settled).2 blank, untold 4979 "no text" rfl rfl⟩

end Crs

end GeoBridge
