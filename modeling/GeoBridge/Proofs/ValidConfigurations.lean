import GeoBridge.Configuration.Schema
import GeoBridge.Proofs.TrimmedText

/-!
Owns the normal form of configurations that pass validation.

Owns:
- the checks that went before a valid value: none of them found anything;
- what the check of a single field grants;
- the normal form of formats and configurations.
-/

namespace GeoBridge

/-! ### Checks that found nothing -/

namespace Validation.Checked

variable {α β : Type}

theorem parts_of_map {transform : α → β} {checked : Checked α} {result : β}
    (found : transform <$> checked = .valid result) :
    ∃ value, checked = .valid value ∧ transform value = result := by
  cases checked with
  | valid value =>
      cases found
      exact ⟨value, rfl, rfl⟩
  | invalid _ => cases found

theorem parts_of_seq {transform : Checked (α → β)} {checked : Checked α} {result : β}
    (found : transform <*> checked = .valid result) :
    ∃ function value, transform = .valid function ∧ checked = .valid value ∧
      function value = result := by
  cases transform with
  | valid function =>
      cases checked with
      | valid value =>
          cases found
          exact ⟨function, value, rfl, rfl, rfl⟩
      | invalid _ => cases found
  | invalid _ => cases checked <;> cases found

theorem parts_of_seqLeft {checked : Checked α} {further : Checked β} {result : α}
    (found : checked <* further = .valid result) : checked = .valid result := by
  cases checked <;> cases further <;> cases found
  rfl

theorem valid_of_within {step : Step} {checked : Checked α} {value : α}
    (found : checked.within step = .valid value) : checked = .valid value := by
  cases checked with
  | valid _ =>
      cases found
      rfl
  | invalid _ => cases found

/-- Each value of a list without findings is the valid value of one of its checks. -/
theorem valid_mem_of_all {checks : List (Checked α)} {values : List α}
    (found : all checks = .valid values) : ∀ value ∈ values, .valid value ∈ checks := by
  induction checks generalizing values with
  | nil =>
      cases found
      exact fun _ member => absurd member List.not_mem_nil
  | cons check rest inductionHypothesis =>
      obtain ⟨function, further, first, others, rfl⟩ := @parts_of_seq _ _ _ (all rest) _ found
      cases check with
      | valid value =>
          cases first
          intro other member
          rcases List.mem_cons.mp member with rfl | later
          · exact List.mem_cons_self
          · exact List.mem_cons_of_mem _ (inductionHypothesis others other later)
      | invalid _ => cases first

end Validation.Checked

open Validation

/-- Text that may stand as a name: trimmed, and not empty. -/
def IsProperName (text : String) : Prop := Text.trim text = text ∧ text.isEmpty = false

/-- Text that may be absent, but is not blank where it is there. -/
def IsBlankNowhere (text : Option String) : Prop :=
  ∀ present, text = some present → Text.isBlankText present = false

theorem isEmpty_of_notBlank {text : String} (proper : Text.isBlankText text = false) :
    text.isEmpty = false := by
  by_contra empty
  rw [Bool.not_eq_false, String.isEmpty_iff] at empty
  rw [empty] at proper
  cases proper

namespace Schema

/-! ### Single fields -/

variable {α : Type} {names : FieldNames} {check : Payload → Checked α} {entries : Payload.Entries}

theorem valid_of_required {value : α} (found : required names check entries = .valid value) :
    ∃ given, check given = .valid value := by
  unfold required at found
  split at found
  · cases found
  · exact ⟨_, Checked.valid_of_within found⟩

theorem valid_of_optional {absent value : α}
    (found : optional names absent check entries = .valid value) :
    value = absent ∨ ∃ given, check given = .valid value := by
  unfold optional at found
  split at found
  · cases found
    exact .inl rfl
  · exact .inr ⟨_, Checked.valid_of_within found⟩

theorem isProperName_of_name {blank : Rule} {given : Payload} {text : String}
    (found : name blank given = .valid text) : IsProperName text := by
  unfold name at found
  split at found
  · simp only at found
    split at found
    · cases found
    · next proper =>
        cases found
        exact ⟨Text.trim_trim _, Bool.not_eq_true _ |>.mp proper⟩
  · cases found

theorem isBlankNowhere_of_optionalText {given : Payload} {text : Option String}
    (found : optionalText given = .valid text) : IsBlankNowhere text := by
  unfold optionalText at found
  split at found
  · cases found
    exact fun _ same => absurd same (by simp)
  · cases found
    intro present same
    split at same
    · cases same
    · next proper =>
        cases same
        exact Bool.not_eq_true _ |>.mp proper
  · cases found

theorem distinct_of_environment {given : Payload} {bound : Environment}
    (found : environment given = .valid bound) : (Association.keys bound).Nodup := by
  unfold environment at found
  split at found
  · cases found
    exact List.nodup_nil
  · cases found
    exact Association.nodup_keys_ofEntries _
  · cases found

end Schema

/-! ### Formats and configurations -/

/-- What validation grants of a format. -/
structure Format.IsNormal (format : Format) : Prop where
  toolCode : IsProperName format.toolCode
  publicName : IsProperName format.publicName
  extension : IsBlankNowhere format.extension
  mimeType : IsBlankNowhere format.mimeType

/-- What validation grants of a configuration. -/
structure Configuration.IsNormal (configuration : Configuration) : Prop where
  executable : IsProperName configuration.executable
  dataPath : IsBlankNowhere configuration.dataPath
  distinct : (Association.keys configuration.environment).Nodup
  formats : ∀ format ∈ configuration.formats, format.IsNormal
  unique : Schema.uniquelyNamed configuration = .valid configuration

namespace Schema

theorem isBlankNowhere_of_optional {names : FieldNames} {entries : Payload.Entries}
    {text : Option String} (found : optional names none optionalText entries = .valid text) :
    IsBlankNowhere text := by
  rcases valid_of_optional found with rfl | ⟨given, checked⟩
  · exact fun _ same => absurd same (by simp)
  · exact isBlankNowhere_of_optionalText checked

theorem isNormal_of_format {given : Payload} {accepted : Format}
    (found : format given = .valid accepted) : accepted.IsNormal := by
  unfold format at found
  split at found
  · unfold formatOfEntries at found
    have fields := Checked.parts_of_seqLeft found
    obtain ⟨_, _, upToKind, -, rfl⟩ := Checked.parts_of_seq fields
    obtain ⟨_, _, upToMimeType, -, rfl⟩ := Checked.parts_of_seq upToKind
    obtain ⟨_, mimeType, upToSingleFile, mime, rfl⟩ := Checked.parts_of_seq upToMimeType
    obtain ⟨_, _, upToExtension, -, rfl⟩ := Checked.parts_of_seq upToSingleFile
    obtain ⟨_, extension, names, ending, rfl⟩ := Checked.parts_of_seq upToExtension
    obtain ⟨_, publicName, first, public_, rfl⟩ := Checked.parts_of_seq names
    obtain ⟨toolCode, code, rfl⟩ := Checked.parts_of_map first
    obtain ⟨_, code⟩ := valid_of_required code
    obtain ⟨_, public_⟩ := valid_of_required public_
    exact ⟨isProperName_of_name code, isProperName_of_name public_,
      isBlankNowhere_of_optional ending, isBlankNowhere_of_optional mime⟩
  · cases found

theorem isNormal_of_formats {given : Payload} {accepted : List Format}
    (found : listOf format given = .valid accepted) : ∀ format ∈ accepted, format.IsNormal := by
  unfold listOf at found
  split at found
  · intro one member
    obtain ⟨⟨item, position⟩, -, checked⟩ :=
      List.mem_map.mp (Checked.valid_mem_of_all found one member)
    exact isNormal_of_format (Checked.valid_of_within checked)
  · cases found

/-- Uniqueness is only checked, and changes nothing. -/
theorem eq_of_uniquelyNamed {given accepted : Configuration}
    (found : uniquelyNamed given = .valid accepted) : given = accepted := by
  unfold uniquelyNamed at found
  split at found
  · cases found
    rfl
  · cases found

/-- Every configuration that validation accepts is in normal form. -/
theorem isNormal_of_configuration {payload : Payload} {accepted : Configuration}
    (found : configuration payload = .valid accepted) : accepted.IsNormal := by
  unfold configuration at found
  split at found
  · split at found
    · next fields =>
        obtain rfl := eq_of_uniquelyNamed found
        unfold fieldsOfConfiguration at fields
        have known := Checked.parts_of_seqLeft fields
        obtain ⟨_, _, upToEnvironment, formatsFound, rfl⟩ := Checked.parts_of_seq known
        obtain ⟨_, _, upToDataPath, environmentFound, rfl⟩ := Checked.parts_of_seq upToEnvironment
        obtain ⟨_, _, first, dataPathFound, rfl⟩ := Checked.parts_of_seq upToDataPath
        obtain ⟨_, executableFound, rfl⟩ := Checked.parts_of_map first
        obtain ⟨_, executableFound⟩ := valid_of_required executableFound
        refine ⟨isProperName_of_name executableFound, isBlankNowhere_of_optional dataPathFound,
          ?_, ?_, found⟩
        · rcases valid_of_optional environmentFound with rfl | ⟨_, checked⟩
          · exact List.nodup_nil
          · exact distinct_of_environment checked
        · rcases valid_of_optional formatsFound with rfl | ⟨_, checked⟩
          · exact fun _ member => absurd member List.not_mem_nil
          · exact isNormal_of_formats checked
    · cases found
  · cases found

end Schema

end GeoBridge
