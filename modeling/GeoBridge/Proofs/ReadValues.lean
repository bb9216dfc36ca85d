import GeoBridge.Proofs.ConfigurationEntries
import Mathlib.Data.List.Forall2

/-!
Owns what validation reads single values and fields as.

Owns:
- what single values are read as, and that their checks accept exactly this;
- the fields of a mapping: which are given, under which name, and that nothing else is;
- required and optional fields, whose checks accept exactly what is read of them.
-/

namespace GeoBridge

open Validation

/-! ### Values -/

namespace Payload

/-- Text with a character that is not blank is read as a name, which is trimmed. -/
inductive ReadsAsName : Payload → String → Prop
  | text {text : String} :
      Text.isBlankText text = false → ReadsAsName (.text text) (Text.trim text)

/-- Null and blank text are read as no text, and other text as it is. -/
inductive ReadsAsOptionalText : Payload → Option String → Prop
  | null : ReadsAsOptionalText .null none
  | blank {text : String} :
      Text.isBlankText text = true → ReadsAsOptionalText (.text text) none
  | text {text : String} :
      Text.isBlankText text = false → ReadsAsOptionalText (.text text) (some text)

/-- Truth values are read as they are, and so are the numbers zero and one and some words, in any
case, that stand for them. -/
inductive ReadsAsTruth : Payload → Bool → Prop
  | truth (value : Bool) : ReadsAsTruth (.truth value) value
  | integer (value : Bool) : ReadsAsTruth (.integer value.toNat) value
  | real {number : Decimal.Binary64} {value : Bool} :
      number.equalsNat value.toNat = true → ReadsAsTruth (.real number) value
  | trueWord {word : String} :
      String.ofList (word.toList.map Char.toLower) ∈ Schema.trueWords →
        ReadsAsTruth (.text word) true
  | falseWord {word : String} :
      String.ofList (word.toList.map Char.toLower) ∈ Schema.falseWords →
        ReadsAsTruth (.text word) false

/-- Null and blank text are read as binary content, and text that names a kind as that kind. -/
inductive ReadsAsKind : Payload → ContentKind → Prop
  | null : ReadsAsKind .null .binary
  | blank {text : String} : Text.isBlankText text = true → ReadsAsKind (.text text) .binary
  | named {text : String} {kind : ContentKind} :
      Text.uppercase (Text.trim text) = kind.name → ReadsAsKind (.text text) kind

inductive ReadsAsText : Payload → String → Prop
  | text (text : String) : ReadsAsText (.text text) text

/-- Null is read as no variables, and a mapping as the text of its values. -/
inductive ReadsAsEnvironment : Payload → Environment → Prop
  | null : ReadsAsEnvironment .null []
  | mapping (entries : Entries) : ReadsAsEnvironment (.mapping entries)
      (Association.ofEntries (entries.map fun (key, value) => (key, value.asText)))

/-- A list is read as what its items are read as, one by one. -/
inductive ReadsAsListOf {α : Type} (reads : Payload → α → Prop) : Payload → List α → Prop
  | list {items : List Payload} {values : List α} :
      List.Forall₂ reads items values → ReadsAsListOf reads (.list items) values

end Payload

namespace Validation.Checked

variable {α : Type}

theorem both_of_seqLeft {checked : Checked α} {further : Checked Unit} {result : α}
    (found : checked <* further = .valid result) :
    checked = .valid result ∧ further = .valid () := by
  cases checked <;> cases further <;> cases found
  exact ⟨rfl, rfl⟩

theorem within_eq_valid {step : Step} {checked : Checked α} {value : α} :
    checked.within step = .valid value ↔ checked = .valid value := by
  constructor
  · exact valid_of_within
  · rintro rfl
    rfl

theorem all_eq_valid {check : Payload → Checked α} {items : List Payload} {values : List α}
    (start : Nat) :
    all ((items.zipIdx start).map fun entry => (check entry.1).within (.index entry.2)) =
        .valid values ↔
      List.Forall₂ (fun item value => check item = .valid value) items values := by
  induction items generalizing start values with
  | nil =>
      rw [List.forall₂_nil_left_iff]
      constructor
      · intro found
        cases found
        rfl
      · rintro rfl
        rfl
  | cons item rest inductionHypothesis =>
      rw [List.zipIdx_cons, List.map_cons, all]
      constructor
      · intro found
        obtain ⟨_, others, first, further, rfl⟩ := parts_of_seq found
        cases one : check item with
        | invalid _ =>
            rw [one] at first
            cases first
        | valid value =>
            rw [one] at first
            cases first
            exact .cons one ((inductionHypothesis _).mp further)
      · intro each
        obtain ⟨value, others, one, further, rfl⟩ := List.forall₂_cons_left_iff.mp each
        rw [(inductionHypothesis _).mpr further, within_eq_valid.mpr one]
        rfl

end Validation.Checked

theorem ContentKind.ofName?_eq_some {text : String} {kind : ContentKind} :
    ofName? text = some kind ↔ text = kind.name := by
  constructor
  · intro found
    unfold ofName? at found
    have named := List.find?_some found
    exact (beq_iff_eq.mp named).symm
  · rintro rfl
    exact ofName?_name kind

namespace Schema

/-! ### Checks of values -/

section Values

variable {given : Payload}

theorem name_eq_valid {blank : Rule} {text : String} :
    name blank given = .valid text ↔ given.ReadsAsName text := by
  constructor
  · intro found
    cases given with
    | text written =>
        rw [name, Text.trim_isEmpty] at found
        cases empty : Text.isBlankText written with
        | true =>
            rw [if_pos empty] at found
            cases found
        | false =>
            rw [empty] at found
            cases found
            exact .text empty
    | null | truth | integer | real | list | mapping => cases found
  · rintro ⟨proper⟩
    rw [name, Text.trim_isEmpty, proper]
    rfl

theorem optionalText_eq_valid {text : Option String} :
    optionalText given = .valid text ↔ given.ReadsAsOptionalText text := by
  constructor
  · intro found
    cases given with
    | null =>
        cases found
        exact .null
    | text written =>
        rw [optionalText] at found
        cases empty : Text.isBlankText written with
        | true =>
            rw [if_pos empty] at found
            cases found
            exact .blank empty
        | false =>
            rw [empty] at found
            cases found
            exact .text empty
    | truth | integer | real | list | mapping => cases found
  · intro reads
    cases reads with
    | null => rfl
    | blank empty => rw [optionalText, if_pos empty]
    | text proper => exact optionalText_of_proper proper

theorem truthOfInteger_eq_valid {number : Int} {value : Bool} :
    truthOfInteger number = .valid value ↔ number = value.toNat := by
  unfold truthOfInteger
  constructor
  · intro found
    split at found
    · next zero =>
        cases found
        exact zero
    · split at found
      · next one =>
          cases found
          exact one
      · split at found <;> cases found
  · rintro rfl
    cases value <;> rfl

theorem truthOfReal_eq_valid {number : Decimal.Binary64} {value : Bool} :
    truthOfReal number = .valid value ↔ number.equalsNat value.toNat = true := by
  have zero : number.equalsNat 0 = (number.significand == 0 && number.isFinite) := by
    have positive := Decimal.twoTo_pos number.power.toNat
    rw [Bool.eq_iff_iff, Decimal.Binary64.equalsNat]
    simp only [Bool.and_eq_true, Bool.or_true, beq_self_eq_true, Nat.zero_mul, beq_iff_eq,
      Nat.mul_eq_zero, and_true]
    constructor
    · rintro ⟨finite, vanishes⟩
      exact ⟨vanishes.resolve_right (Nat.ne_of_gt positive), finite⟩
    · rintro ⟨vanishes, finite⟩
      exact ⟨finite, .inl vanishes⟩
  have notBoth (isZero : number.equalsNat 0 = true) (isOne : number.equalsNat 1 = true) :
      False := by
    rw [zero, Bool.and_eq_true, beq_iff_eq] at isZero
    have positive := Decimal.twoTo_pos (-number.power).toNat
    simp only [Decimal.Binary64.equalsNat, isZero.1, Nat.zero_mul, Nat.one_mul, Bool.and_eq_true,
      beq_iff_eq] at isOne
    omega
  unfold truthOfReal
  rw [← zero]
  constructor
  · intro found
    split at found
    · next isZero =>
        cases found
        exact isZero
    · split at found
      · next isOne =>
          cases found
          exact isOne
      · split at found <;> cases found
  · intro equals
    cases value with
    | false => exact if_pos equals
    | true => exact (if_neg (notBoth · equals)).trans (if_pos equals)

theorem truth_eq_valid {value : Bool} : truth given = .valid value ↔ given.ReadsAsTruth value := by
  constructor
  · intro found
    cases given with
    | truth value =>
        cases found
        exact .truth value
    | integer number =>
        rw [truthOfInteger_eq_valid.mp found]
        exact .integer value
    | real number => exact .real (truthOfReal_eq_valid.mp found)
    | text word =>
        rw [truth, truthOfWord] at found
        simp only [List.contains_iff_mem] at found
        split at found
        · next isTrue =>
            cases found
            exact .trueWord isTrue
        · split at found
          · next isFalse =>
              cases found
              exact .falseWord isFalse
          · cases found
    | null | list | mapping => cases found
  · intro reads
    have apart : ∀ word ∈ falseWords, word ∉ trueWords := by decide
    cases reads with
    | truth => rfl
    | integer => exact truthOfInteger_eq_valid.mpr rfl
    | real equals => exact truthOfReal_eq_valid.mpr equals
    | trueWord isTrue => rw [truth, truthOfWord, if_pos (List.contains_iff_mem.mpr isTrue)]
    | falseWord isFalse =>
        have notTrue := mt List.contains_iff_mem.mp (apart _ isFalse)
        rw [truth, truthOfWord, if_neg notTrue, if_pos (List.contains_iff_mem.mpr isFalse)]

theorem contentKind_eq_valid {kind : ContentKind} :
    contentKind given = .valid kind ↔ given.ReadsAsKind kind := by
  constructor
  · intro found
    cases given with
    | null =>
        cases found
        exact .null
    | text written =>
        rw [contentKind] at found
        split at found
        · next empty =>
            cases found
            exact .blank empty
        · split at found
          · next named =>
              cases found
              exact .named (ContentKind.ofName?_eq_some.mp named)
          · cases found
    | truth | integer | real | list | mapping => cases found
  · intro reads
    cases reads with
    | null => rfl
    | blank empty => rw [contentKind, if_pos empty]
    | @named written _ named =>
        -- Blank text is tested for first, but no kind has a blank name.
        have proper : Text.isBlankText written = false := by
          rw [← Text.trim_isEmpty]
          by_contra empty
          rw [Bool.not_eq_false, String.isEmpty_iff] at empty
          have nothing : Text.uppercase "" = "" := by simp [Text.uppercase]
          rw [empty, nothing] at named
          cases kind <;> exact absurd named (by decide)
        have known : ContentKind.read? written = some kind := ContentKind.ofName?_eq_some.mpr named
        rw [contentKind, proper, known]
        rfl

theorem verbatim_eq_valid {text : String} :
    verbatim given = .valid text ↔ given.ReadsAsText text := by
  constructor
  · intro found
    cases given with
    | text written =>
        cases found
        exact .text _
    | null | truth | integer | real | list | mapping => cases found
  · rintro ⟨⟩
    rfl

theorem environment_eq_valid {bound : Environment} :
    environment given = .valid bound ↔ given.ReadsAsEnvironment bound := by
  constructor
  · intro found
    cases given with
    | null =>
        cases found
        exact .null
    | mapping entries =>
        cases found
        exact .mapping entries
    | truth | integer | real | text | list => cases found
  · intro reads
    cases reads <;> rfl

theorem listOf_eq_valid {α : Type} {check : Payload → Checked α} {reads : Payload → α → Prop}
    (exactly : ∀ item value, check item = .valid value ↔ reads item value) {values : List α} :
    listOf check given = .valid values ↔ given.ReadsAsListOf reads values := by
  have same : (fun item value => check item = .valid value) = reads := by
    funext item value
    exact propext (exactly item value)
  constructor
  · intro found
    cases given with
    | list items => exact .list (same ▸ (Checked.all_eq_valid 0).mp found)
    | null | truth | integer | real | text | mapping => cases found
  · rintro ⟨each⟩
    exact (Checked.all_eq_valid 0).mpr (same ▸ each)

end Values

end Schema

/-! ### Fields -/

namespace Payload.Entries

variable {entries : Entries} {names : FieldNames} {fields : List FieldNames} {given : Payload}

/-- A value is given under a key. -/
def Has (entries : Entries) (key : String) : Prop := key ∈ entries.map Prod.fst

/-- A field is given a value, under one of its names. -/
def Gives (entries : Entries) (names : FieldNames) (given : Payload) : Prop :=
  ∃ name ∈ names, entries.lookup name = some given

/-- A field is given under one of its names at most. -/
def GivesOnce (entries : Entries) (names : FieldNames) : Prop :=
  ∀ first ∈ names, ∀ second ∈ names, entries.Has first → entries.Has second → first = second

/-- Nothing is given but fields, and each under one of its names at most. -/
structure Fits (entries : Entries) (fields : List FieldNames) : Prop where
  known : ∀ key, entries.Has key → ∃ names ∈ fields, key ∈ names
  once : ∀ names ∈ fields, entries.GivesOnce names

theorem lookup_cons_of_ne {key other : String} {value : Payload} (differs : other ≠ key) :
    List.lookup other ((key, value) :: entries) = entries.lookup other := by
  rw [List.lookup_cons, beq_eq_false_iff_ne.mpr differs]

theorem has_iff {key : String} : entries.Has key ↔ ∃ given, entries.lookup key = some given := by
  induction entries with
  | nil => simp [Has]
  | cons entry rest inductionHypothesis =>
      obtain ⟨first, value⟩ := entry
      by_cases same : key = first
      · simp [Has, same]
      · rw [lookup_cons_of_ne same, ← inductionHypothesis]
        simp [Has, same]

theorem gives_of_present? {key : String}
    (present : Schema.present? names entries = some (key, given)) :
    key ∈ names ∧ entries.lookup key = some given := by
  unfold Schema.present? at present
  obtain ⟨name, member, found⟩ := List.exists_of_findSome?_eq_some present
  obtain ⟨value, there, same⟩ := Option.map_eq_some_iff.mp found
  cases same
  exact ⟨member, there⟩

theorem present?_of_has {key : String} (member : key ∈ names) (has : entries.Has key) :
    ∃ found given, Schema.present? names entries = some (found, given) := by
  cases absent : Schema.present? names entries with
  | some found => exact ⟨found.1, found.2, rfl⟩
  | none =>
      obtain ⟨given, there⟩ := has_iff.mp has
      have nothing := List.findSome?_eq_none_iff.mp absent key member
      rw [there] at nothing
      cases nothing

/-- The value of a field that is given once is found under whichever name it has. -/
theorem gives_iff_present? (once : entries.GivesOnce names) :
    entries.Gives names given ↔ ∃ key, Schema.present? names entries = some (key, given) := by
  constructor
  · rintro ⟨name, member, there⟩
    have has := has_iff.mpr ⟨given, there⟩
    obtain ⟨key, found, present⟩ := present?_of_has member has
    obtain ⟨among, lookup⟩ := gives_of_present? present
    have same := once key among name member (has_iff.mpr ⟨found, lookup⟩) has
    rw [same, there] at lookup
    cases lookup
    exact ⟨key, present⟩
  · rintro ⟨key, present⟩
    exact ⟨key, gives_of_present? present⟩

/-- No further keys are found exactly in what fits fields of which no two share a name. -/
theorem noFurtherKeys_eq_valid
    (apart : ∀ names ∈ fields, ∀ others ∈ fields, ∀ key ∈ names, key ∈ others → names = others) :
    Schema.noFurtherKeys fields entries = .valid () ↔ entries.Fits fields := by
  have all_iff : Schema.noFurtherKeys fields entries = .valid () ↔
      ∀ key, entries.Has key →
        ∃ names ∈ fields, ∃ given, Schema.present? names entries = some (key, given) := by
    unfold Schema.noFurtherKeys
    simp only
    split
    · next nothing =>
        simp only [true_iff]
        intro key has
        simpa using List.filter_eq_nil_iff.mp nothing key has
    · next further =>
        simp only [reduceCtorEq, false_iff]
        intro all
        refine further (List.filter_eq_nil_iff.mpr fun key has => ?_)
        simpa using all key has
  rw [all_iff]
  constructor
  · intro all
    -- Only the first name of a field that is present is found, so that a second one is left over.
    have uses (names : FieldNames) (field : names ∈ fields) (key : String) (member : key ∈ names)
        (has : entries.Has key) : ∃ given, Schema.present? names entries = some (key, given) := by
      obtain ⟨others, other, given, present⟩ := all key has
      rw [apart names field others other key member (gives_of_present? present).1]
      exact ⟨given, present⟩
    constructor
    · intro key has
      obtain ⟨names, field, given, present⟩ := all key has
      exact ⟨names, field, (gives_of_present? present).1⟩
    · intro names field first firstName second secondName hasFirst hasSecond
      obtain ⟨_, one⟩ := uses names field first firstName hasFirst
      obtain ⟨_, other⟩ := uses names field second secondName hasSecond
      rw [one] at other
      cases other
      rfl
  · intro fits key has
    obtain ⟨names, field, member⟩ := fits.known key has
    obtain ⟨found, given, present⟩ := present?_of_has member has
    obtain ⟨among, there⟩ := gives_of_present? present
    have same := fits.once names field found among key member (has_iff.mpr ⟨given, there⟩) has
    rw [same] at present
    exact ⟨names, field, given, present⟩

/-- A field is given, and its value is read. -/
def Requires {α : Type} (entries : Entries) (names : FieldNames) (reads : Payload → α → Prop)
    (value : α) : Prop :=
  ∃ given, entries.Gives names given ∧ reads given value

/-- A field is read where it is given, and has its default where it is not. -/
def Allows {α : Type} (entries : Entries) (names : FieldNames) (reads : Payload → α → Prop)
    (absent value : α) : Prop :=
  entries.Requires names reads value ∨ (∀ given, ¬entries.Gives names given) ∧ value = absent

section Checks

variable {α : Type} {check : Payload → Checked α} {reads : Payload → α → Prop} {absent value : α}

theorem required_eq_valid (once : entries.GivesOnce names)
    (exactly : ∀ given value, check given = .valid value ↔ reads given value) :
    Schema.required names check entries = .valid value ↔ entries.Requires names reads value := by
  unfold Schema.required Requires
  constructor
  · intro found
    split at found
    · cases found
    · next key given present =>
        have checked := Checked.within_eq_valid.mp found
        exact ⟨given, (gives_iff_present? once).mpr ⟨key, present⟩, (exactly _ _).mp checked⟩
  · rintro ⟨given, gives, means⟩
    obtain ⟨key, present⟩ := (gives_iff_present? once).mp gives
    rw [present]
    exact Checked.within_eq_valid.mpr ((exactly _ _).mpr means)

theorem optional_eq_valid (once : entries.GivesOnce names)
    (exactly : ∀ given value, check given = .valid value ↔ reads given value) :
    Schema.optional names absent check entries = .valid value ↔
      entries.Allows names reads absent value := by
  unfold Schema.optional Allows Requires
  cases present : Schema.present? names entries with
  | none =>
      have missing : ∀ given, ¬entries.Gives names given := by
        intro given gives
        obtain ⟨key, there⟩ := (gives_iff_present? once).mp gives
        rw [present] at there
        cases there
      constructor
      · intro found
        cases found
        exact .inr ⟨missing, rfl⟩
      · rintro (⟨given, gives, -⟩ | ⟨-, rfl⟩)
        · exact (missing given gives).elim
        · rfl
  | some found =>
      obtain ⟨key, given⟩ := found
      have gives := (gives_iff_present? once).mpr ⟨key, present⟩
      constructor
      · intro found
        exact .inl ⟨given, gives, (exactly _ _).mp (Checked.within_eq_valid.mp found)⟩
      · rintro (⟨other, otherGiven, means⟩ | ⟨missing, -⟩)
        · obtain ⟨_, there⟩ := (gives_iff_present? once).mp otherGiven
          rw [present] at there
          cases there
          exact Checked.within_eq_valid.mpr ((exactly _ _).mpr means)
        · exact (missing given gives).elim

end Checks

/-- The value of a field that is given once is the one that is read. -/
theorem Allows.reads_of_gives {α : Type} {reads : Payload → α → Prop} {absent value : α}
    (allows : entries.Allows names reads absent value) (once : entries.GivesOnce names)
    (gives : entries.Gives names given) : reads given value := by
  rcases allows with ⟨other, otherGiven, means⟩ | ⟨missing, -⟩
  · obtain ⟨_, present⟩ := (gives_iff_present? once).mp gives
    obtain ⟨_, there⟩ := (gives_iff_present? once).mp otherGiven
    rw [present] at there
    cases there
    exact means
  · exact (missing given gives).elim

end Payload.Entries

end GeoBridge
