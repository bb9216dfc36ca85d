import GeoBridge.Crs.WellKnownText
import GeoBridge.Proofs.TrimmedText
import Mathlib.Data.List.Chain

/-!
Owns the normal form of well-known text: what it leaves out, and that it is one.

Owns:
- the collapse of spaces, which keeps every kind of sign and leaves no two spaces together;
- normalized text: one line, single spaces, no blanks at the ends;
- normalization, which leads to normalized text, keeps it, and leaves nothing of blank text alone.
-/

namespace GeoBridge.Crs

open Text (Sign WideText)

variable {text : WideText} {sign next : Sign}

/-! ### Spaces -/

/-- Signs that may follow each other in collapsed text. -/
def NotBothSpaces (sign next : Sign) : Prop := (isSpaceSign sign && isSpaceSign next) = false

theorem eq_of_spaces (spaces : (isSpaceSign sign && isSpaceSign next) = true) : sign = next := by
  simp only [isSpaceSign, Bool.and_eq_true, beq_iff_eq] at spaces
  rw [spaces.1, spaces.2]

theorem head?_collapseSpaces (text : WideText) : (collapseSpaces text).head? = text.head? := by
  fun_induction collapseSpaces text with
  | case1 => rfl
  | case2 => rfl
  | case3 first next rest spaces inductionHypothesis =>
      rw [inductionHypothesis, eq_of_spaces spaces]
      rfl
  | case4 => rfl

/-- Collapsed text holds the same signs, though fewer of them. -/
theorem mem_collapseSpaces : sign ∈ collapseSpaces text ↔ sign ∈ text := by
  fun_induction collapseSpaces text with
  | case1 => rfl
  | case2 => rfl
  | case3 first next rest spaces inductionHypothesis =>
      rw [inductionHypothesis, eq_of_spaces spaces, List.mem_cons (l := next :: rest)]
      exact (or_iff_right_of_imp fun same => same ▸ List.mem_cons_self).symm
  | case4 first next rest apart inductionHypothesis =>
      rw [List.mem_cons, inductionHypothesis, ← List.mem_cons]

theorem isChain_collapseSpaces (text : WideText) :
    (collapseSpaces text).IsChain NotBothSpaces := by
  fun_induction collapseSpaces text with
  | case1 => exact .nil
  | case2 => exact .singleton _
  | case3 first next rest spaces inductionHypothesis => exact inductionHypothesis
  | case4 first next rest apart inductionHypothesis =>
      rw [List.isChain_cons, head?_collapseSpaces]
      refine ⟨fun follower heads => ?_, inductionHypothesis⟩
      obtain rfl := Option.some.inj heads
      exact Bool.eq_false_iff.mpr apart

/-- Text without two spaces together is left as it is. -/
theorem collapseSpaces_of_isChain (chain : text.IsChain NotBothSpaces) :
    collapseSpaces text = text := by
  fun_induction collapseSpaces text with
  | case1 => rfl
  | case2 => rfl
  | case3 first next rest spaces inductionHypothesis =>
      have apart : NotBothSpaces first next := (List.isChain_cons_cons.mp chain).1
      rw [NotBothSpaces, spaces] at apart
      cases apart
  | case4 first next rest apart inductionHypothesis =>
      rw [inductionHypothesis (List.isChain_cons_cons.mp chain).2]

/-! ### Normal form -/

/-- Text in normal form: no line breaks, no two spaces together, and no blanks at the ends. -/
structure IsNormalized (text : WideText) : Prop where
  oneLine : ∀ sign ∈ text, isLineBreak sign = false
  singleSpaces : text.IsChain NotBothSpaces
  trimmed : Text.trimWhere isBlankSign text = text

theorem isNormalized_normalize (text : WideText) : IsNormalized (normalize text) where
  oneLine sign member := by
    have gathered := (Text.trimWhere_sublist _ _).subset member
    rw [mem_collapseSpaces, List.mem_filter] at gathered
    simpa using gathered.2
  singleSpaces := List.IsChain.infix (isChain_collapseSpaces _) (Text.trimWhere_isInfix _ _)
  trimmed := Text.trimWhere_trimWhere _ _

/-- Normalization leaves exactly the text in normal form as it is. -/
theorem normalize_eq_self_iff : normalize text = text ↔ IsNormalized text := by
  constructor
  · intro same
    rw [← same]
    exact isNormalized_normalize text
  · intro normalized
    have kept : text.filter (!isLineBreak ·) = text :=
      List.filter_eq_self.mpr fun sign member => by rw [normalized.oneLine sign member]; rfl
    rw [normalize, kept, collapseSpaces_of_isChain normalized.singleSpaces, normalized.trimmed]

theorem normalize_normalize (text : WideText) : normalize (normalize text) = normalize text :=
  normalize_eq_self_iff.mpr (isNormalized_normalize text)

theorem isBlankSign_of_isLineBreak (breaks : isLineBreak sign = true) :
    isBlankSign sign = true := by
  simp only [isLineBreak, Bool.or_eq_true, beq_iff_eq] at breaks
  rcases breaks with rfl | rfl <;> rfl

/-- Nothing is left of exactly the text that holds only blanks. -/
theorem normalize_eq_nil_iff :
    normalize text = [] ↔ ∀ sign ∈ text, isBlankSign sign = true := by
  rw [normalize, Text.trimWhere_eq_nil_iff]
  constructor
  · intro blank sign member
    by_cases breaks : isLineBreak sign = true
    · exact isBlankSign_of_isLineBreak breaks
    · have kept : sign ∈ text.filter (!isLineBreak ·) :=
        List.mem_filter.mpr ⟨member, by simpa using breaks⟩
      exact blank sign (mem_collapseSpaces.mpr kept)
  · intro blank sign member
    exact blank sign (List.mem_filter.mp (mem_collapseSpaces.mp member)).1

end GeoBridge.Crs
