import GeoBridge.Proofs.NormalizedText
import Mathlib.Data.List.Infix

/-!
Owns what normalization makes of well-known text, sign by sign and line by line.

Owns:
- substitution, which replaces a pattern from the front on: line breaks of one sign or of two, and
  runs of spaces;
- text with one space for every run, and text without the blanks at its ends, each as a relation
  that exactly one text satisfies;
- texts that differ in their line breaks only, by their style or by their places, of which
  normalization makes the same.
-/

namespace GeoBridge

/-! ### Substitution -/

namespace Text

variable {α : Type} {occurrence : List α → Nat} {replacement items rest : List α} {drops : α → Bool}

/-- Replace every occurrence of a pattern, from the front on and without overlaps. The pattern tells
how many items at the front of a list are an occurrence of it, 0 where there is none. Items of an
occurrence under way that are still pending are passed over. -/
def substitute (occurrence : List α → Nat) (replacement : List α) :
    (pending : Nat) → List α → List α
  | _, [] => []
  | pending + 1, _ :: rest => substitute occurrence replacement pending rest
  | 0, item :: rest =>
      match occurrence (item :: rest) with
      | 0 => item :: substitute occurrence replacement 0 rest
      | further + 1 => replacement ++ substitute occurrence replacement further rest

theorem substitute_pending (occurrence : List α → Nat) (replacement part rest : List α) :
    substitute occurrence replacement part.length (part ++ rest) =
      substitute occurrence replacement 0 rest := by
  induction part with
  | nil => rfl
  | cons item part inductionHypothesis => exact inductionHypothesis

/-- Where occurrences and their replacement hold nothing but what is dropped, all else stays. -/
theorem filter_substitute
    (occurs : ∀ (items : List α), ∀ item ∈ items.take (occurrence items), drops item = true)
    (replaced : ∀ item ∈ replacement, drops item = true) {pending : Nat}
    (underWay : ∀ item ∈ items.take pending, drops item = true) :
    (substitute occurrence replacement pending items).filter (!drops ·) =
      items.filter (!drops ·) := by
  have vanishes : replacement.filter (!drops ·) = [] :=
    List.filter_eq_nil_iff.mpr fun item member => by simp [replaced item member]
  fun_induction substitute occurrence replacement pending items with
  | case1 => rfl
  | case2 pending item rest inductionHypothesis =>
      rw [List.take_succ_cons, List.forall_mem_cons] at underWay
      rw [inductionHypothesis underWay.2, List.filter_cons_of_neg (by simp [underWay.1])]
  | case3 item rest absent inductionHypothesis =>
      rw [List.filter_cons, List.filter_cons, inductionHypothesis (by simp)]
  | case4 item rest further found inductionHypothesis =>
      have occurred := occurs (item :: rest)
      rw [found, List.take_succ_cons, List.forall_mem_cons] at occurred
      rw [List.filter_append, vanishes, List.nil_append, inductionHypothesis occurred.2,
        List.filter_cons_of_neg (by simp [occurred.1])]

/-- What begins an occurrence wherever it stands does not survive that they are deleted. -/
theorem not_drops_of_mem_substitute
    (begins : ∀ item rest, drops item = true → occurrence (item :: rest) ≠ 0) {pending : Nat}
    {item : α} (left : item ∈ substitute occurrence [] pending items) : drops item = false := by
  fun_induction substitute occurrence [] pending items with
  | case1 => exact absurd left List.not_mem_nil
  | case2 pending first rest inductionHypothesis => exact inductionHypothesis left
  | case3 first rest absent inductionHypothesis =>
      rcases List.mem_cons.mp left with rfl | later
      · exact Bool.eq_false_iff.mpr fun dropped => begins item rest dropped absent
      · exact inductionHypothesis later
  | case4 first rest further found inductionHypothesis => exact inductionHypothesis left

end Text

namespace Crs

open Text (Sign WideText substitute trimWhere)

variable {text other run rest : WideText} {sign : Sign}

/-! ### Line breaks -/

/-- The styles of a line break: a line feed, a carriage return, or both in either order. -/
inductive LineBreak where
  | feedReturn
  | returnFeed
  | feed
  | carriageReturn
deriving DecidableEq, Repr

namespace LineBreak

/-- The signs of a line break. -/
def signs : LineBreak → WideText
  | .feedReturn => [.scalar '\n', .scalar '\r']
  | .returnFeed => [.scalar '\r', .scalar '\n']
  | .feed => [.scalar '\n']
  | .carriageReturn => [.scalar '\r']

/-- The styles in the order in which they are looked for. -/
def styles : List LineBreak := [.feedReturn, .returnFeed, .feed, .carriageReturn]

/-- How many signs at the front of a text are a line break. -/
def lengthAt (text : WideText) : Nat :=
  ((styles.find? (·.signs.isPrefixOf text)).map (·.signs.length)).getD 0

theorem isLineBreak_of_mem_signs {style : LineBreak} (member : sign ∈ style.signs) :
    isLineBreak sign = true := by
  cases style <;> simp only [signs, List.mem_cons, List.not_mem_nil, or_false] at member
  · rcases member with rfl | rfl <;> rfl
  · rcases member with rfl | rfl <;> rfl
  · rw [member]; rfl
  · rw [member]; rfl

theorem isLineBreak_of_mem_take (text : WideText) :
    ∀ sign ∈ text.take (lengthAt text), isLineBreak sign = true := by
  intro sign member
  unfold lengthAt at member
  cases found : styles.find? (·.signs.isPrefixOf text) with
  | none => simp [found] at member
  | some style =>
      have begins : style.signs <+: text := by simpa using List.find?_some found
      rw [found, Option.map_some, Option.getD_some, ← List.prefix_iff_eq_take.mp begins] at member
      exact isLineBreak_of_mem_signs member

theorem lengthAt_ne_zero (sign : Sign) (rest : WideText) (breaks : isLineBreak sign = true) :
    lengthAt (sign :: rest) ≠ 0 := by
  have single : ∃ style ∈ styles, style.signs.isPrefixOf (sign :: rest) = true := by
    simp only [isLineBreak, Bool.or_eq_true, beq_iff_eq] at breaks
    rcases breaks with rfl | rfl
    · exact ⟨.feed, by decide, rfl⟩
    · exact ⟨.carriageReturn, by decide, rfl⟩
  obtain ⟨style, found⟩ := Option.isSome_iff_exists.mp (List.find?_isSome.mpr single)
  rw [lengthAt, found]
  cases style <;> exact Nat.succ_ne_zero _

end LineBreak

/-- The text with every line break in a given style. -/
def respelled (style : LineBreak) (text : WideText) : WideText :=
  substitute LineBreak.lengthAt style.signs 0 text

/-- The deletion of every line break deletes the signs of line breaks, one by one. -/
theorem substitute_lineBreaks (text : WideText) :
    substitute LineBreak.lengthAt [] 0 text = text.filter (!isLineBreak ·) := by
  have kept : (substitute LineBreak.lengthAt [] 0 text).filter (!isLineBreak ·) =
      text.filter (!isLineBreak ·) :=
    Text.filter_substitute LineBreak.isLineBreak_of_mem_take (by simp) (by simp)
  rw [← kept, eq_comm, List.filter_eq_self]
  intro sign left
  rw [Text.not_drops_of_mem_substitute LineBreak.lengthAt_ne_zero left]
  rfl

/-- A text that wraps some content: the signs of the content in their order, with line breaks of any
style at any places. -/
inductive Wraps : WideText → WideText → Prop
  | nil : Wraps [] []
  | sign {content text : WideText} (sign : Sign) : Wraps content text →
      Wraps (sign :: content) (sign :: text)
  | lineBreak {content text : WideText} (style : LineBreak) : Wraps content text →
      Wraps content (style.signs ++ text)

theorem Wraps.filter_eq {content : WideText} (wraps : Wraps content text) :
    text.filter (!isLineBreak ·) = content.filter (!isLineBreak ·) := by
  induction wraps with
  | nil => rfl
  | sign sign _ inductionHypothesis =>
      rw [List.filter_cons, List.filter_cons, inductionHypothesis]
  | lineBreak style _ inductionHypothesis =>
      have vanishes : style.signs.filter (!isLineBreak ·) = [] :=
        List.filter_eq_nil_iff.mpr fun sign member => by
          simp [LineBreak.isLineBreak_of_mem_signs member]
      rw [List.filter_append, vanishes, List.nil_append, inductionHypothesis]

/-- Normalization looks at nothing but the signs beside the line breaks. -/
theorem normalize_congr
    (same : text.filter (!isLineBreak ·) = other.filter (!isLineBreak ·)) :
    normalize text = normalize other := by
  rw [normalize, same, normalize]

/-! ### Runs of spaces -/

/-- How many signs at the front of a text are a run of spaces. A single space is none. -/
def spacesAt (text : WideText) : Nat :=
  if 2 ≤ (text.takeWhile isSpaceSign).length then (text.takeWhile isSpaceSign).length else 0

/-- A text with one space in the place of every run of spaces. Runs are as long as can be. -/
inductive Respaced : WideText → WideText → Prop
  | nil : Respaced [] []
  | sign {sign : Sign} {rest respaced : WideText} : isSpaceSign sign = false →
      Respaced rest respaced → Respaced (sign :: rest) (sign :: respaced)
  | run {run rest respaced : WideText} : run ≠ [] → (∀ sign ∈ run, isSpaceSign sign = true) →
      (∀ next ∈ rest.head?, isSpaceSign next = false) → Respaced rest respaced →
      Respaced (run ++ rest) (.scalar ' ' :: respaced)

theorem exists_respaced (text : WideText) : ∃ respaced, Respaced text respaced := by
  -- A run is taken off as a whole, so that the recursion goes on at a sign that is no space.
  match text with
  | [] => exact ⟨[], .nil⟩
  | sign :: rest =>
      cases space : isSpaceSign sign with
      | false =>
          obtain ⟨respaced, further⟩ := exists_respaced rest
          exact ⟨sign :: respaced, .sign space further⟩
      | true =>
          obtain ⟨respaced, further⟩ := exists_respaced (rest.dropWhile isSpaceSign)
          have whole := List.takeWhile_append_dropWhile (p := isSpaceSign) (l := rest)
          have stops : ∀ next ∈ (rest.dropWhile isSpaceSign).head?, isSpaceSign next = false :=
            fun next heads => by simpa [Option.mem_def.mp heads] using
              List.head?_dropWhile_not isSpaceSign rest
          have spaces : ∀ next ∈ sign :: rest.takeWhile isSpaceSign, isSpaceSign next = true :=
            List.forall_mem_cons.mpr ⟨space, fun next => List.mem_takeWhile_imp⟩
          have replaced := Respaced.run (List.cons_ne_nil _ _) spaces stops further
          rw [List.cons_append, whole] at replaced
          exact ⟨_, replaced⟩
termination_by text.length
decreasing_by
  · exact Nat.lt_succ_self _
  · exact Nat.lt_succ_of_le (List.dropWhile_suffix _).length_le

theorem collapseSpaces_cons (apart : isSpaceSign sign = false) :
    collapseSpaces (sign :: rest) = sign :: collapseSpaces rest := by
  cases rest with
  | nil => rfl
  | cons next rest => rw [collapseSpaces, if_neg (by simp [apart])]

theorem collapseSpaces_run (proper : run ≠ []) (spaces : ∀ sign ∈ run, isSpaceSign sign = true)
    (stops : ∀ next ∈ rest.head?, isSpaceSign next = false) :
    collapseSpaces (run ++ rest) = .scalar ' ' :: collapseSpaces rest := by
  induction run with
  | nil => exact absurd rfl proper
  | cons first run inductionHypothesis =>
      rw [List.forall_mem_cons] at spaces
      obtain rfl : first = .scalar ' ' := by simpa [isSpaceSign] using spaces.1
      cases run with
      | nil =>
          cases rest with
          | nil => rfl
          | cons next rest =>
              rw [List.singleton_append, collapseSpaces, if_neg (by simp [stops next rfl])]
      | cons second run =>
          have both : isSpaceSign second = true := spaces.2 second List.mem_cons_self
          rw [List.cons_append, List.cons_append, collapseSpaces, if_pos (by simp [both]; rfl),
            ← List.cons_append]
          exact inductionHypothesis (List.cons_ne_nil _ _) spaces.2

theorem collapseSpaces_of_respaced {respaced : WideText} (respaces : Respaced text respaced) :
    collapseSpaces text = respaced := by
  induction respaces with
  | nil => rfl
  | sign apart _ inductionHypothesis => rw [collapseSpaces_cons apart, inductionHypothesis]
  | run proper spaces stops _ inductionHypothesis =>
      rw [collapseSpaces_run proper spaces stops, inductionHypothesis]

/-- The collapse of spaces is the one way to put a single space in the place of every run. -/
theorem respaced_iff {respaced : WideText} :
    Respaced text respaced ↔ respaced = collapseSpaces text := by
  constructor
  · exact fun respaces => (collapseSpaces_of_respaced respaces).symm
  · rintro rfl
    obtain ⟨respaced, respaces⟩ := exists_respaced text
    rwa [collapseSpaces_of_respaced respaces]

theorem takeWhile_run (spaces : ∀ sign ∈ run, isSpaceSign sign = true)
    (stops : ∀ next ∈ rest.head?, isSpaceSign next = false) :
    (run ++ rest).takeWhile isSpaceSign = run := by
  cases rest with
  | nil => rw [List.append_nil, List.takeWhile_eq_self_iff.mpr spaces]
  | cons next rest => exact takeWhile_cut spaces (stops next rfl)

/-- The substitution of runs of two spaces and more leaves single spaces as they are, which comes to
the same. -/
theorem substitute_spaces (text : WideText) :
    substitute spacesAt [.scalar ' '] 0 text = collapseSpaces text := by
  obtain ⟨respaced, respaces⟩ := exists_respaced text
  rw [collapseSpaces_of_respaced respaces]
  -- Along the runs, not along the signs: a substitution finds a run at its first sign only, and
  -- passes over the others.
  induction respaces with
  | nil => rfl
  | @sign sign rest respaced apart _ inductionHypothesis =>
      have absent : spacesAt (sign :: rest) = 0 := by simp [spacesAt, apart]
      rw [substitute, absent]
      exact congrArg (sign :: ·) inductionHypothesis
  | @run run rest respaced proper spaces stops _ inductionHypothesis =>
      have taken := takeWhile_run spaces stops
      obtain ⟨first, run, rfl⟩ := List.exists_cons_of_ne_nil proper
      rw [List.cons_append] at taken ⊢
      cases run with
      | nil =>
          have absent : spacesAt (first :: ([] ++ rest)) = 0 := by
            rw [spacesAt, taken, if_neg (by simp)]
          obtain rfl : first = .scalar ' ' := by simpa [isSpaceSign] using spaces
          rw [substitute, absent]
          exact congrArg (.scalar ' ' :: ·) inductionHypothesis
      | cons second run =>
          have found : spacesAt (first :: (second :: run ++ rest)) =
              (second :: run).length + 1 := by
            rw [spacesAt, taken, if_pos (by simp)]
            rfl
          rw [substitute, found]
          simp only
          rw [Text.substitute_pending, inductionHypothesis]
          rfl

/-! ### The ends of a text -/

/-- A text without the blanks at its two ends. -/
structure Trims (text result : WideText) : Prop where
  parts : ∃ front back, text = front ++ result ++ back ∧
    (∀ sign ∈ front, isBlankSign sign = true) ∧ ∀ sign ∈ back, isBlankSign sign = true
  ends : ∀ sign, result.head? = some sign ∨ result.getLast? = some sign →
    isBlankSign sign = false

/-- Trimming is the one way to leave the blanks at the ends out. -/
theorem trims_iff {result : WideText} :
    Trims text result ↔ result = trimWhere isBlankSign text := by
  constructor
  · rintro ⟨⟨front, back, rfl, before, behind⟩, ends⟩
    exact (Text.trimWhere_of_cut before behind ends).symm
  · rintro rfl
    exact ⟨Text.exists_trimmed isBlankSign text, Text.not_drops_of_end isBlankSign text⟩

/-! ### Normalization as a whole -/

/-- The normal form of a text as it is described: without the signs of line breaks, with one space
for every run of spaces, and without the blanks at the ends. -/
def Tidies (text result : WideText) : Prop :=
  ∃ respaced, Respaced (text.filter (!isLineBreak ·)) respaced ∧ Trims respaced result

theorem tidies_iff {result : WideText} : Tidies text result ↔ result = normalize text := by
  constructor
  · rintro ⟨respaced, respaces, trims⟩
    rw [trims_iff.mp trims, respaced_iff.mp respaces, normalize]
  · rintro rfl
    exact ⟨_, respaced_iff.mpr rfl, trims_iff.mpr rfl⟩

/-- Normalization as two substitutions, of line breaks by nothing and of runs of spaces by one, with
the blanks at the ends left out. -/
theorem normalize_eq_substituted (text : WideText) :
    normalize text = trimWhere isBlankSign
      (substitute spacesAt [.scalar ' '] 0 (substitute LineBreak.lengthAt [] 0 text)) := by
  rw [substitute_lineBreaks, substitute_spaces, normalize]

/-- Nothing but blanks is left out by the collapse of spaces. -/
theorem filter_collapseSpaces (text : WideText) :
    (collapseSpaces text).filter (!isBlankSign ·) = text.filter (!isBlankSign ·) := by
  fun_induction collapseSpaces text with
  | case1 => rfl
  | case2 => rfl
  | case3 first next rest spaces inductionHypothesis =>
      have blank : isBlankSign first = true := by
        simp only [isSpaceSign, Bool.and_eq_true, beq_iff_eq] at spaces
        rw [spaces.1]
        rfl
      rw [inductionHypothesis, List.filter_cons_of_neg (a := first) (by simp [blank])]
  | case4 first next rest apart inductionHypothesis =>
      rw [List.filter_cons, inductionHypothesis, List.filter_cons (x := first)]

/-- Normalization leaves out nothing but blanks. -/
theorem filter_normalize (text : WideText) :
    (normalize text).filter (!isBlankSign ·) = text.filter (!isBlankSign ·) := by
  rw [normalize, Text.filter_trimWhere, filter_collapseSpaces, List.filter_filter]
  refine List.filter_congr fun sign _ => ?_
  by_cases breaks : isLineBreak sign = true
  · simp [isBlankSign_of_isLineBreak breaks]
  · simp [Bool.eq_false_iff.mpr breaks]

/-- The normal form of a text is one line without two spaces together and without blanks at its
ends, and its own normal form. It holds the signs of the text beside the blanks. It is what the
description says, and the outcome of the two substitutions. It stays the same in whichever style the
line breaks of the text are spelled, and at whichever places the text is wrapped. -/
theorem normalize_tidies (text : WideText) :
    let normal := normalize text
    (Sign.scalar '\n' ∉ normal ∧ Sign.scalar '\r' ∉ normal) ∧
    (¬ [.scalar ' ', .scalar ' '] <:+: normal) ∧
    (∀ sign, normal.head? = some sign ∨ normal.getLast? = some sign → isBlankSign sign = false) ∧
    normalize normal = normal ∧
    normal.filter (!isBlankSign ·) = text.filter (!isBlankSign ·) ∧
    (∀ result, Tidies text result ↔ result = normal) ∧
    normal = trimWhere isBlankSign
      (substitute spacesAt [.scalar ' '] 0 (substitute LineBreak.lengthAt [] 0 text)) ∧
    (∀ style, normalize (respelled style text) = normal) ∧
    ∀ content other, Wraps content text → Wraps content other → normalize other = normal := by
  intro normal
  have normalized := isNormalized_normalize text
  refine ⟨⟨fun feed => ?_, fun return_ => ?_⟩, fun together => ?_,
    Text.not_drops_of_end isBlankSign _, normalize_normalize text, filter_normalize text,
    fun result => tidies_iff, normalize_eq_substituted text, fun style => ?_,
    fun content other wraps otherWraps => ?_⟩
  · exact Bool.false_ne_true (normalized.oneLine _ feed).symm
  · exact Bool.false_ne_true (normalized.oneLine _ return_).symm
  · have apart := normalized.singleSpaces.infix together
    exact Bool.false_ne_true (List.isChain_cons_cons.mp apart).1.symm
  -- Neither the style nor the places of line breaks change the signs beside them.
  · exact normalize_congr (Text.filter_substitute LineBreak.isLineBreak_of_mem_take
      (fun sign => LineBreak.isLineBreak_of_mem_signs) (by simp))
  · exact normalize_congr (otherWraps.filter_eq.trans wraps.filter_eq.symm)

/-- Spaces that come together where a break is left out are one. -/
example : normalize (.ofString " A \n\r \nB\r\nC ") = .ofString "A BC" := by decide

end Crs

end GeoBridge
