import GeoBridge.Text.Blank
import GeoBridge.Text.Lines
import Mathlib.Data.List.DropRight
import Mathlib.Data.List.TakeWhile

/-!
Owns what trimming and the unification of line ends make of text.

Owns:
- cuts of a list before the first item that does not pass a test;
- trimming, which changes nothing the second time and leaves nothing of blank text alone;
- the unification of line ends, which changes exactly the text that holds a carriage return;
- the text that an element gives back for the text it was written with.
-/

namespace GeoBridge

/-! ### Cuts -/

section Cuts

variable {α : Type} {test : α → Bool} {front rest items : List α} {next : α}

theorem takeWhile_cut (passes : ∀ item ∈ front, test item = true) (stops : test next = false) :
    (front ++ next :: rest).takeWhile test = front := by
  rw [List.takeWhile_append_of_pos passes, List.takeWhile_cons_of_neg (by simp [stops]),
    List.append_nil]

theorem dropWhile_cut (passes : ∀ item ∈ front, test item = true) (stops : test next = false) :
    (front ++ next :: rest).dropWhile test = next :: rest := by
  rw [List.dropWhile_append_of_pos passes, List.dropWhile_cons_of_neg (by simp [stops])]

theorem exists_cut (shorter : (items.takeWhile test).length < items.length) :
    ∃ next rest, items = items.takeWhile test ++ next :: rest ∧ test next = false := by
  have whole := List.takeWhile_append_dropWhile (p := test) (l := items)
  cases behind : items.dropWhile test with
  | nil =>
      rw [behind, List.append_nil] at whole
      exact absurd (congrArg List.length whole) (Nat.ne_of_lt shorter)
  | cons next rest =>
      rw [behind] at whole
      have stops := List.head?_dropWhile_not test items
      rw [behind] at stops
      exact ⟨next, rest, whole.symm, stops⟩

end Cuts

namespace Text

/-! ### Trimming -/

section TrimWhere

variable {α : Type} (drops : α → Bool) (items : List α)

theorem trimWhere_eq : trimWhere drops items = (items.dropWhile drops).rdropWhile drops := rfl

theorem trimWhere_isInfix : trimWhere drops items <:+: items :=
  (List.rdropWhile_prefix drops (items.dropWhile drops)).isInfix.trans
    (List.dropWhile_suffix drops).isInfix

theorem trimWhere_sublist : (trimWhere drops items).Sublist items :=
  (trimWhere_isInfix drops items).sublist

/-- The first item that is left is not to be dropped. -/
theorem dropWhile_trimWhere : (trimWhere drops items).dropWhile drops = trimWhere drops items := by
  rw [List.dropWhile_eq_self_iff]
  intro proper
  have begins := List.rdropWhile_prefix drops (items.dropWhile drops)
  have longer : 0 < (items.dropWhile drops).length := Nat.lt_of_lt_of_le proper begins.length_le
  rw [show (trimWhere drops items)[0] = (items.dropWhile drops)[0] from begins.getElem proper]
  exact List.dropWhile_get_zero_not drops items longer

theorem trimWhere_trimWhere : trimWhere drops (trimWhere drops items) = trimWhere drops items := by
  rw [trimWhere_eq drops (trimWhere drops items), dropWhile_trimWhere]
  exact List.rdropWhile_idempotent drops _

theorem trimWhere_eq_nil_iff : trimWhere drops items = [] ↔ ∀ item ∈ items, drops item = true := by
  rw [trimWhere_eq, List.rdropWhile_eq_nil_iff]
  refine Iff.trans ?_ List.dropWhile_eq_nil_iff
  constructor
  · intro all
    by_contra proper
    have longer := List.length_pos_iff.mpr proper
    exact List.dropWhile_get_zero_not drops items longer (all _ (List.getElem_mem longer))
  · intro vacant
    rw [vacant]
    exact fun _ member => absurd member List.not_mem_nil

/-- The items at the two ends of what is left are not to be dropped. -/
theorem not_drops_of_end : ∀ item, (trimWhere drops items).head? = some item ∨
    (trimWhere drops items).getLast? = some item → drops item = false := by
  rintro item (heads | lasts)
  · have stops := List.head?_dropWhile_not drops (trimWhere drops items)
    rw [dropWhile_trimWhere, heads] at stops
    exact stops
  · have stops := List.head?_dropWhile_not drops (items.dropWhile drops).reverse
    rw [trimWhere, List.getLast?_reverse] at lasts
    rw [lasts] at stops
    exact stops

/-- What trimming leaves out stands before and behind what it leaves, and is all to be dropped. -/
theorem exists_trimmed : ∃ front back, items = front ++ trimWhere drops items ++ back ∧
    (∀ item ∈ front, drops item = true) ∧ ∀ item ∈ back, drops item = true := by
  refine ⟨items.takeWhile drops, (items.dropWhile drops).rtakeWhile drops, ?_,
    fun item => List.mem_takeWhile_imp, fun item => List.mem_rtakeWhile_imp⟩
  rw [trimWhere_eq, List.append_assoc, List.rdropWhile_append_rtakeWhile,
    List.takeWhile_append_dropWhile]

theorem filter_trimWhere :
    (trimWhere drops items).filter (!drops ·) = items.filter (!drops ·) := by
  obtain ⟨front, back, parts, before, behind⟩ := exists_trimmed drops items
  have vanishes {part : List α} (dropped : ∀ item ∈ part, drops item = true) :
      part.filter (!drops ·) = [] :=
    List.filter_eq_nil_iff.mpr fun item member => by simp [dropped item member]
  conv => rhs; rw [parts]
  rw [List.filter_append, List.filter_append, vanishes before, vanishes behind, List.nil_append,
    List.append_nil]

end TrimWhere

/-- Whatever is put around items whose ends are not to be dropped is left out again. -/
theorem trimWhere_of_cut {α : Type} {drops : α → Bool} {front middle back : List α}
    (before : ∀ item ∈ front, drops item = true) (behind : ∀ item ∈ back, drops item = true)
    (ends : ∀ item, middle.head? = some item ∨ middle.getLast? = some item →
      drops item = false) : trimWhere drops (front ++ middle ++ back) = middle := by
  cases middle with
  | nil =>
      rw [List.append_nil, trimWhere_eq_nil_iff]
      exact fun item member => (List.mem_append.mp member).elim (before item) (behind item)
  | cons first rest =>
      have begins : (front ++ (first :: rest) ++ back).dropWhile drops = first :: rest ++ back := by
        rw [List.append_assoc]
        exact dropWhile_cut before (ends first (.inl rfl))
      -- What stands behind is cut off from the front of the reversed list.
      have reversed : ∀ item ∈ back.reverse, drops item = true :=
        fun item member => behind item (List.mem_reverse.mp member)
      obtain ⟨last, more, backward⟩ := List.exists_cons_of_ne_nil
        (List.reverse_ne_nil_iff.mpr (List.cons_ne_nil first rest))
      have stops : drops last = false :=
        ends last (.inr (by rw [← List.head?_reverse, backward]; rfl))
      rw [trimWhere, begins, List.reverse_append, backward, dropWhile_cut reversed stops,
        ← backward, List.reverse_reverse]

theorem trim_trim (text : String) : trim (trim text) = trim text := by
  rw [trim, trim, String.toList_ofList, trimWhere_trimWhere]

theorem trim_isEmpty (text : String) : (trim text).isEmpty = isBlankText text := by
  rw [Bool.eq_iff_iff, isBlankText, List.all_eq_true, ← trimWhere_eq_nil_iff, trim]
  simp

/-! ### Line ends -/

/-- Line ends are unified part by part, unless a pair of them is torn apart. -/
theorem unifyLineEnds_append {first second : List Char} (apart : second.head? ≠ some '\n') :
    unifyLineEnds (first ++ second) = unifyLineEnds first ++ unifyLineEnds second := by
  fun_induction unifyLineEnds first with
  | case1 => rfl
  | case2 rest inductionHypothesis =>
      simp only [List.cons_append, unifyLineEnds, inductionHypothesis]
  | case3 character rest notPair inductionHypothesis =>
      have stillNoPair : ∀ further,
          character = '\r' → rest ++ second = '\n' :: further → False := by
        intro further return_ feed
        cases rest with
        | nil => exact apart (by rw [List.nil_append] at feed; rw [feed]; rfl)
        | cons next rest =>
            rw [List.cons_append, List.cons.injEq] at feed
            exact notPair rest return_ (by rw [feed.1])
      rw [List.cons_append, unifyLineEnds.eq_3 _ _ stillNoPair, inductionHypothesis,
        List.cons_append]

theorem return_notMem_unifyLineEnds (characters : List Char) :
    '\r' ∉ unifyLineEnds characters := by
  fun_induction unifyLineEnds characters with
  | case1 => exact List.not_mem_nil
  | case2 rest inductionHypothesis => simpa using inductionHypothesis
  | case3 character rest notPair inductionHypothesis =>
      rw [List.mem_cons, not_or]
      refine ⟨?_, inductionHypothesis⟩
      by_cases return_ : character = '\r'
      · simp [return_]
      · simpa [return_] using Ne.symm return_

/-- Exactly the text without carriage returns is left as it is. -/
theorem unifyLineEnds_eq_self_iff {characters : List Char} :
    unifyLineEnds characters = characters ↔ '\r' ∉ characters := by
  constructor
  · intro same
    rw [← same]
    exact return_notMem_unifyLineEnds characters
  · intro absent
    fun_induction unifyLineEnds characters with
    | case1 => rfl
    | case2 rest inductionHypothesis => exact absurd List.mem_cons_self absent
    | case3 character rest notPair inductionHypothesis =>
        rw [List.mem_cons, not_or] at absent
        rw [inductionHypothesis absent.2, if_neg (by simpa using Ne.symm absent.1)]

theorem unifyLineEnds_isEmpty (characters : List Char) :
    (unifyLineEnds characters).isEmpty = characters.isEmpty := by
  fun_cases unifyLineEnds characters <;> rfl

/-- A carriage return is as blank as the line feed that takes its place. -/
theorem all_isBlank_unifyLineEnds (characters : List Char) :
    (unifyLineEnds characters).all isBlank = characters.all isBlank := by
  fun_induction unifyLineEnds characters with
  | case1 => rfl
  | case2 rest inductionHypothesis =>
      rw [List.all_cons, List.all_cons, List.all_cons, inductionHypothesis]
      rfl
  | case3 character rest notPair inductionHypothesis =>
      rw [List.all_cons, List.all_cons, inductionHypothesis]
      by_cases return_ : character = '\r'
      · rw [return_]
        rfl
      · rw [if_neg (by simpa using return_)]

/-! ### Text inside an element -/

/-- The text that an element gives back for the text it was written with. -/
def throughElement (text : String) : String := trim (String.ofList (unifyLineEnds text.toList))

theorem trim_throughElement (text : String) : trim (throughElement text) = throughElement text :=
  trim_trim _

theorem throughElement_isEmpty (text : String) :
    (throughElement text).isEmpty = isBlankText text := by
  rw [throughElement, trim_isEmpty, isBlankText, String.toList_ofList, all_isBlank_unifyLineEnds,
    isBlankText]

theorem isBlankText_throughElement (text : String) :
    isBlankText (throughElement text) = isBlankText text := by
  rw [← trim_isEmpty, trim_throughElement, throughElement_isEmpty]

/-- Exactly the trimmed text without carriage returns comes back as it was written. -/
theorem throughElement_eq_self_iff {text : String} :
    throughElement text = text ↔ '\r' ∉ text.toList ∧ trim text = text := by
  constructor
  · intro same
    have noReturn : '\r' ∉ text.toList := by
      rw [← same, throughElement, trim, String.toList_ofList, String.toList_ofList]
      exact fun member => return_notMem_unifyLineEnds _
        ((trimWhere_sublist isBlank _).subset member)
    refine ⟨noReturn, ?_⟩
    rwa [throughElement, unifyLineEnds_eq_self_iff.mpr noReturn, String.ofList_toList] at same
  · rintro ⟨noReturn, trimmed⟩
    rw [throughElement, unifyLineEnds_eq_self_iff.mpr noReturn, String.ofList_toList, trimmed]

end Text

end GeoBridge
