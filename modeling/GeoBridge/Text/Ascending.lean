/-!
Owns the ascending order of texts, in which the code points decide.
-/

namespace GeoBridge.Text

/-- Texts in ascending order. -/
def ascending (texts : List String) : List String :=
  texts.mergeSort fun first second => decide (first ≤ second)

/-- Sorting loses no text and adds none. -/
theorem ascending_perm (texts : List String) : (ascending texts).Perm texts :=
  List.mergeSort_perm texts _

theorem ascending_pairwise (texts : List String) : (ascending texts).Pairwise (· ≤ ·) := by
  have sorted : (ascending texts).Pairwise fun first second => decide (first ≤ second) = true := by
    apply List.pairwise_mergeSort
    · intro first second third
      simpa using String.le_trans
    · intro first second
      simpa using String.le_total first second
  exact sorted.imp of_decide_eq_true

/-- Texts without repetition ascend strictly. -/
theorem ascending_strict {texts : List String} (distinct : texts.Nodup) :
    (ascending texts).Pairwise (· < ·) := by
  have apart : (ascending texts).Nodup := (ascending_perm texts).nodup_iff.mpr distinct
  refine ((ascending_pairwise texts).and apart).imp ?_
  rintro first second ⟨ordered, differs⟩
  apply String.not_le.mp
  intro back
  exact differs (String.le_antisymm ordered back)

end GeoBridge.Text
