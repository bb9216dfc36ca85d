/-!
Owns membership of a code point in a table of ranges, the form in which the character classes
are stored.
-/

namespace GeoBridge.Text

/-- Whether a code point lies in one of the ranges. The ranges ascend, so the search stops at the
first range that starts beyond the code point. -/
def inRanges : List (Nat × Nat) → Nat → Bool
  | [], _ => false
  | (low, high) :: rest, code =>
      if code < low then false
      else if code ≤ high then true
      else inRanges rest code

end GeoBridge.Text
