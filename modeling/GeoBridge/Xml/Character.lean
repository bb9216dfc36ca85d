/-!
Owns the characters of documents and the elementary cuts of a character sequence.

Owns:
- the characters a document may hold and the white space between its parts;
- the division of characters at the first occurrence of a marker.
-/

namespace GeoBridge.Xml

/-- Whether a document may hold a character. -/
def isAllowed (character : Char) : Bool :=
  let code := character.toNat
  if code < 32 then code == 9 || code == 10 || code == 13
  else code != 0xFFFE && code != 0xFFFF

/-- The noncharacter that stands for octets which are no character. No document may hold it, so it
makes every document ill-formed at its place. -/
def illFormed : Char := '\uFFFF'

/-- White space between the parts of a document. -/
def isSpace (character : Char) : Bool :=
  character == ' ' || character == '\t' || character == '\n' || character == '\r'

/-- The characters before the first occurrence of a marker and those after it. -/
def splitAtMarker (marker : List Char) : List Char → Option (List Char × List Char)
  | [] => none
  | character :: rest =>
      if marker.isPrefixOf (character :: rest) then
        some ([], (character :: rest).drop marker.length)
      else
        match splitAtMarker marker rest with
        | none => none
        | some (before, behind) => some (character :: before, behind)

theorem splitAtMarker_length {marker characters before behind : List Char}
    (found : splitAtMarker marker characters = some (before, behind)) :
    behind.length ≤ characters.length := by
  induction characters generalizing before with
  | nil => simp [splitAtMarker] at found
  | cons character rest inductionHypothesis =>
      rw [splitAtMarker] at found
      split at found
      · simp only [Option.some.injEq, Prod.mk.injEq] at found
        rw [← found.2, List.length_drop]
        exact Nat.sub_le _ _
      · cases tail : splitAtMarker marker rest with
        | none => simp [tail] at found
        | some parts =>
            obtain ⟨first, second⟩ := parts
            simp only [tail, Option.some.injEq, Prod.mk.injEq] at found
            rw [found.2] at tail
            exact Nat.le_succ_of_le (inductionHypothesis tail)

theorem dropWhile_length_le {α : Type} (test : α → Bool) (items : List α) :
    (items.dropWhile test).length ≤ items.length :=
  (List.dropWhile_sublist test).length_le

end GeoBridge.Xml
