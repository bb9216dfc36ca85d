import GeoBridge.Text.Blank
import GeoBridge.Text.WideText

/-!
Owns the normal form of the well-known text of a coordinate system: one line, single spaces, no
blanks at the ends.
-/

namespace GeoBridge.Crs

open Text (Sign WideText)

/-- Whether a sign breaks a line. -/
def isLineBreak (sign : Sign) : Bool := sign == .scalar '\n' || sign == .scalar '\r'

/-- Whether a sign is a space. -/
def isSpaceSign (sign : Sign) : Bool := sign == .scalar ' '

/-- Whether a sign is blank. Halves of pairs are not. -/
def isBlankSign : Sign → Bool
  | .scalar character => Text.isBlank character
  | .half _ => false

/-- Signs with one space for every run of spaces. -/
def collapseSpaces : WideText → WideText
  | [] => []
  | [sign] => [sign]
  | sign :: next :: rest =>
      if isSpaceSign sign && isSpaceSign next then collapseSpaces (next :: rest)
      else sign :: collapseSpaces (next :: rest)

/-- The normal form of a well-known text. Line breaks vanish before spaces are collapsed. -/
def normalize (text : WideText) : WideText :=
  Text.trimWhere isBlankSign (collapseSpaces (text.filter (!isLineBreak ·)))

end GeoBridge.Crs
