/-!
Owns lines of text: the places where a text breaks into lines, and the unification of line ends.
-/

namespace GeoBridge.Text

/-- The characters that end a line. -/
def isLineEnd (character : Char) : Bool :=
  let code := character.toNat
  (10 ≤ code && code ≤ 13) || (28 ≤ code && code ≤ 30) || code == 0x85 || code == 0x2028
    || code == 0x2029

/-- The lines of the characters that remain, given the characters of the line under way, last
first. A carriage return and a line feed together end one line, and an end of line that nothing
follows opens no further line. -/
def splitLines : (line : List Char) → List Char → List (List Char)
  | [], [] => []
  | line, [] => [line.reverse]
  | line, '\r' :: '\n' :: rest => line.reverse :: splitLines [] rest
  | line, character :: rest =>
      if isLineEnd character then line.reverse :: splitLines [] rest
      else splitLines (character :: line) rest

/-- The lines of a text, without what ends them. -/
def lines (text : String) : List (List Char) :=
  splitLines [] text.toList

/-- The characters with a line feed for every carriage return, and one for both together. -/
def unifyLineEnds : List Char → List Char
  | [] => []
  | '\r' :: '\n' :: rest => '\n' :: unifyLineEnds rest
  | character :: rest => (if character == '\r' then '\n' else character) :: unifyLineEnds rest

end GeoBridge.Text
