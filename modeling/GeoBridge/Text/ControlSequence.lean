/-!
Owns the sequences by which text controls a terminal, and their removal.

Owns:
- the form of a sequence: an escape and a bracket, parameters, and a letter that ends it;
- text without sequences. What only begins like one stays.
-/

namespace GeoBridge.Text

/-- The character that begins a sequence. -/
def escape : Char := '\x1b'

/-- The characters that parameters are made of. -/
def isParameter (character : Char) : Bool :=
  character.isDigit || character == ';' || character == '?'

/-- The characters without sequences, given the characters of one that has begun, last first. -/
def withoutSequences : (begun : List Char) → List Char → List Char
  | begun, [] => begun.reverse
  | [], character :: rest =>
      if character == escape then withoutSequences [escape] rest
      else character :: withoutSequences [] rest
  | [mark], character :: rest =>
      if character == '[' then withoutSequences [character, mark] rest
      else if character == escape then mark :: withoutSequences [escape] rest
      else mark :: character :: withoutSequences [] rest
  | begun, character :: rest =>
      if isParameter character then withoutSequences (character :: begun) rest
      else if character.isAlpha then withoutSequences [] rest
      else if character == escape then begun.reverse ++ withoutSequences [escape] rest
      else begun.reverse ++ character :: withoutSequences [] rest

/-- Text without sequences. -/
def withoutControl (text : String) : String := String.ofList (withoutSequences [] text.toList)

end GeoBridge.Text
