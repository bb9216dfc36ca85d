import GeoBridge.Text.Utf8

/-!
Owns the texts of shell scripts, whose characters are octets: the shell divides and measures texts
without a thought of how octets make up characters.

Owns:
- the passage between ordinary text and text of octets;
- the passage between text of octets and lists of octets.
-/

namespace GeoBridge.Shell

/-- Octets as text, one character for each. -/
def textOfOctets (octets : List UInt8) : String :=
  String.ofList (octets.map fun octet => Char.ofNat octet.toNat)

/-- The octet that a character stands for. -/
def octetOf (character : Char) : UInt8 := UInt8.ofNat character.toNat

/-- The octets that the characters of a text stand for. -/
def octetsOfText (text : String) : List UInt8 :=
  text.toList.map octetOf

/-- Ordinary text as text of octets. -/
def toOctetText (text : String) : String := textOfOctets (Text.Utf8.encode text)

/-- Text of octets as ordinary text. -/
def ofOctetText (text : String) : String := Text.Utf8.decode (octetsOfText text)

end GeoBridge.Shell
