import GeoBridge.Text.Quoted
import GeoBridge.Text.Utf8

/-!
Owns text from outside that may hold halves of surrogate pairs, which no encoding form of text can
carry.

Owns:
- the signs such text consists of and the way from and to ordinary text;
- the condition under which it has a UTF-8 form;
- the text that names of files are read as, in which a half stands for every stray octet;
- the form in which records show it.
-/

namespace GeoBridge.Text

/-- One sign of text from outside: a character, or half of a surrogate pair, numbered from the
first of them. -/
inductive Sign where
  | scalar (character : Char)
  | half (number : Fin 2048)
deriving DecidableEq, Repr

/-- Text from outside. -/
abbrev WideText := List Sign

namespace WideText

/-- Ordinary text seen as text from outside. -/
def ofString (text : String) : WideText :=
  text.toList.map Sign.scalar

/-- The characters of text that holds no half of a pair. -/
def toCharacters? : WideText → Option (List Char)
  | [] => some []
  | .scalar character :: rest => (toCharacters? rest).map (character :: ·)
  | .half _ :: _ => none

/-- The ordinary text that the signs spell, if they spell one. -/
def toString? (text : WideText) : Option String :=
  (toCharacters? text).map String.ofList

theorem toCharacters?_map_scalar (characters : List Char) :
    toCharacters? (characters.map Sign.scalar) = some characters := by
  induction characters with
  | nil => rfl
  | cons character rest inductionHypothesis => simp [toCharacters?, inductionHypothesis]

/-- Ordinary text is recovered from its signs. -/
theorem toString?_ofString (text : String) : toString? (ofString text) = some text := by
  simp [toString?, ofString, toCharacters?_map_scalar]

/-- The half that stands for an octet that is no part of a character. -/
def ofStrayOctet (octet : UInt8) : Sign :=
  .half ⟨0x400 + octet.toNat, by have := octet.toNat_lt; omega⟩

/-- Text from octets, with a half for every octet that is no part of a character. -/
def ofOctets : List UInt8 → WideText
  | [] => []
  | octet :: rest =>
      match (Utf8.readCharacter octet rest).1 with
      | some character => .scalar character :: ofOctets (Utf8.readCharacter octet rest).2
      | none => ofStrayOctet octet :: ofOctets rest
  termination_by octets => octets.length
  decreasing_by
    · exact Nat.lt_succ_of_le (Utf8.readCharacter_length octet rest)
    · exact Nat.lt_succ_self rest.length

/-- Ordinary text for the signs, with an escape for every half. -/
def shown (text : WideText) : String :=
  String.ofList (text.flatMap fun sign => match sign with
    | .scalar character => [character]
    | .half number => '\\' :: 'u' :: hexDigits 4 (0xD800 + number.val))

end WideText

end GeoBridge.Text
