/-!
Owns the UTF-8 form of text.

Owns:
- encoding of characters as octets;
- the reading of one character at the front of octets, which consumes, where there is none, the
  longest part that could have begun one;
- decoding with a replacement character for every such part.
-/

namespace GeoBridge.Text.Utf8

/-- The octets of one character. -/
def encodeCharacter (character : Char) : List UInt8 :=
  let code := character.toNat
  if code < 0x80 then [UInt8.ofNat code]
  else if code < 0x800 then
    [UInt8.ofNat (0xC0 + code / 64), UInt8.ofNat (0x80 + code % 64)]
  else if code < 0x10000 then
    [UInt8.ofNat (0xE0 + code / 4096), UInt8.ofNat (0x80 + code / 64 % 64),
     UInt8.ofNat (0x80 + code % 64)]
  else
    [UInt8.ofNat (0xF0 + code / 262144), UInt8.ofNat (0x80 + code / 4096 % 64),
     UInt8.ofNat (0x80 + code / 64 % 64), UInt8.ofNat (0x80 + code % 64)]

/-- The octets of text. -/
def encode (text : String) : List UInt8 :=
  text.toList.flatMap encodeCharacter

/-- What the first octet of a character announces: the bits it carries, the number of octets to
come, and the range the next of them must lie in. -/
structure Lead where
  bits : Nat
  pending : Nat
  low : Nat
  high : Nat

/-- The announcement of an octet that can begin a character. The ranges of the second octet leave
out overlong forms, surrogates and values beyond the last code point. -/
def lead? (octet : Nat) : Option Lead :=
  if octet < 0x80 then some ⟨octet, 0, 0x80, 0xBF⟩
  else if octet < 0xC2 then none
  else if octet < 0xE0 then some ⟨octet - 0xC0, 1, 0x80, 0xBF⟩
  else if octet == 0xE0 then some ⟨0, 2, 0xA0, 0xBF⟩
  else if octet == 0xED then some ⟨13, 2, 0x80, 0x9F⟩
  else if octet < 0xF0 then some ⟨octet - 0xE0, 2, 0x80, 0xBF⟩
  else if octet == 0xF0 then some ⟨0, 3, 0x90, 0xBF⟩
  else if octet < 0xF4 then some ⟨octet - 0xF0, 3, 0x80, 0xBF⟩
  else if octet == 0xF4 then some ⟨4, 3, 0x80, 0x8F⟩
  else none

/-- Read the pending octets of a character. Without a character, the octets that could belong to
it are consumed and the first that cannot is left. -/
def continueCharacter (bits low high : Nat) : (pending : Nat) → List UInt8 →
    Option Char × List UInt8
  | 0, rest => (some (Char.ofNat bits), rest)
  | _ + 1, [] => (none, [])
  | pending + 1, octet :: rest =>
      if low ≤ octet.toNat && octet.toNat ≤ high then
        continueCharacter (bits * 64 + octet.toNat % 64) 0x80 0xBF pending rest
      else (none, octet :: rest)

/-- Read one character, or the longest part of one, after its first octet. -/
def readCharacter (octet : UInt8) (rest : List UInt8) : Option Char × List UInt8 :=
  match lead? octet.toNat with
  | none => (none, rest)
  | some ⟨bits, pending, low, high⟩ => continueCharacter bits low high pending rest

theorem continueCharacter_length (bits low high pending : Nat) (octets : List UInt8) :
    (continueCharacter bits low high pending octets).2.length ≤ octets.length := by
  induction pending generalizing bits low high octets with
  | zero => simp [continueCharacter]
  | succ pending inductionHypothesis =>
      cases octets with
      | nil => simp [continueCharacter]
      | cons octet rest =>
          simp only [continueCharacter]
          split
          · exact Nat.le_succ_of_le (inductionHypothesis _ _ _ _)
          · exact Nat.le_refl _

theorem readCharacter_length (octet : UInt8) (rest : List UInt8) :
    (readCharacter octet rest).2.length ≤ rest.length := by
  unfold readCharacter
  split
  · exact Nat.le_refl _
  · exact continueCharacter_length _ _ _ _ _

/-- The characters of octets, with a replacement character for every part that is none. -/
def decodeCharacters : List UInt8 → List Char
  | [] => []
  | octet :: rest =>
      (readCharacter octet rest).1.getD '\uFFFD' :: decodeCharacters (readCharacter octet rest).2
  termination_by octets => octets.length
  decreasing_by
    exact Nat.lt_succ_of_le (readCharacter_length octet rest)

/-- Text from octets, with a replacement character for every part that is none. -/
def decode (octets : List UInt8) : String :=
  String.ofList (decodeCharacters octets)

/-- Text from octets that are the UTF-8 form of some text. -/
def decodeExactly? : List UInt8 → Option (List Char)
  | [] => some []
  | octet :: rest =>
      match (readCharacter octet rest).1 with
      | none => none
      | some character => (decodeExactly? (readCharacter octet rest).2).map (character :: ·)
  termination_by octets => octets.length
  decreasing_by
    exact Nat.lt_succ_of_le (readCharacter_length octet rest)

end GeoBridge.Text.Utf8
