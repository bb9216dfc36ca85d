import GeoBridge.Xml.Encoding
import Mathlib.Tactic.IntervalCases

/-!
Owns the way back from the UTF-8 form of text.

Owns:
- the announcement that the first octet of an encoded character makes;
- the reading of one encoded character, whatever follows it;
- the reading of encoded text, as text of its own and as the characters of a document.
-/

namespace GeoBridge

namespace Text.Utf8

/-! ### First octets -/

theorem lead?_ascii {code : Nat} (small : code < 0x80) :
    lead? code = some ⟨code, 0, 0x80, 0xBF⟩ := by
  unfold lead?
  rw [if_pos small]

theorem lead?_two {bits : Nat} (low : 2 ≤ bits) (high : bits < 32) :
    lead? (0xC0 + bits) = some ⟨bits, 1, 0x80, 0xBF⟩ := by
  interval_cases bits <;> rfl

theorem lead?_three {bits : Nat} (high : bits < 16) :
    lead? (0xE0 + bits) =
      some ⟨bits, 2, if bits = 0 then 0xA0 else 0x80, if bits = 13 then 0x9F else 0xBF⟩ := by
  interval_cases bits <;> rfl

theorem lead?_four {bits : Nat} (high : bits < 5) :
    lead? (0xF0 + bits) =
      some ⟨bits, 3, if bits = 0 then 0x90 else 0x80, if bits = 4 then 0x8F else 0xBF⟩ := by
  interval_cases bits <;> rfl

/-! ### Characters -/

/-- An octet in the range that is expected adds its six bits. -/
theorem continueCharacter_of_inRange {bits low high pending value : Nat} {rest : List UInt8}
    (small : value < 256) (above : low ≤ value) (below : value ≤ high) :
    continueCharacter bits low high (pending + 1) (UInt8.ofNat value :: rest) =
      continueCharacter (bits * 64 + value % 64) 0x80 0xBF pending rest := by
  have same : (UInt8.ofNat value).toNat = value := UInt8.toNat_ofNat_of_lt' small
  rw [continueCharacter, same, if_pos (by simp [above, below])]

theorem readCharacter_of_lead {code bits pending low high : Nat} {rest : List UInt8}
    (small : code < 256) (lead : lead? code = some ⟨bits, pending, low, high⟩) :
    readCharacter (UInt8.ofNat code) rest = continueCharacter bits low high pending rest := by
  have same : (UInt8.ofNat code).toNat = code := UInt8.toNat_ofNat_of_lt' small
  rw [readCharacter, same, lead]

/-- Code points of characters leave out the surrogates. -/
theorem toNat_cases (character : Char) :
    character.toNat < 0xD800 ∨ 0xDFFF < character.toNat ∧ character.toNat < 0x110000 :=
  character.valid

/-- What is read at the front of an encoded character is the character, and nothing after it is
consumed. -/
theorem readCharacter_encodeCharacter (character : Char) (rest : List UInt8) :
    ∃ octet further, encodeCharacter character ++ rest = octet :: further ∧
      readCharacter octet further = (some character, rest) := by
  have whole : Char.ofNat character.toNat = character := Char.ofNat_toNat character
  have valid := toNat_cases character
  unfold encodeCharacter
  simp only
  generalize character.toNat = code at whole valid
  by_cases one : code < 0x80
  · rw [if_pos one]
    refine ⟨_, _, List.cons_append, ?_⟩
    rw [readCharacter_of_lead (by omega) (lead?_ascii one), continueCharacter, whole,
      List.nil_append]
  · rw [if_neg one]
    by_cases two : code < 0x800
    · rw [if_pos two]
      refine ⟨_, _, List.cons_append, ?_⟩
      have bits : code / 64 * 64 + (0x80 + code % 64) % 64 = code := by omega
      rw [readCharacter_of_lead (by omega) (lead?_two (by omega) (by omega)), List.cons_append,
        continueCharacter_of_inRange (by omega) (by omega) (by omega), continueCharacter, bits,
        whole, List.nil_append]
    · rw [if_neg two]
      by_cases three : code < 0x10000
      · rw [if_pos three]
        refine ⟨_, _, List.cons_append, ?_⟩
        have bits : (code / 4096 * 64 + (0x80 + code / 64 % 64) % 64) * 64 +
            (0x80 + code % 64) % 64 = code := by omega
        rw [readCharacter_of_lead (by omega) (lead?_three (by omega)), List.cons_append,
          List.cons_append,
          continueCharacter_of_inRange (by omega) (by split <;> omega) (by split <;> omega),
          continueCharacter_of_inRange (by omega) (by omega) (by omega), continueCharacter, bits,
          whole, List.nil_append]
      · rw [if_neg three]
        refine ⟨_, _, List.cons_append, ?_⟩
        have bits : ((code / 262144 * 64 + (0x80 + code / 4096 % 64) % 64) * 64 +
            (0x80 + code / 64 % 64) % 64) * 64 + (0x80 + code % 64) % 64 = code := by omega
        rw [readCharacter_of_lead (by omega) (lead?_four (by omega)), List.cons_append,
          List.cons_append, List.cons_append,
          continueCharacter_of_inRange (by omega) (by split <;> omega) (by split <;> omega),
          continueCharacter_of_inRange (by omega) (by omega) (by omega),
          continueCharacter_of_inRange (by omega) (by omega) (by omega), continueCharacter, bits,
          whole, List.nil_append]

end Text.Utf8

namespace Xml.Encoding

/-- The characters of a document in UTF-8 are those of the text that was encoded. -/
theorem decodeUtf8_flatMap (characters : List Char) :
    decodeUtf8 (characters.flatMap Text.Utf8.encodeCharacter) = characters := by
  induction characters with
  | nil => rw [List.flatMap_nil, decodeUtf8]
  | cons character rest inductionHypothesis =>
      obtain ⟨octet, further, front, read⟩ := Text.Utf8.readCharacter_encodeCharacter character
        (rest.flatMap Text.Utf8.encodeCharacter)
      rw [List.flatMap_cons, front, decodeUtf8, read]
      simp only [inductionHypothesis]

end Xml.Encoding

end GeoBridge
