import GeoBridge.Text.Utf8
import GeoBridge.Xml.CodePage
import GeoBridge.Xml.Character
import GeoBridge.Xml.Fault

/-!
Owns the passage from the octets of a document to its characters.

Owns:
- the detection of an encoding from the first octets;
- the choice of an encoding by name, and what makes a name unusable;
- decoding, in which octets that are no character end the document with a noncharacter.
-/

namespace GeoBridge.Xml

/-- How octets stand for characters. -/
inductive Encoding where
  | utf8
  | utf16 (bigEndian : Bool)
  | latin
  | ascii
  | page (upperHalf : String) (gaps : List UInt8)
deriving DecidableEq, Repr

namespace Encoding

/-- The number of octets that a character below 128 takes. -/
def unit : Encoding → Nat
  | .utf16 _ => 2
  | _ => 1

/-- Characters in UTF-8. -/
def decodeUtf8 : List UInt8 → List Char
  | [] => []
  | octet :: rest =>
      match (Text.Utf8.readCharacter octet rest).1 with
      | some character => character :: decodeUtf8 (Text.Utf8.readCharacter octet rest).2
      | none => [illFormed]
  termination_by octets => octets.length
  decreasing_by
    exact Nat.lt_succ_of_le (Text.Utf8.readCharacter_length octet rest)

/-- The sixteen-bit unit of two octets. -/
def unitOf (bigEndian : Bool) (first second : UInt8) : Nat :=
  if bigEndian then first.toNat * 256 + second.toNat else second.toNat * 256 + first.toNat

/-- Characters in UTF-16. The unit after a leading surrogate always completes a character. -/
def decodeUtf16 (bigEndian : Bool) : List UInt8 → List Char
  | first :: second :: rest =>
      let code := unitOf bigEndian first second
      if 0xD800 ≤ code && code < 0xDC00 then
        match rest with
        | third :: fourth :: further =>
            Char.ofNat (0x10000 + code % 1024 * 1024 + unitOf bigEndian third fourth % 1024)
              :: decodeUtf16 bigEndian further
        | _ => [illFormed]
      else if 0xDC00 ≤ code && code < 0xE000 then [illFormed]
      else Char.ofNat code :: decodeUtf16 bigEndian rest
  | [_] => [illFormed]
  | [] => []

/-- The characters of octets each of which is one, up to the first that is none. -/
def decodeSingly (character? : UInt8 → Option Char) : List UInt8 → List Char
  | [] => []
  | octet :: rest =>
      match character? octet with
      | some character => character :: decodeSingly character? rest
      | none => [illFormed]

/-- The character of an octet in a code page. -/
def pageCharacter? (upperHalf : Array Char) (gaps : List UInt8) (octet : UInt8) : Option Char :=
  if octet < 128 then if gaps.contains octet then none else some (Char.ofNat octet.toNat)
  else
    match upperHalf[octet.toNat - 128]? with
    | some character => if character == '\uFFFD' then none else some character
    | none => none

/-- The characters of octets. -/
def decode : Encoding → List UInt8 → List Char
  | .utf8, octets => decodeUtf8 octets
  | .utf16 bigEndian, octets => decodeUtf16 bigEndian octets
  | .latin, octets => octets.map fun octet => Char.ofNat octet.toNat
  | .ascii, octets =>
      decodeSingly (fun octet => if octet < 128 then some (Char.ofNat octet.toNat) else none) octets
  | .page upperHalf gaps, octets =>
      decodeSingly (pageCharacter? upperHalf.toList.toArray gaps) octets

/-- The encoding that the first octets show, and the octets after a byte order mark. -/
def detect : List UInt8 → Encoding × List UInt8
  | 0xFE :: 0xFF :: rest => (.utf16 true, rest)
  | 0xFF :: 0xFE :: rest => (.utf16 false, rest)
  | 0xEF :: 0xBB :: 0xBF :: rest => (.utf8, rest)
  | 0x00 :: second :: rest => (.utf16 true, 0x00 :: second :: rest)
  | first :: 0x00 :: rest => (.utf16 false, first :: 0x00 :: rest)
  | octets => (.utf8, octets)

/-- The name of an encoding in lower case, with one underscore for every sequence of marks between
its letters and digits. Points are kept. -/
def normalizedName (name : String) : List Char :=
  let kept := fun (character : Char) => character.isAlphanum || character == '.'
  let step := fun (gathered : List Char × Bool) (character : Char) =>
    if kept character then
      let lower := character.toLower
      if gathered.2 && !gathered.1.isEmpty then (lower :: '_' :: gathered.1, false)
      else (lower :: gathered.1, false)
    else (gathered.1, true)
  (name.toList.foldl step ([], false)).1.reverse

/-- Whether a name in normal form is one of the names or aliases. -/
def isNamed (names aliases : List String) (name : List Char) : Bool :=
  let exact := String.ofList name
  let dotless := String.ofList
    (name.map fun character => if character == '.' then '_' else character)
  names.contains exact || aliases.contains exact || aliases.contains dotless

/-- The encoding with one octet for a character that a name stands for, or the reason why the name
is of no use. -/
def ofForeignName (name : String) : Except Fault Encoding :=
  let normalized := normalizedName name
  match codePages.find? fun entry => isNamed [entry.name] entry.aliases normalized with
  | some entry => .ok (.page entry.upperHalf entry.gaps)
  | none =>
      let among := fun (group : EncodingNames) => isNamed group.names group.aliases normalized
      if among severalOctetEncodings then .error (.encoding .severalOctets)
      else if among rearrangedEncodings then .error .malformed
      else if among transformations then .error (.encoding (.transformation name))
      else if among asciiEncodings then .error (.encoding .beyondAscii)
      else if among undecodableEncodings then .error (.encoding .undecodable)
      else .error (.encoding (.unknown name))

/-- The encoding that a document goes on with when it names one. A change between octets and
sixteen-bit units, or of their order, is a contradiction. -/
def adopt (current : Encoding) (name : String) : Except Fault Encoding :=
  let asOctets := fun (encoding : Encoding) =>
    if current.unit == 1 then Except.ok encoding else Except.error Fault.malformed
  let asUnits := fun (accepted : Bool) =>
    if accepted then Except.ok current else Except.error Fault.malformed
  match String.ofList (name.toList.map Char.toUpper) with
  | "UTF-8" => asOctets .utf8
  | "ISO-8859-1" => asOctets .latin
  | "US-ASCII" => asOctets .ascii
  | "UTF-16" => asUnits (current.unit == 2)
  | "UTF-16BE" => asUnits (current == .utf16 true)
  | "UTF-16LE" => asUnits (current == .utf16 false)
  | _ => ofForeignName name

end Encoding

end GeoBridge.Xml
