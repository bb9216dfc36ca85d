import GeoBridge.Text.Printable

/-!
Owns the quoted forms in which messages show text and octets.

Owns:
- the choice of the quote, a single one unless the text holds single quotes and no double ones;
- the escapes for the quote, the backslash and everything that cannot be printed.
-/

namespace GeoBridge.Text

/-- The digit, in lower case, of a value below sixteen. -/
def hexDigit (value : Nat) : Char :=
  if value < 10 then Char.ofNat (48 + value) else Char.ofNat (87 + value)

/-- The last `width` hexadecimal digits of a value. -/
def hexDigits : (width : Nat) → (value : Nat) → List Char
  | 0, _ => []
  | width + 1, value => hexDigits width (value / 16) ++ [hexDigit (value % 16)]

/-- The quote that needs no escape in the text, where there is one. -/
def chooseQuote (characters : List Char) : Char :=
  if characters.contains '\'' && !characters.contains '"' then '"' else '\''

/-- One character of quoted text. -/
def escapedCharacter (quote character : Char) : List Char :=
  if character == quote || character == '\\' then ['\\', character]
  else if character == '\n' then ['\\', 'n']
  else if character == '\t' then ['\\', 't']
  else if character == '\r' then ['\\', 'r']
  else if isPrintable character then [character]
  else
    let code := character.toNat
    if code < 0x100 then '\\' :: 'x' :: hexDigits 2 code
    else if code < 0x10000 then '\\' :: 'u' :: hexDigits 4 code
    else '\\' :: 'U' :: hexDigits 8 code

/-- Text between quotes, with escapes. -/
def quoted (text : String) : String :=
  let characters := text.toList
  let quote := chooseQuote characters
  String.ofList (quote :: characters.flatMap (escapedCharacter quote) ++ [quote])

/-- One octet of quoted octets: the printable ASCII characters stand for themselves. -/
def escapedOctet (quote : Char) (octet : UInt8) : List Char :=
  let character := Char.ofNat octet.toNat
  if character == quote || character == '\\' then ['\\', character]
  else if character == '\n' then ['\\', 'n']
  else if character == '\t' then ['\\', 't']
  else if character == '\r' then ['\\', 'r']
  else if 32 ≤ octet && octet < 127 then [character]
  else '\\' :: 'x' :: hexDigits 2 octet.toNat

/-- Octets between quotes, marked by a `b` before the first. -/
def quotedOctets (octets : List UInt8) : String :=
  let quote := chooseQuote (octets.map fun octet => Char.ofNat octet.toNat)
  String.ofList ('b' :: quote :: octets.flatMap (escapedOctet quote) ++ [quote])

end GeoBridge.Text
