/-!
Owns the classes of characters that patterns and filters know by name. The characters are octets,
of which those beyond ASCII belong to no class.
-/

namespace GeoBridge.Shell

/-- Whether a character is printed as something visible. -/
def isGraphic (character : Char) : Bool := 33 ≤ character.toNat && character.toNat ≤ 126

/-- Whether a character is a control character. -/
def isControl (character : Char) : Bool := character.toNat < 32 || character.toNat == 127

/-- Whether a character moves the cursor without showing anything. -/
def isSpace (character : Char) : Bool :=
  character == ' ' || (9 ≤ character.toNat && character.toNat ≤ 13)

/-- Whether a character is a hexadecimal digit. -/
def isHexadecimal (character : Char) : Bool :=
  character.isDigit || ('a' ≤ character && character ≤ 'f') || ('A' ≤ character && character ≤ 'F')

/-- The classes by their names. -/
def octetClasses : List (String × (Char → Bool)) :=
  [("alpha", Char.isAlpha), ("digit", Char.isDigit), ("alnum", Char.isAlphanum),
   ("upper", Char.isUpper), ("lower", Char.isLower), ("space", isSpace),
   ("blank", fun character => character == ' ' || character == '\t'), ("cntrl", isControl),
   ("xdigit", isHexadecimal), ("graph", isGraphic),
   ("print", fun character => character == ' ' || isGraphic character),
   ("punct", fun character => isGraphic character && !character.isAlphanum)]

/-- Whether a character belongs to the class of a name. -/
def isOfClass (name : String) (character : Char) : Bool :=
  (octetClasses.lookup name).any fun holds => holds character

end GeoBridge.Shell
