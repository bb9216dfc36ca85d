import GeoBridge.Text.Lines
import GeoBridge.Xml.Character
import GeoBridge.Xml.NameCharacter

/-!
Owns names, references and the values of attributes.

Owns:
- qualified names, with at most one colon that divides them into prefix and local part;
- references to characters and to entities;
- attribute values as written, and their normal form.
-/

namespace GeoBridge.Xml

/-- Whether a character can stand in a qualified name. -/
def isNameOrColon (character : Char) : Bool := character == ':' || isNameCharacter character

/-- Whether characters can be one of the parts of a qualified name. -/
def isLocalName : List Char → Bool
  | [] => false
  | first :: rest => isNameStart first && rest.all isNameCharacter

/-- Whether characters are a qualified name. -/
def isQualifiedName (characters : List Char) : Bool :=
  match characters.dropWhile (· != ':') with
  | [] => isLocalName characters
  | _ :: behind => isLocalName (characters.takeWhile (· != ':')) && isLocalName behind

/-- What a reference stands for: a character, or an entity other than the five that every document
has. -/
inductive Reference where
  | character (value : Char)
  | entity (name : String)
deriving DecidableEq, Repr

namespace Reference

/-- The entities that every document has. -/
def predefined : List (String × Char) :=
  [("lt", '<'), ("gt", '>'), ("amp", '&'), ("quot", '"'), ("apos", '\'')]

/-- The reference to an entity of the given name. -/
def ofName (name : String) : Reference :=
  match predefined.lookup name with
  | some value => .character value
  | none => .entity name

/-- The value of digits to a base. -/
def valueOf (base : Nat) (digits : List Char) : Nat :=
  digits.foldl (fun value digit => value * base + (Char.toLower digit |> digitValue)) 0
where
  digitValue (digit : Char) : Nat :=
    if digit.isDigit then digit.toNat - 48 else digit.toNat - 87

/-- Whether a character is a hexadecimal digit. -/
def isHexDigit (character : Char) : Bool :=
  character.isDigit || ('a' ≤ character && character ≤ 'f') || ('A' ≤ character && character ≤ 'F')

/-- The allowed character with a given code point. -/
def characterOf? (code : Nat) : Option Char :=
  if code.isValidChar then
    let character := Char.ofNat code
    if isAllowed character then some character else none
  else none

/-- Read a number up to a semicolon. -/
def readNumber (base : Nat) (isDigit : Char → Bool) (characters : List Char) :
    Option (Reference × List Char) :=
  match characters.takeWhile isDigit, characters.dropWhile isDigit with
  | first :: digits, ';' :: rest =>
      (characterOf? (valueOf base (first :: digits))).map fun value => (.character value, rest)
  | _, _ => none

/-- Read a reference after its ampersand. -/
def read : List Char → Option (Reference × List Char)
  | '#' :: 'x' :: rest => readNumber 16 isHexDigit rest
  | '#' :: rest => readNumber 10 Char.isDigit rest
  | characters =>
      match characters.dropWhile isNameCharacter with
      | ';' :: rest =>
          let name := characters.takeWhile isNameCharacter
          if isLocalName name then some (ofName (String.ofList name), rest) else none
      | _ => none

theorem readNumber_length {base : Nat} {isDigit : Char → Bool} {characters rest : List Char}
    {reference : Reference} (found : readNumber base isDigit characters = some (reference, rest)) :
    rest.length ≤ characters.length := by
  have bound := dropWhile_length_le isDigit characters
  unfold readNumber at found
  split at found
  · next behind =>
      simp only [Option.map_eq_some_iff, Prod.mk.injEq] at found
      obtain ⟨value, -, -, same⟩ := found
      subst same
      rw [behind, List.length_cons] at bound
      omega
  · simp at found

theorem read_length {characters rest : List Char} {reference : Reference}
    (found : read characters = some (reference, rest)) : rest.length ≤ characters.length := by
  have bound := dropWhile_length_le isNameCharacter characters
  unfold read at found
  split at found
  · have := readNumber_length found
    simp only [List.length_cons]
    omega
  · have := readNumber_length found
    simp only [List.length_cons]
    omega
  · split at found
    · next behind =>
        simp only at found
        split at found
        · simp only [Option.some.injEq, Prod.mk.injEq] at found
          rw [behind, List.length_cons, found.2] at bound
          omega
        · simp at found
    · simp at found

end Reference

/-- One part of an attribute value as written: a literal character, in which all white space is a
space, or what a reference stands for. -/
inductive ValuePart where
  | literal (character : Char)
  | referred (character : Char)
  | entity (name : String)
deriving DecidableEq, Repr

namespace ValuePart

/-- The part that a reference is. -/
def ofReference : Reference → ValuePart
  | .character value => .referred value
  | .entity name => .entity name

/-- The parts of a value between its quotes, once its line ends are unified. -/
def readAll : List Char → Option (List ValuePart)
  | [] => some []
  | '&' :: rest =>
      match found : Reference.read rest with
      | none => none
      | some (reference, behind) =>
          have : behind.length < rest.length + 1 :=
            Nat.lt_succ_of_le (Reference.read_length found)
          (readAll behind).map (ofReference reference :: ·)
  | character :: rest =>
      if character == '<' || !isAllowed character then none
      else
        (readAll rest).map
          (.literal (if isSpace character then ' ' else character) :: ·)
  termination_by characters => characters.length

/-- The parts of a value between its quotes. -/
def ofValue (characters : List Char) : Option (List ValuePart) :=
  readAll (Text.unifyLineEnds characters)

/-- The characters that parts stand for. Entities are never declared: they make the value invalid,
unless the document leaves room for declarations elsewhere, and then they vanish. -/
def characters (strict : Bool) : List ValuePart → Option (List Char)
  | [] => some []
  | .literal character :: rest | .referred character :: rest =>
      (characters strict rest).map (character :: ·)
  | .entity _ :: rest => if strict then none else characters strict rest

/-- Characters without spaces at the ends and with single spaces between the words. -/
def collapseSpaces (characters : List Char) : List Char :=
  let step := fun (gathered : List Char) (character : Char) =>
    if character == ' ' && (gathered.isEmpty || gathered.head? == some ' ') then gathered
    else character :: gathered
  ((characters.foldl step []).dropWhile (· == ' ')).reverse

/-- The value that parts stand for. Values of declared types other than character data are
collapsed. -/
def value (strict characterData : Bool) (parts : List ValuePart) : Option String :=
  (characters strict parts).map fun found =>
    String.ofList (if characterData then found else collapseSpaces found)

end ValuePart

end GeoBridge.Xml
