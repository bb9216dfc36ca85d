import GeoBridge.Xml.Encoding

/-!
Owns the declaration that can stand at the very start of a document.

Owns:
- its three entries, version, encoding and standalone, in this order;
- the characters of a document after its declaration, in the encoding it names.
-/

namespace GeoBridge.Xml

/-- What a document declares about itself. -/
structure Declaration where
  encoding : Option String := none
  standalone : Bool := false
deriving DecidableEq, Repr

namespace Declaration

/-- One entry of a declaration. -/
structure Entry where
  name : String
  value : String

/-- Whether a character may stand in the value of an entry. -/
def isValueCharacter (character : Char) : Bool :=
  character.isAlphanum || character == '.' || character == '-' || character == '_'

/-- Read the value of an entry from its opening quote on. -/
def readValue : List Char → Option (String × List Char)
  | quote :: rest =>
      if quote == '"' || quote == '\'' then
        match rest.dropWhile isValueCharacter with
        | closing :: behind =>
            if closing == quote then some (String.ofList (rest.takeWhile isValueCharacter), behind)
            else none
        | [] => none
      else none
  | [] => none

/-- Read the next entry. There is none where only space is left. -/
def readEntry (characters : List Char) : Option (Option (Entry × List Char)) :=
  match characters with
  | [] => some none
  | first :: _ =>
      if !isSpace first then none
      else
        let begun := characters.dropWhile isSpace
        if begun.isEmpty then some none
        else
          let isNamePart := fun (character : Char) => !isSpace character && character != '='
          let name := begun.takeWhile isNamePart
          match (begun.dropWhile isNamePart).dropWhile isSpace with
          | '=' :: rest =>
              if name.isEmpty then none
              else
                match readValue (rest.dropWhile isSpace) with
                | some (value, behind) => some (some (⟨String.ofList name, value⟩, behind))
                | none => none
          | _ => none

/-- The end of a declaration: an entry for standalone documents, with nothing after it. -/
def readStandalone (encoding : Option String) : Option (Entry × List Char) → Option Declaration
  | none => some { encoding }
  | some (entry, rest) =>
      if entry.name == "standalone" && rest.all isSpace then
        if entry.value == "yes" then some { encoding, standalone := true }
        else if entry.value == "no" then some { encoding }
        else none
      else none

/-- The entries after the version. -/
def readFurther : Option (Entry × List Char) → Option Declaration
  | none => some {}
  | some (entry, rest) =>
      if entry.name == "encoding" then
        if (entry.value.toList.head?.map Char.isAlpha).getD false then
          (readEntry rest).bind (readStandalone (some entry.value))
        else none
      else readStandalone none (some (entry, rest))

/-- The declaration between its opening and closing marks. -/
def ofBody (body : List Char) : Option Declaration :=
  match readEntry body with
  | some (some (version, rest)) =>
      if version.name == "version" then (readEntry rest).bind readFurther else none
  | _ => none

/-- The body of the declaration at the start of a document, if there is one, with the count of its
characters and marks. -/
def body? : List Char → Option (Option (List Char × Nat))
  | '<' :: '?' :: 'x' :: 'm' :: 'l' :: rest =>
      if (rest.head?.map isSpace).getD false then
        match splitAtMarker ['?', '>'] rest with
        | some (body, _) => some (some (body, body.length + 7))
        | none => none
      else some none
  | _ => some none

end Declaration

/-- The characters of a document after its declaration. Octets are decoded in the encoding that
the declaration names, unless the encoding is settled from outside. -/
def openDocument (settled : Bool) (octets : List UInt8) :
    Except Fault (Declaration × List Char) :=
  let (encoding, body) := Encoding.detect octets
  let characters := encoding.decode body
  match Declaration.body? characters with
  | none => .error .malformed
  | some none => .ok ({}, characters)
  | some (some (inside, count)) =>
      match Declaration.ofBody inside with
      | none => .error .malformed
      | some declaration =>
          match if settled then none else declaration.encoding with
          | none => .ok (declaration, characters.drop count)
          | some name =>
              match encoding.adopt name with
              | .error fault => .error fault
              | .ok adopted =>
                  .ok (declaration, adopted.decode (body.drop (count * encoding.unit)))

end GeoBridge.Xml
