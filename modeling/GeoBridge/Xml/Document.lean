import GeoBridge.Xml.Declaration
import GeoBridge.Xml.Prolog

/-!
Owns documents: the passage from text or octets to the outermost element.

Faults show at the place where they stand, so of an entity declaration and a flaw of form the
earlier one is reported.
-/

namespace GeoBridge.Xml

/-- A document, as text or as the octets of some encoding. -/
inductive Document where
  | text (content : String)
  | octets (content : List UInt8)
deriving DecidableEq, Repr

/-- The outermost element of the characters from its start tag on, with nothing but space and
remarks after it. -/
def readContent (rules : ContentRules) (characters : List Char) : Option Element :=
  match (Piece.readAll characters).bind WrittenElement.read with
  | some (written, rest) =>
      if rest.all Piece.isEpilogue then written.resolve rules Scope.initial else none
  | none => none

/-- The outermost element of the characters after the declaration. -/
def readCharacters (declaration : Declaration) (characters : List Char) : Except Fault Element :=
  match ({ standalone := declaration.standalone } : Prolog).read characters with
  | .error fault => .error fault
  | .ok (prolog, content) =>
      match readContent prolog.contentRules content with
      | some element => .ok element
      | none => .error .malformed

/-- The outermost element of a document. Text is read through its UTF-8 form, and the encoding that
it names is not asked for. -/
def Document.read : Document → Except Fault Element
  | .text content =>
      (openDocument true (Text.Utf8.encode content)).bind fun (declaration, characters) =>
        readCharacters declaration characters
  | .octets content =>
      (openDocument false content).bind fun (declaration, characters) =>
        readCharacters declaration characters

end GeoBridge.Xml
