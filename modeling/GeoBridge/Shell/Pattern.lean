import GeoBridge.Shell.OctetClass

/-!
Owns the patterns by which shell scripts choose texts and file names.

Owns:
- characters with the mark of having been quoted, by which they mean nothing in a pattern;
- the items of a pattern and the texts they match;
- the cutting off of a part that matches, at either end, and as short or as long as can be.
-/

namespace GeoBridge.Shell

/-- A character of an expanded word. A quoted one stands for itself wherever it comes. -/
structure Glyph where
  character : Char
  isQuoted : Bool
deriving DecidableEq, Repr

namespace Glyph

/-- Whether a glyph is the given character with the meaning it has in patterns. -/
def isSign (glyph : Glyph) (character : Char) : Bool :=
  glyph.character == character && !glyph.isQuoted

/-- The glyphs of quoted or unquoted characters. -/
def ofCharacters (isQuoted : Bool) (characters : List Char) : List Glyph :=
  characters.map fun character => ⟨character, isQuoted⟩

/-- The text of glyphs. -/
def text (glyphs : List Glyph) : String := String.ofList (glyphs.map character)

/-- Whether glyphs hold a sign that makes a pattern of them. -/
def formPattern (glyphs : List Glyph) : Bool :=
  glyphs.any fun glyph => glyph.isSign '*' || glyph.isSign '?' || glyph.isSign '['

end Glyph

/-- A set of characters: ranges and classes, or all that is not in them. -/
structure OctetSet where
  negated : Bool := false
  ranges : List (Char × Char) := []
  classes : List String := []
deriving DecidableEq, Repr

/-- Whether a character is in a set. -/
def OctetSet.contains (set : OctetSet) (character : Char) : Bool :=
  (set.ranges.any (fun range => range.1 ≤ character && character ≤ range.2)
    || set.classes.any (isOfClass · character)) != set.negated

/-- An item of a pattern: a character, any character, any text, or a character of a set. -/
inductive PatternItem where
  | one (character : Char)
  | any
  | many
  | among (set : OctetSet)
deriving DecidableEq, Repr

namespace PatternItem

/-- Whether an item matches a single character. -/
def accepts (character : Char) : PatternItem → Bool
  | .one expected => expected == character
  | .any | .many => true
  | .among set => set.contains character

/-- The name of a class between a colon and a colon with a bracket, and what comes behind. -/
def className? (glyphs : List Glyph) : Option (String × List Glyph) :=
  match glyphs with
  | opening :: rest =>
      let name := rest.takeWhile (!·.isSign ':')
      match rest.drop name.length with
      | colon :: bracket :: behind =>
          if opening.isSign ':' && colon.isSign ':' && bracket.isSign ']' then
            some (Glyph.text name, behind)
          else none
      | _ => none
  | [] => none

/-- Read the members of a set up to the bracket that closes it. A bracket in the first place is a
member. Every step uses up a glyph. -/
def readMembers (gathered : OctetSet) : (fuel : Nat) → (isFirst : Bool) → List Glyph →
    Option (OctetSet × List Glyph)
  | 0, _, _ | _, _, [] => none
  | fuel + 1, isFirst, glyph :: rest =>
      if glyph.isSign ']' && !isFirst then some (gathered, rest)
      else
        match if glyph.isSign '[' then className? rest else none, rest with
        | some (name, behind), _ =>
            readMembers { gathered with classes := name :: gathered.classes } fuel false behind
        | none, hyphen :: last :: behind =>
            if hyphen.isSign '-' && !last.isSign ']' then
              readMembers
                { gathered with ranges := (glyph.character, last.character) :: gathered.ranges }
                fuel false behind
            else
              readMembers
                { gathered with ranges := (glyph.character, glyph.character) :: gathered.ranges }
                fuel false rest
        | none, _ =>
            readMembers
              { gathered with ranges := (glyph.character, glyph.character) :: gathered.ranges }
              fuel false rest

/-- The set behind an opening bracket, and what comes behind it. -/
def readSet (glyphs : List Glyph) : Option (OctetSet × List Glyph) :=
  match glyphs with
  | mark :: rest =>
      if mark.isSign '!' then readMembers { negated := true } (rest.length + 1) true rest
      else readMembers {} (glyphs.length + 1) true glyphs
  | [] => none

/-- The items of a pattern. A bracket that is never closed stands for itself. -/
def readAll : (fuel : Nat) → List Glyph → List PatternItem
  | 0, _ | _, [] => []
  | fuel + 1, glyph :: rest =>
      if glyph.isSign '*' then .many :: readAll fuel rest
      else if glyph.isSign '?' then .any :: readAll fuel rest
      else
        match if glyph.isSign '[' then readSet rest else none with
        | some (set, behind) => .among set :: readAll fuel behind
        | none => .one glyph.character :: readAll fuel rest

end PatternItem

/-- A pattern. -/
abbrev Pattern := List PatternItem

namespace Pattern

/-- The pattern that glyphs spell. -/
def ofGlyphs (glyphs : List Glyph) : Pattern := PatternItem.readAll (glyphs.length + 1) glyphs

/-- The texts that are left of a text when more and more is taken from its front. -/
def suffixes : List Char → List (List Char)
  | [] => [[]]
  | character :: rest => (character :: rest) :: suffixes rest

/-- Whether a pattern matches a whole text. -/
def fits : Pattern → List Char → Bool
  | [], text => text.isEmpty
  | .many :: items, text => (suffixes text).any (fits items)
  | item :: items, character :: text => item.accepts character && fits items text
  | _ :: _, [] => false

/-- The text without a part at its front or its end that the pattern matches. Of several parts the
longest is cut off, or the shortest. -/
def cutOff (pattern : Pattern) (atEnd longest : Bool) (text : List Char) : List Char :=
  let lengths := List.range (text.length + 1)
  let ordered := if longest then lengths.reverse else lengths
  let part := fun (length : Nat) =>
    if atEnd then text.drop (text.length - length) else text.take length
  match ordered.find? fun length => pattern.fits (part length) with
  | some length => if atEnd then text.take (text.length - length) else text.drop length
  | none => text

end Pattern

end GeoBridge.Shell
