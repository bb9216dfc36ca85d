import GeoBridge.Shell.Pattern
import GeoBridge.Shell.Task

/-!
Owns the command that reads lines into variables.

Owns:
- the line, in which a backslash keeps the next character from dividing anything and a line break
  from ending the line;
- the sharing of its fields among variables, of which the last takes all that is left.
-/

namespace GeoBridge.Shell

namespace Builtin

/-- The sharing of a line: the fields that are complete, last first, the one under way with its
characters last first, what is to be kept of it if nothing but separators follows, whether a blank
came before, and the number of fields that may still be divided off. -/
structure Sharing where
  complete : List String := []
  current : List Char := []
  kept : Option (List Char) := none
  afterBlank : Bool := false
  left : Nat
deriving DecidableEq, Repr

namespace Sharing

/-- Go on by a character once all further ones belong to the last field. -/
def addLast (separators : Separators) (sharing : Sharing) (character : Char) : Sharing :=
  let isBlank := separators.blanks.contains character
  let isMark := separators.marks.contains character
  let current := character :: sharing.current
  if isBlank then { sharing with current, kept := some (sharing.kept.getD sharing.current) }
  else
    { sharing with
      current, afterBlank := false
      kept := if isMark && sharing.afterBlank then sharing.kept else none }

/-- Go on by a character that may divide fields. -/
def addDividing (separators : Separators) (sharing : Sharing) (character : Char) : Sharing :=
  let isBlank := separators.blanks.contains character
  let isMark := separators.marks.contains character
  if sharing.afterBlank && isBlank then { sharing with current := [] }
  else if sharing.afterBlank && isMark then { sharing with current := [], afterBlank := false }
  else
    let begun := if sharing.afterBlank then { sharing with current := [] } else sharing
    if !(isBlank || isMark) then
      { begun with current := character :: begun.current, afterBlank := false }
    else if isBlank && begun.current.isEmpty then { begun with afterBlank := false }
    else if begun.left ≤ 1 then
      { begun with
        left := 0, afterBlank := isBlank
        current := character :: begun.current, kept := some begun.current }
    else
      { begun with
        complete := String.ofList begun.current.reverse :: begun.complete
        current := [], left := begun.left - 1, afterBlank := isBlank }

/-- Go on by a glyph. A quoted one never divides anything. -/
def add (separators : Separators) (sharing : Sharing) (glyph : Glyph) : Sharing :=
  if glyph.isQuoted then { sharing with current := glyph.character :: sharing.current }
  else if sharing.left == 0 then sharing.addLast separators glyph.character
  else sharing.addDividing separators glyph.character

/-- All fields. -/
def toList (sharing : Sharing) : List String :=
  let last := sharing.kept.getD sharing.current
  (if last.isEmpty then sharing.complete
    else String.ofList last.reverse :: sharing.complete).reverse

end Sharing

/-- The fields of a line, of which there are at most so many. -/
def fieldsOfLine (separators : Separators) (count : Nat) (line : List Glyph) : List String :=
  (line.foldl (Sharing.add separators) { left := count }).toList

/-- The glyphs of a line in which backslashes quote, and whether the last one quotes the line
break. -/
def glyphsOfLine : List Char → List Glyph × Bool
  | [] => ([], false)
  | ['\\'] => ([], true)
  | '\\' :: character :: rest =>
      let (further, goesOn) := glyphsOfLine rest
      (⟨character, true⟩ :: further, goesOn)
  | character :: rest =>
      let (further, goesOn) := glyphsOfLine rest
      (⟨character, false⟩ :: further, goesOn)

/-- The next line of the input as glyphs, and whether it is a whole one. -/
def readGlyphs (quotes : Bool) : (fuel : Nat) → Run (List Glyph × Bool)
  | 0 => pure ([], false)
  | fuel + 1 => do
      let (octets, isWhole) ← Run.readLine
      let characters := (textOfOctets (octets.filter (· != 0))).toList
      if !quotes then pure (Glyph.ofCharacters false characters, isWhole)
      else
        let (glyphs, goesOn) := glyphsOfLine characters
        if goesOn && isWhole then
          let (further, ends) ← readGlyphs quotes fuel
          pure (glyphs ++ further, ends)
        else pure (glyphs, isWhole)

/-- The options before names: whether backslashes quote, and the names. -/
def readOptions (line : Nat) (quotes : Bool) : List String → Run (Bool × List String)
  | "-r" :: rest => readOptions line false rest
  | "-p" :: _ :: rest => readOptions line quotes rest
  | "-rp" :: _ :: rest => readOptions line false rest
  | "--" :: rest => pure (quotes, rest)
  | word :: rest =>
      match word.toList with
      | '-' :: letter :: _ =>
          Run.giveUp line ("read: Illegal option -" ++ letter.toString)
      | _ => pure (quotes, word :: rest)
  | [] => pure (quotes, [])

/-- Read a line into variables. -/
def read : Builtin := fun line arguments => do
  let (quotes, names) ← readOptions line true arguments
  if names.isEmpty then Run.giveUp line "read: arg count"
  let (glyphs, isWhole) ← readGlyphs quotes 10000
  let state ← get
  let fields := fieldsOfLine state.separators names.length glyphs
  (names.zip (fields ++ List.replicate names.length "")).forM fun (name, field) => do
    if !isName name.toList then Run.giveUp line ("read: " ++ name ++ ": bad variable name")
    Run.assign line "read: " name field
  pure (if isWhole then 0 else 1)

end Builtin

end GeoBridge.Shell
