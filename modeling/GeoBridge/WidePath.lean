import GeoBridge.Path
import GeoBridge.Text.WideText

/-!
Owns paths from outside, whose parts need not be ordinary text.

Owns:
- the parts of such a path, where empty parts and single dots vanish;
- its absolute form without any dots, in which a double dot takes back the part before it.
-/

namespace GeoBridge

open Text (Sign WideText)

/-- A path from outside: what it starts from, and its parts. -/
structure WidePath where
  root : PathRoot
  parts : List WideText
deriving DecidableEq, Repr

namespace WidePath

/-- An ordinary path seen as one from outside. -/
def ofPath (path : Path) : WidePath := ⟨path.root, path.parts.map WideText.ofString⟩

/-- The part that takes back the one before it. -/
def doubleDot : WideText := WideText.ofString ".."

/-- The proper parts of signs. -/
def partsOf (signs : WideText) : List WideText := Path.properParts (.scalar '/') (.scalar '.') signs

/-- The absolute path without any dots that a text spells from the working directory. -/
def resolve (signs : WideText) (here : Path) : WidePath :=
  match Path.startOf (.scalar '/') signs with
  | .relative => ⟨here.root, Path.takeBack doubleDot ((ofPath here).parts ++ partsOf signs)⟩
  | root => ⟨root, Path.takeBack doubleDot (partsOf signs)⟩

end WidePath

end GeoBridge
