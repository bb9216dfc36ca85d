import GeoBridge.Shell.Pattern
import GeoBridge.Shell.State

/-!
Owns the paths that patterns stand for.

Owns:
- the parts of a pattern between slashes, each of which matches names in one directory;
- the paths that match, in ascending order. Hidden names are matched by a leading dot only.
-/

namespace GeoBridge.Shell

namespace PathPattern

/-- The parts of glyphs between slashes, given the glyphs of the part under way, last first. -/
def parts : (part : List Glyph) → List Glyph → List (List Glyph)
  | part, [] => [part.reverse]
  | part, glyph :: rest =>
      if glyph.character == '/' then part.reverse :: parts [] rest else parts (glyph :: part) rest

/-- The names in the directory that a text leads to, with those of the directory itself and of the
one around it. -/
def namesIn (workspace : Workspace) (directory : String) : List String :=
  let path := if directory.isEmpty then "." else directory
  match workspace.locate (pathOf path), workspace.inspect (pathOf path) with
  | .ok place, .ok .directory =>
      "." :: ".." :: (workspace.children place).map toOctetText
  | _, _ => []

/-- Whether a part of a pattern matches a name. -/
def matchesName (part : List Glyph) (name : String) : Bool :=
  let isHidden := name.startsWith "."
  let allowsHidden := (part.head?.map fun glyph => glyph.character == '.').getD false
  (!isHidden || allowsHidden) && (Pattern.ofGlyphs part).fits name.toList

/-- The ways to go on from a path by the names that a part of a pattern matches. -/
def step (workspace : Workspace) (part : List Glyph) (path : String) : List String :=
  if Glyph.formPattern part then
    ((namesIn workspace path).filter (matchesName part)).map (path ++ ·)
  else [path ++ Glyph.text part]

/-- Whether a text leads to anything. -/
def isThere (workspace : Workspace) (path : String) : Bool :=
  (workspace.inspect (pathOf path)).isOk

/-- The paths that the parts of a pattern match, beginning with some paths. -/
def follow (workspace : Workspace) : List (List Glyph) → List String → List String
  | [], paths => paths
  | [last], paths => (paths.flatMap (step workspace last)).filter (isThere workspace)
  | part :: rest, paths =>
      follow workspace rest ((paths.flatMap (step workspace part)).map (· ++ "/"))

end PathPattern

/-- The paths that match a pattern, or its text where there are none. -/
def pathsOf (workspace : Workspace) (glyphs : List Glyph) : List String :=
  if !Glyph.formPattern glyphs then [Glyph.text glyphs]
  else
    let found := PathPattern.follow workspace (PathPattern.parts [] glyphs) [""]
    if found.isEmpty then [Glyph.text glyphs]
    else found.mergeSort fun first second => first ≤ second

end GeoBridge.Shell
