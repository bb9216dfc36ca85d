import GeoBridge.Text.Blank
import GeoBridge.Text.Lines
import GeoBridge.Text.WordCharacter

/-!
Owns the ways in which the tools expect to be called, and the lines in which they announce what
they can produce.

Owns:
- the two line patterns;
- profiles, with those of the raster and the vector tool;
- the formats that an output announces.
-/

namespace GeoBridge

/-- The form of a line that announces a format: a code after two blanks and before a colon and a
blank, or a quoted code after an arrow. -/
inductive LinePattern where
  | listed
  | arrow
deriving DecidableEq, Repr

namespace LinePattern

/-- The code in a line like `  GTiff: GeoTIFF`. -/
def matchListed (words : Text.WordClass) : List Char → Option (List Char)
  | first :: second :: rest =>
      if Text.isBlank first && Text.isBlank second then
        let code := rest.takeWhile words.isWord
        match rest.dropWhile words.isWord with
        | ':' :: next :: _ => if Text.isBlank next && !code.isEmpty then some code else none
        | _ => none
      else none
  | _ => none

/-- The code in a line like `  -> "GeoJSON"`. -/
def matchArrow (line : List Char) : Option (List Char) :=
  match line.dropWhile Text.isBlank with
  | '-' :: '>' :: rest =>
      match rest.dropWhile Text.isBlank with
      | '"' :: quoted =>
          let code := quoted.takeWhile (· != '"')
          if code.length < quoted.length && !code.isEmpty then some code else none
      | _ => none
  | _ => none

/-- The code that a line announces in the given form. -/
def codeIn? (words : Text.WordClass) : LinePattern → List Char → Option (List Char)
  | .listed, line => matchListed words line
  | .arrow, line => matchArrow line

end LinePattern

/-- How a tool expects to be called. -/
structure Profile where
  name : String
  formatFlag : Option String := none
  inputFirst : Bool := true
  crsFlag : Option String := some "-a_srs"
  probeArguments : List String := ["--long-usage"]
  versionArguments : List String := ["--version"]
  patterns : List LinePattern := [.listed]
  dataVariable : Option String := some "GDAL_DATA"
deriving DecidableEq, Repr

namespace Profile

/-- The code that a line announces, by the first pattern it has. -/
def codeIn? (profile : Profile) (line : List Char)
    (words : Text.WordClass := Text.WordClass.tabled) : Option String :=
  (profile.patterns.findSome? (·.codeIn? words line)).map String.ofList

/-- The codes that an output announces, each once, in the order in which they first come. -/
def announced (profile : Profile) (output : String)
    (words : Text.WordClass := Text.WordClass.tabled) : List String :=
  ((Text.lines output).filterMap (profile.codeIn? · words)).eraseDups

/-- The raster tool takes its input first. -/
def gdalTranslate : Profile where
  name := "gdal_translate"
  formatFlag := some "-of"

/-- The vector tool takes its output first and announces formats in both forms. -/
def ogr2ogr : Profile where
  name := "ogr2ogr"
  formatFlag := some "-f"
  inputFirst := false
  patterns := [.arrow, .listed]

end Profile

end GeoBridge
