import GeoBridge.Crs

/-!
Owns the library of coordinate systems that are known by their codes.

Owns:
- tables of systems, and the libraries that they make up;
- the table that is compiled in.
-/

namespace GeoBridge

/-- What is known about coordinate systems: the text of each by its code, where it has one in the
old form that every tool reads, and the reason told for all others. -/
structure Geodesy where
  systems : List (Nat × Option String)
  reason : String
deriving DecidableEq, Repr

namespace Geodesy

/-- The text of a system, or the reason why there is none. -/
def textOf (geodesy : Geodesy) (code : Nat) : Except String String :=
  match geodesy.systems.lookup code with
  | some (some text) => if text.isEmpty then .error geodesy.reason else .ok text
  | _ => .error geodesy.reason

/-- The code that a text names: digits alone or after the name of the authority, in any case. -/
def codeOf? (geodesy : Geodesy) (text : String) : Option Nat :=
  let characters := text.toList
  let digits :=
    if (characters.take 5).map Char.toLower == "epsg:".toList then characters.drop 5
    else characters
  (geodesy.systems.map Prod.fst).find? fun code => (toString code).toList == digits

/-- The library of the systems that are known by their codes. -/
def library (geodesy : Geodesy) : CrsLibrary where
  ofNumber number := if 0 ≤ number then .ok number.toNat else .error geodesy.reason
  ofText text :=
    match geodesy.codeOf? text with
    | some code => .ok code
    | none => .error geodesy.reason
  shown code := "EPSG:" ++ toString code
  textIn _ code := (geodesy.textOf code).map some

end Geodesy

/-- Longitude and latitude of the World Geodetic System of 1984. -/
def geographic1984 : String :=
  "GEOGCS[\"WGS 84\",DATUM[\"WGS_1984\",SPHEROID[\"WGS 84\",6378137,298.257223563," ++
  "AUTHORITY[\"EPSG\",\"7030\"]],AUTHORITY[\"EPSG\",\"6326\"]],PRIMEM[\"Greenwich\",0," ++
  "AUTHORITY[\"EPSG\",\"8901\"]],UNIT[\"degree\",0.0174532925199433," ++
  "AUTHORITY[\"EPSG\",\"9122\"]],AUTHORITY[\"EPSG\",\"4326\"]]"

/-- The transverse Mercator zone 13 north of the North American Datum of 1927. -/
def zone13North1927 : String :=
  "PROJCS[\"NAD27 / UTM zone 13N\",GEOGCS[\"NAD27\",DATUM[\"North_American_Datum_1927\"," ++
  "SPHEROID[\"Clarke 1866\",6378206.4,294.978698213898,AUTHORITY[\"EPSG\",\"7008\"]]," ++
  "AUTHORITY[\"EPSG\",\"6267\"]],PRIMEM[\"Greenwich\",0,AUTHORITY[\"EPSG\",\"8901\"]]," ++
  "UNIT[\"degree\",0.0174532925199433,AUTHORITY[\"EPSG\",\"9122\"]]," ++
  "AUTHORITY[\"EPSG\",\"4267\"]],PROJECTION[\"Transverse_Mercator\"]," ++
  "PARAMETER[\"latitude_of_origin\",0],PARAMETER[\"central_meridian\",-105]," ++
  "PARAMETER[\"scale_factor\",0.9996],PARAMETER[\"false_easting\",500000]," ++
  "PARAMETER[\"false_northing\",0],UNIT[\"metre\",1,AUTHORITY[\"EPSG\",\"9001\"]]," ++
  "AXIS[\"Easting\",EAST],AXIS[\"Northing\",NORTH],AUTHORITY[\"EPSG\",\"26713\"]]"

/-- Heights above the geoid of 1996. -/
def geoidHeight1996 : String :=
  "VERT_CS[\"EGM96 height\",VERT_DATUM[\"EGM96 geoid\",2005,AUTHORITY[\"EPSG\",\"5171\"]]," ++
  "UNIT[\"metre\",1,AUTHORITY[\"EPSG\",\"9001\"]],AXIS[\"Gravity-related height\",UP]," ++
  "AUTHORITY[\"EPSG\",\"5773\"]]"

/-- The coordinate systems that are compiled in, by number. The last one is known, but has no
text. -/
def Geodesy.builtin (reason : String) : Geodesy where
  systems :=
    [(4326, some geographic1984), (26713, some zone13North1927), (5773, some geoidHeight1996),
     (4979, none)]
  reason := reason

end GeoBridge
