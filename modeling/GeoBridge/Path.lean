/-!
Owns paths as written: how they are divided, joined, made absolute and shown.

Owns:
- the division of a path at its slashes, where empty parts and single dots vanish and double dots
  stay;
- joining, in which an absolute path replaces what stands before it;
- the lexical normal form of an absolute path, in which a double dot takes back the part before it.
-/

namespace GeoBridge

/-- What a path starts from: the working directory, the root, or the root written with two
slashes, which is kept apart from it. -/
inductive PathRoot where
  | relative
  | single
  | double
deriving DecidableEq, Repr

/-- A path: what it starts from, and its parts. -/
structure Path where
  root : PathRoot
  parts : List String
deriving DecidableEq, Repr

namespace Path

/-- Items divided at every separator, given the items of the part under way, last first. -/
def divide {α : Type} [BEq α] (separator : α) : (part : List α) → List α → List (List α)
  | part, [] => [part.reverse]
  | part, item :: rest =>
      if item == separator then part.reverse :: divide separator [] rest
      else divide separator (item :: part) rest

/-- Whether a part counts. Empty parts and single dots do not. -/
def counts {α : Type} [BEq α] (dot : α) (part : List α) : Bool := !part.isEmpty && part != [dot]

/-- The parts that count. -/
def properParts {α : Type} [BEq α] (slash dot : α) (items : List α) : List (List α) :=
  (divide slash [] items).filter (counts dot)

/-- What a path starts from, by the slashes at its front. Exactly two are kept apart, three and more
are one. -/
def startOf {α : Type} [BEq α] (slash : α) (items : List α) : PathRoot :=
  match (items.takeWhile (· == slash)).length with
  | 0 => .relative
  | 2 => .double
  | _ => .single

/-- The parts once every double dot has taken back the part before it. There is nothing to take
back at the root. -/
def takeBack {α : Type} [BEq α] (doubleDot : α) (parts : List α) : List α :=
  (parts.foldl (fun kept part => if part == doubleDot then kept.tail else part :: kept) []).reverse

/-- The proper parts of characters. -/
def partsOf (characters : List Char) : List String :=
  (properParts '/' '.' characters).map String.ofList

/-- What a path of characters starts from. -/
def rootOf (characters : List Char) : PathRoot := startOf '/' characters

/-- The path that a text spells. -/
def ofString (text : String) : Path := ⟨rootOf text.toList, partsOf text.toList⟩

/-- The text of a path. A path without any parts is a dot. -/
def text (path : Path) : String :=
  let joined := "/".intercalate path.parts
  match path.root with
  | .relative => if path.parts.isEmpty then "." else joined
  | .single => "/" ++ joined
  | .double => "//" ++ joined

/-- Whether a path starts from the root. -/
def isAbsolute (path : Path) : Bool := path.root != .relative

/-- A path followed by another. An absolute path replaces what stands before it. -/
def join (path following : Path) : Path :=
  if following.isAbsolute then following else ⟨path.root, path.parts ++ following.parts⟩

/-- A path followed by what a text spells. -/
def joinText (path : Path) (following : String) : Path := path.join (ofString following)

/-- A path made absolute from the working directory. Double dots stay. -/
def absolute (path here : Path) : Path := here.join path

/-- The path without its last part. -/
def parent (path : Path) : Path := { path with parts := path.parts.dropLast }

/-- The last part, empty if there is none. -/
def name (path : Path) : String := path.parts.getLast?.getD ""

/-- The last part without its extension. A dot at either end begins none. -/
def stem (path : Path) : String :=
  let characters := path.name.toList
  let backward := characters.reverse
  let extension := backward.takeWhile (· != '.')
  match backward.dropWhile (· != '.') with
  | _ :: before =>
      if extension.isEmpty || before.isEmpty then path.name else String.ofList before.reverse
  | [] => path.name

/-- The parts of an absolute path without double dots. -/
def withoutDoubleDots (parts : List String) : List String := takeBack ".." parts

/-- The lexical normal form of an absolute path. -/
def normalize (path : Path) : Path := { path with parts := withoutDoubleDots path.parts }

/-- A path made absolute and brought to its lexical normal form. -/
def resolveLexically (path here : Path) : Path := (path.absolute here).normalize

end Path

end GeoBridge
