import GeoBridge.Association
import GeoBridge.Xml.Piece

/-!
Owns elements and their namespaces.

Owns:
- elements as written, with their prefixes, and the element that content spells;
- the attributes that declarations add or change;
- elements with expanded names, in which a namespace stands in braces before the local name.
-/

namespace GeoBridge.Xml

/-- An element. Its text is what stands before its first child; without any characters there, it
has none. -/
inductive Element where
  | node (tag : String) (attributes : Association String String) (text : Option String)
      (children : List Element)

namespace Element

/-- The expanded name. -/
def tag : Element → String
  | .node tag _ _ _ => tag

/-- The attributes by their expanded names. -/
def attributes : Element → Association String String
  | .node _ attributes _ _ => attributes

/-- The text before the first child. -/
def text : Element → Option String
  | .node _ _ text _ => text

/-- The children in their order. -/
def children : Element → List Element
  | .node _ _ _ children => children

/-- The first child with the given name. -/
def child? (element : Element) (tag : String) : Option Element :=
  element.children.find? (·.tag == tag)

end Element

/-- An element as written. -/
inductive WrittenElement where
  | node (name : String) (attributes : List WrittenAttribute) (text : List Char)
      (children : List WrittenElement)

/-- An element that has begun: its name and attributes, the text before its first child, and its
children, last first. -/
structure OpenElement where
  name : String
  attributes : List WrittenAttribute
  text : List Char := []
  children : List WrittenElement := []

namespace OpenElement

/-- The element at its end. -/
def close (element : OpenElement) : WrittenElement :=
  .node element.name element.attributes element.text element.children.reverse

/-- The element with further characters. Behind a child they are dropped. -/
def addText (element : OpenElement) (characters : List Char) : OpenElement :=
  if element.children.isEmpty then { element with text := element.text ++ characters } else element

/-- The element with a further child. -/
def addChild (element : OpenElement) (child : WrittenElement) : OpenElement :=
  { element with children := child :: element.children }

end OpenElement

namespace WrittenElement

/-- Read the pieces up to the end of the outermost of the elements that have begun. They are given
innermost first: `inner` is under way inside the elements of `outer`. -/
def readWithin : (inner : OpenElement) → (outer : List OpenElement) → List Piece →
    Option (WrittenElement × List Piece)
  | _, _, [] => none
  | inner, outer, .opening name attributes closed :: rest =>
      let begun : OpenElement := { name, attributes }
      if closed then readWithin (inner.addChild begun.close) outer rest
      else readWithin begun (inner :: outer) rest
  | inner, outer, .closing name :: rest =>
      if name == inner.name then
        match outer with
        | [] => some (inner.close, rest)
        | parent :: further => readWithin (parent.addChild inner.close) further rest
      else none
  | inner, outer, .text characters :: rest
  | inner, outer, .section characters :: rest => readWithin (inner.addText characters) outer rest
  | inner, outer, .reference (.character value) :: rest =>
      readWithin (inner.addText [value]) outer rest
  | _, _, .reference (.entity _) :: _ => none
  | inner, outer, .remark :: rest => readWithin inner outer rest

/-- Read one element at its start tag. -/
def read : List Piece → Option (WrittenElement × List Piece)
  | .opening name attributes closed :: rest =>
      let begun : OpenElement := { name, attributes }
      if closed then some (begun.close, rest) else readWithin begun [] rest
  | _ => none

end WrittenElement

/-- Whether a piece may stand after the outermost element. -/
def Piece.isEpilogue : Piece → Bool
  | .text characters => characters.all isSpace
  | .remark => true
  | _ => false

/-! ## Declared attributes -/

/-- What is declared about an attribute of the elements of one name: whether its values are plain
character data, and the value it has where it is not written. -/
structure AttributeRule where
  element : String
  attributeName : String
  characterData : Bool
  default : Option String
deriving DecidableEq, Repr

/-- What the prolog of a document settles for its content: the rules of attributes, and whether
entities that are not declared make the document invalid. -/
structure ContentRules where
  attributes : List AttributeRule := []
  strict : Bool := true
deriving DecidableEq, Repr

namespace ContentRules

/-- Whether the values of an attribute are plain character data. The first rule decides. -/
def isCharacterData (rules : ContentRules) (element attributeName : String) : Bool :=
  match rules.attributes.find? fun rule =>
      rule.element == element && rule.attributeName == attributeName with
  | some rule => rule.characterData
  | none => true

/-- The attributes of an element with their values: those written, then those that are not written
and have a default. No name may be written twice. -/
def valuesOf (rules : ContentRules) (element : String) (written : List WrittenAttribute) :
    Option (List (String × String)) :=
  let names := written.map (·.name)
  let defaults := rules.attributes.filterMap fun rule =>
    if rule.element == element && !names.contains rule.attributeName then
      rule.default.map fun value => (rule.attributeName, value)
    else none
  let values := written.mapM fun entry =>
    (ValuePart.value rules.strict (rules.isCharacterData element entry.name) entry.value).map
      fun value => (entry.name, value)
  if names.Nodup then values.map (· ++ defaults) else none

end ContentRules

/-! ## Namespaces -/

/-- The namespace of the prefix `xml`. -/
def xmlNamespace : String := "http://www.w3.org/XML/1998/namespace"

/-- The namespace of namespace declarations. -/
def declarationNamespace : String := "http://www.w3.org/2000/xmlns/"

/-- The namespaces of prefixes. The empty prefix has the namespace of names without a prefix. -/
abbrev Scope := Association String String

namespace Scope

/-- The scope around the outermost element. -/
def initial : Scope := [("xml", xmlNamespace)]

/-- A name divided at its first colon, where it has one. -/
def divide (name : String) : Option (String × String) :=
  match name.toList.dropWhile (· != ':') with
  | [] => none
  | _ :: behind => some (String.ofList (name.toList.takeWhile (· != ':')), String.ofList behind)

/-- The prefix that an attribute declares, where it is a namespace declaration. -/
def declaredPrefix? (name : String) : Option String :=
  if name == "xmlns" then some ""
  else
    match divide name with
    | some ("xmlns", declared) => some declared
    | _ => none

/-- Bind a prefix. The prefix `xml` and its namespace belong together, the namespace of
declarations cannot be bound, only the empty prefix can be freed, and a brace that would end the
namespace in an expanded name is refused. -/
def bind (scope : Scope) (declared uri : String) : Option Scope :=
  if uri.isEmpty && !declared.isEmpty then none
  else if declared == "xmlns" || uri == declarationNamespace then none
  else if (declared == "xml") != (uri == xmlNamespace) then none
  else if uri.toList.contains '\x7d' then none
  else some (scope.put declared uri)

/-- The scope inside an element with the given attributes. -/
def within (scope : Scope) : List (String × String) → Option Scope
  | [] => some scope
  | (name, uri) :: rest =>
      match declaredPrefix? name with
      | some declared => (scope.bind declared uri).bind (within · rest)
      | none => within scope rest

/-- The namespace in braces and the local name. -/
def expanded (uri localName : String) : String := "\x7b" ++ uri ++ "\x7d" ++ localName

/-- The expanded name of an element. -/
def elementName (scope : Scope) (name : String) : Option String :=
  match divide name with
  | some (before, localName) => (scope.find? before).map (expanded · localName)
  | none =>
      match scope.find? "" with
      | some uri => some (if uri.isEmpty then name else expanded uri name)
      | none => some name

/-- The expanded name of an attribute. The namespace of names without a prefix is not theirs. -/
def attributeName (scope : Scope) (name : String) : Option String :=
  match divide name with
  | some (before, localName) => (scope.find? before).map (expanded · localName)
  | none => some name

/-- The attributes that are not namespace declarations, by their expanded names, which must
differ. -/
def attributes (scope : Scope) (values : List (String × String)) :
    Option (Association String String) :=
  let proper := values.filter fun entry => (declaredPrefix? entry.1).isNone
  let named := proper.mapM fun entry =>
    (scope.attributeName entry.1).map fun name => (name, entry.2)
  named.bind fun entries => if (entries.map Prod.fst).Nodup then some entries else none

end Scope

namespace WrittenElement

/-- Text that is there only if it holds characters. -/
def textOf (characters : List Char) : Option String :=
  if characters.isEmpty then none else some (String.ofList characters)

mutual

/-- The element with expanded names. -/
def resolve (rules : ContentRules) (scope : Scope) : WrittenElement → Option Element
  | .node name written text children =>
      match rules.valuesOf name written with
      | none => none
      | some values =>
          match scope.within values with
          | none => none
          | some inner =>
              match inner.elementName name, inner.attributes values,
                  resolveAll rules inner children with
              | some tag, some attributes, some resolved =>
                  some (.node tag attributes (textOf text) resolved)
              | _, _, _ => none

/-- The elements of a list with expanded names. -/
def resolveAll (rules : ContentRules) (scope : Scope) : List WrittenElement →
    Option (List Element)
  | [] => some []
  | element :: rest =>
      match element.resolve rules scope, resolveAll rules scope rest with
      | some first, some further => some (first :: further)
      | _, _ => none

end

end WrittenElement

end GeoBridge.Xml
