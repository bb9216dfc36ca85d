import GeoBridge.Configuration.Schema
import GeoBridge.Xml.Document

/-!
Owns the reading of configuration documents.

Owns:
- the dialects: three names for the outermost element, three for a format;
- the passage from elements to the entries that the schema validates, in which a later element
  replaces an earlier one of the same name and keeps its place;
- the reasons for which a document is rejected.
-/

namespace GeoBridge.Configuration

open Validation

/-- Why something is not accepted as a configuration. -/
inductive Rejection where
  | malformed
  | entityDeclared (name : String) (systemId publicId : Option String)
  | unexpectedRoot (tag : String)
  | unexpectedFormat (tag : String)
  | namelessVariable (tag : String)
  | invalid (issues : List Issue)
  | reported (message : String)
deriving DecidableEq, Repr

/-- Why a document yields no configuration: it is rejected, or it cannot be decoded at all. -/
inductive Unreadable where
  | rejected (rejection : Rejection)
  | undecoded (problem : Xml.EncodingProblem)
deriving DecidableEq, Repr

/-- The names of the outermost element, in ascending order. -/
def rootTags : List String := ["GdalConfiguration", "OgrConfiguration", "ToolConfiguration"]

/-- The names of the elements that describe a format. -/
def formatTags : List String := ["Format", "GdalFormat", "OgrFormat"]

/-- The wording of an optional identifier. -/
def shownIdentifier (identifier : Option String) : String :=
  (identifier.map Text.quoted).getD "None"

/-- The wording of a list of findings. -/
def issuesMessage (issues : List Issue) : String :=
  "; ".intercalate (issues.map (·.cause.message))

/-- The wording of a rejection. -/
def Rejection.message : Rejection → String
  | .malformed => "Malformed configuration XML: not well-formed"
  | .entityDeclared name systemId publicId =>
      "Malformed configuration XML: EntitiesForbidden(name='" ++ name ++ "', system_id="
        ++ shownIdentifier systemId ++ ", public_id=" ++ shownIdentifier publicId ++ ")"
  | .unexpectedRoot tag =>
      "Unexpected root element <" ++ tag ++ ">, expected one of " ++ ", ".intercalate rootTags
  | .unexpectedFormat tag => "Unexpected <" ++ tag ++ "> inside <formats>"
  | .namelessVariable tag => "environment <" ++ tag ++ "> entry without a name"
  | .invalid issues => "Invalid tool configuration: " ++ issuesMessage issues
  | .reported message => message

/-- The text of an element without the blanks around it. -/
def trimmedText (element : Xml.Element) : Option String := element.text.map Text.trim

/-- The text of an element as a value, null where it has none. -/
def textPayload (element : Xml.Element) : Payload :=
  match trimmedText element with
  | some text => .text text
  | none => .null

/-- A part of a variable: an attribute, or else the text of a child element. -/
def variablePart (entry : Xml.Element) (name : String) : Option String :=
  match entry.attributes.find? name with
  | some value => some value
  | none => (entry.child? name).bind trimmedText

/-- The variables that elements declare. -/
def environmentOf (gathered : Environment) : List Xml.Element → Except Rejection Environment
  | [] => .ok gathered
  | entry :: rest =>
      match variablePart entry "name" with
      | none | some "" => .error (.namelessVariable entry.tag)
      | some name => environmentOf (gathered.put name ((variablePart entry "value").getD "")) rest

/-- An environment as a value. -/
def environmentPayload (environment : Environment) : Payload :=
  .mapping (environment.map fun (name, value) => (name, .text value))

/-- The options that an element of a format gives: itself, or the ones it wraps. -/
def optionsOf (element : Xml.Element) : List String :=
  if element.tag == "option" then [(trimmedText element).getD ""]
  else if element.tag == "options" then
    (element.children.filter (·.tag == "option")).map fun item => (trimmedText item).getD ""
  else []

/-- Whether an element of a format gives options. -/
def givesOptions (element : Xml.Element) : Bool :=
  element.tag == "option" || element.tag == "options"

/-- The entries of a format. -/
def formatPayload (element : Xml.Element) : Payload :=
  let plain := element.children.filter (!givesOptions ·)
  let entries := Association.ofEntries (plain.map fun child => (child.tag, textPayload child))
  let options := element.children.flatMap optionsOf
  .mapping (Association.put entries "options" (.list (options.map .text)))

/-- The formats that elements describe. -/
def formatsOf : List Xml.Element → Except Rejection (List Payload)
  | [] => .ok []
  | element :: rest =>
      if formatTags.contains element.tag then
        (formatsOf rest).map (formatPayload element :: ·)
      else .error (.unexpectedFormat element.tag)

/-- Gather the entries of a configuration and its formats from the children of the outermost
element. -/
def gather (entries : Association String Payload) (formats : List Payload) :
    List Xml.Element → Except Rejection (Association String Payload × List Payload)
  | [] => .ok (entries, formats)
  | child :: rest =>
      if child.tag == "environment" then
        match environmentOf [] child.children with
        | .error rejection => .error rejection
        | .ok environment =>
            gather (entries.put "environment" (environmentPayload environment)) formats rest
      else if child.tag == "formats" then
        match formatsOf child.children with
        | .error rejection => .error rejection
        | .ok further => gather entries (formats ++ further) rest
      else gather (entries.put child.tag (textPayload child)) formats rest

/-- The value that an element describes. -/
def payloadOf (root : Xml.Element) : Except Rejection Payload :=
  if rootTags.contains root.tag then
    (gather [] [] root.children).map fun (entries, formats) =>
      .mapping (Association.put entries "formats" (.list formats))
  else .error (.unexpectedRoot root.tag)

/-- The configuration that an element describes. -/
def ofElement (root : Xml.Element) : Except Rejection Configuration :=
  match payloadOf root with
  | .error rejection => .error rejection
  | .ok payload =>
      match Schema.configuration payload with
      | .valid configuration => .ok configuration
      | .invalid issues => .error (.invalid issues)

/-- The configuration that a document describes. -/
def read (document : Xml.Document) : Except Unreadable Configuration :=
  match document.read with
  | .error .malformed => .error (.rejected .malformed)
  | .error (.entityDeclared name systemId publicId) =>
      .error (.rejected (.entityDeclared name systemId publicId))
  | .error (.encoding problem) => .error (.undecoded problem)
  | .ok root =>
      match ofElement root with
      | .ok configuration => .ok configuration
      | .error rejection => .error (.rejected rejection)

end GeoBridge.Configuration
