import GeoBridge.Configuration
import GeoBridge.Path

/-!
Owns the descriptions of produced files, by which a service downstream embeds them.

Owns:
- the mime type and the extension of a response, in which formats of several files are zipped;
- outputs tagged with the kind of their content.
-/

namespace GeoBridge

/-- A produced or described output. Text carries its encoding. -/
inductive Output where
  | binary (formatName mimeType : String) (path : Option Path)
  | text (formatName mimeType : String) (path : Option Path) (encoding : String)
  | xml (formatName mimeType : String) (path : Option Path)
deriving DecidableEq, Repr

/-- The mime type of XML documents. -/
def xmlMimeType : String := "text/xml"

/-- The mime type of opaque octets. -/
def octetStream : String := "application/octet-stream"

/-- The mime type of zipped files. -/
def zipMimeType : String := "application/zip"

/-- The mime type of a response in a format. -/
def Format.responseMimeType (format : Format) : Option String :=
  if format.singleFile then format.mimeType else some zipMimeType

/-- The mime type under which a response in a format is served. Without any, or with an empty one,
it is that of opaque octets. -/
def Format.servedMimeType (format : Format) : String :=
  match format.responseMimeType with
  | some mimeType => if mimeType.isEmpty then octetStream else mimeType
  | none => octetStream

/-- The extension of a response in a format, without dots before it. -/
def Format.responseExtension (format : Format) : Option String :=
  if format.singleFile then
    format.extension.map fun extension =>
      String.ofList (extension.toList.dropWhile (· == '.'))
  else some "zip"

/-- A mime type qualified with the name of a format. -/
def qualifiedMimeType (mimeType formatName : String) : String :=
  if formatName.isEmpty then mimeType else mimeType ++ "; subtype=" ++ formatName

namespace Output

/-- The output of a format. -/
def ofFormat (format : Format) (mimeType : String) (path : Option Path) : Output :=
  match format.kind with
  | .binary => .binary format.publicName mimeType path
  | .text => .text format.publicName mimeType path "utf-8"
  | .xml => .xml format.publicName mimeType path

/-- The kind of content. -/
def kind : Output → ContentKind
  | .binary _ _ _ => .binary
  | .text _ _ _ _ => .text
  | .xml _ _ _ => .xml

/-- The public name of the format. -/
def formatName : Output → String
  | .binary name _ _ | .text name _ _ _ | .xml name _ _ => name

/-- The mime type. -/
def mimeType : Output → String
  | .binary _ mimeType _ | .text _ mimeType _ _ | .xml _ mimeType _ => mimeType

/-- The produced file. -/
def path : Output → Option Path
  | .binary _ _ path | .text _ _ path _ | .xml _ _ path => path

/-- The output produced in a format at a path. -/
def produced (format : Format) (path : Path) : Output :=
  ofFormat format format.servedMimeType (some path)

/-- The mime type under which a format is described, before it is qualified. -/
def describedMimeType (format : Format) : String :=
  if format.kind = .xml then xmlMimeType else format.servedMimeType

/-- The description of a format before anything is produced. -/
def described (format : Format) : Output :=
  ofFormat format (qualifiedMimeType (describedMimeType format) format.publicName) none

end Output

end GeoBridge
