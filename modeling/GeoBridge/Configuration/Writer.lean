import GeoBridge.Configuration
import GeoBridge.Xml.Writer

/-!
Owns the written form of configurations, which the reader of documents accepts.
-/

namespace GeoBridge

open Xml (Markup)

/-- An element that holds text. -/
def textElement (tag text : String) : Markup := .leaf tag [] text

/-- An element for text that may be absent. -/
def optionalElement (tag : String) (text : Option String) : List Markup :=
  (text.map (textElement tag)).toList

/-- The word for a truth value. -/
def truthWord (value : Bool) : String := if value then "true" else "false"

/-- The element of a format. -/
def Format.markup (format : Format) : Markup :=
  .branch "Format"
    ([textElement "toolFormat" format.toolCode, textElement "geoserverFormat" format.publicName]
      ++ optionalElement "fileExtension" format.extension
      ++ [textElement "singleFile" (truthWord format.singleFile)]
      ++ optionalElement "mimeType" format.mimeType
      ++ [textElement "type" format.kind.name]
      ++ format.options.map (textElement "option"))

/-- The element of an environment, where there is anything in it. -/
def environmentMarkup (environment : Environment) : List Markup :=
  if environment.isEmpty then []
  else
    [.branch "environment"
      (environment.map fun (name, value) => .leaf "variable" [("name", name), ("value", value)] "")]

/-- The element of a configuration. -/
def Configuration.markup (configuration : Configuration) : Markup :=
  .branch "ToolConfiguration"
    ([textElement "executable" configuration.executable]
      ++ optionalElement "dataPath" configuration.dataPath
      ++ environmentMarkup configuration.environment
      ++ [.branch "formats" (configuration.formats.map Format.markup)])

/-- The document of a configuration. -/
def Configuration.write (configuration : Configuration) : String :=
  String.ofList (configuration.markup.write 0 ++ ['\n'])

end GeoBridge
