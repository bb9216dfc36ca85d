/-!
Owns the writing of documents: elements either hold text or other elements, each on a line of its
own, two columns further in than the element around it.
-/

namespace GeoBridge.Xml

/-- An element to be written. -/
inductive Markup where
  | leaf (tag : String) (attributes : List (String × String)) (text : String)
  | branch (tag : String) (children : List Markup)

namespace Markup

/-- A character of text. -/
def escapedText (character : Char) : List Char :=
  match character with
  | '&' => "&amp;".toList
  | '<' => "&lt;".toList
  | '>' => "&gt;".toList
  | other => [other]

/-- A character of an attribute value. White space other than the space is written by number, so
that it is not read as a space. -/
def escapedValue (character : Char) : List Char :=
  match character with
  | '"' => "&quot;".toList
  | '\r' => "&#13;".toList
  | '\n' => "&#10;".toList
  | '\t' => "&#09;".toList
  | other => escapedText other

/-- An attribute after the space before it. -/
def writeAttribute (entry : String × String) : List Char :=
  ' ' :: entry.1.toList ++ ['=', '"'] ++ entry.2.toList.flatMap escapedValue ++ ['"']

/-- A line end and the space before an element at a depth. -/
def lineBreak (depth : Nat) : List Char := '\n' :: List.replicate (2 * depth) ' '

/-- An end tag. -/
def endTag (tag : String) : List Char := ['<', '/'] ++ tag.toList ++ ['>']

mutual

/-- An element at a depth. One without content closes itself. -/
def write (depth : Nat) : Markup → List Char
  | .leaf tag attributes text =>
      let start := '<' :: tag.toList ++ attributes.flatMap writeAttribute
      if text.isEmpty then start ++ [' ', '/', '>']
      else start ++ ['>'] ++ text.toList.flatMap escapedText ++ endTag tag
  | .branch tag children =>
      let start := '<' :: tag.toList
      if children.isEmpty then start ++ [' ', '/', '>']
      else start ++ ['>'] ++ writeAll (depth + 1) children ++ lineBreak depth ++ endTag tag

/-- The elements inside another, each on its own line. -/
def writeAll (depth : Nat) : List Markup → List Char
  | [] => []
  | child :: rest => lineBreak depth ++ child.write depth ++ writeAll depth rest

end

end Markup

end GeoBridge.Xml
