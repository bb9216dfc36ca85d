import GeoBridge.Decimal.Shortest
import GeoBridge.Text.Quoted

/-!
Owns the loosely typed values from which configurations are built.

Owns:
- the values themselves: nothing, truth values, numbers, text, lists and mappings;
- the text of a value, in which text alone stands for itself, and the form in which a value is
  shown inside another.
-/

namespace GeoBridge

/-- A value as it comes from outside, before validation. -/
inductive Payload where
  | null
  | truth (value : Bool)
  | integer (value : Int)
  | real (value : Decimal.Binary64)
  | text (value : String)
  | list (items : List Payload)
  | mapping (entries : List (String × Payload))

namespace Payload

mutual

/-- The form in which a value is shown: text is quoted. -/
def shown : Payload → String
  | .null => "None"
  | .truth value => if value then "True" else "False"
  | .integer value => toString value
  | .real value => value.text
  | .text value => Text.quoted value
  | .list items => "[" ++ ", ".intercalate (shownItems items) ++ "]"
  | .mapping entries => "\x7b" ++ ", ".intercalate (shownEntries entries) ++ "\x7d"

/-- The shown forms of the items of a list. -/
def shownItems : List Payload → List String
  | [] => []
  | item :: rest => item.shown :: shownItems rest

/-- The shown forms of the entries of a mapping. -/
def shownEntries : List (String × Payload) → List String
  | [] => []
  | (key, value) :: rest => (Text.quoted key ++ ": " ++ value.shown) :: shownEntries rest

end

/-- The text of a value: text stands for itself, everything else for its shown form. -/
def asText : Payload → String
  | .text value => value
  | value => value.shown

/-- The text of the arguments that something was raised with. -/
def argumentsText : List Payload → String
  | [] => ""
  | [single] => single.asText
  | several => "(" ++ ", ".intercalate (several.map shown) ++ ")"

end Payload

end GeoBridge
