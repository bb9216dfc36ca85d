import GeoBridge.Text.Blank
import GeoBridge.Text.Uppercase

/-!
Owns the kinds of content a produced file can have, and their names.
-/

namespace GeoBridge

/-- The kind of content of a produced file, which decides how it may be embedded downstream. -/
inductive ContentKind where
  | binary
  | text
  | xml
deriving DecidableEq, Repr

namespace ContentKind

/-- The name of a kind. -/
def name : ContentKind → String
  | .binary => "BINARY"
  | .text => "TEXT"
  | .xml => "XML"

/-- The kind with exactly the given name. -/
def ofName? (name : String) : Option ContentKind :=
  [ContentKind.binary, .text, .xml].find? (·.name == name)

/-- The kind that text names, in any case and between any blanks. -/
def read? (text : String) : Option ContentKind :=
  ofName? (Text.uppercase (Text.trim text))

theorem ofName?_name (kind : ContentKind) : ofName? kind.name = some kind := by
  cases kind <;> rfl

end ContentKind

end GeoBridge
