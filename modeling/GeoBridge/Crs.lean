import GeoBridge.Crs.WellKnownText
import GeoBridge.Failure

/-!
Owns the coordinate systems that callers name, and their well-known text.

Owns:
- libraries of coordinate systems;
- the ways in which a coordinate system is given;
- the text of a given system, or the reason why it has none.
-/

namespace GeoBridge

open Text (WideText)

/-- The forms in which the text of a system is told: the old one, which every tool reads, and the
current one, which expresses more. -/
inductive TextForm where
  | old
  | current
deriving DecidableEq, Repr

/-- A library of coordinate systems: the systems that numbers and texts name, how each is shown, and
the text of each in either form, which may be missing or empty. Failures are told with a reason. -/
structure CrsLibrary where
  ofNumber : Int → Except String Nat
  ofText : String → Except String Nat
  shown : Nat → String
  textIn : TextForm → Nat → Except String (Option String)

/-- The text of a system in the old form or else, where that says nothing, in the current one. -/
def CrsLibrary.textOf (library : CrsLibrary) (system : Nat) : Except String (Option String) :=
  match library.textIn .old system with
  | .ok (some text) => if text.isEmpty then library.textIn .current system else .ok (some text)
  | .ok none => library.textIn .current system
  | .error reason => .error reason

/-- The answer of a custom coordinate system that is asked for its text. -/
inductive CrsAnswer where
  | text (content : WideText)
  | value (payload : Payload)

/-- A coordinate system as callers give it: by a number, a truth value, which counts as a number, or
a text; as a system that is already known; as a custom one that shows and describes itself; or as
something that cannot describe itself at all. -/
inductive Crs where
  | integer (value : Int)
  | truth (value : Bool)
  | text (content : String)
  | known (code : Nat)
  | custom (shown : String) (answer : CrsAnswer)
  | other (payload : Payload)

namespace Payload

/-- The kind of a value. -/
def kindName : Payload → String
  | .null => "NoneType"
  | .truth _ => "bool"
  | .integer _ => "int"
  | .real _ => "float"
  | .text _ => "str"
  | .list _ => "list"
  | .mapping _ => "dict"

/-- Whether a value counts as nothing. -/
def isNothing : Payload → Bool
  | .null => true
  | .truth value => !value
  | .integer value => value == 0
  | .real value => value.significand == 0 && value.isFinite
  | .text value => value.isEmpty
  | .list items => items.isEmpty
  | .mapping entries => entries.isEmpty

end Payload

/-- The answer of a library that is asked for the text of a system. -/
def CrsAnswer.ofTold : Option String → CrsAnswer
  | some content => .text (.ofString content)
  | none => .value .null

namespace Crs

/-- The text of a truth value. -/
def truthText (value : Bool) : String := if value then "True" else "False"

/-- The description of a system that a user named. -/
def ofInput (library : CrsLibrary) (shown : String) (found : Except String Nat) :
    Except Failure (String × CrsAnswer) :=
  match found.bind library.textOf with
  | .ok told => .ok (shown, .ofTold told)
  | .error reason => .error (.crs (.invalid shown reason))

/-- How a coordinate system is shown, and its answer when it is asked for its text. Only systems
that a user named fail with an account of the input. -/
def description (library : CrsLibrary) : Crs → Except Failure (String × CrsAnswer)
  | .integer value => ofInput library (toString value) (library.ofNumber value)
  | .truth value => ofInput library (truthText value) (library.ofNumber (if value then 1 else 0))
  | .text content => ofInput library (Text.quoted content) (library.ofText content)
  | .known system =>
      match library.textOf system with
      | .ok told => .ok (library.shown system, .ofTold told)
      | .error reason => .error (.geodesy reason)
  | .custom shown answer => .ok (shown, answer)
  | .other payload => .error (.lacksOperation payload.kindName "to_wkt")

/-- The normalized text of an answer that is a text and not empty. -/
def serialize (shown : String) : CrsAnswer → Except Failure WideText
  | .text content =>
      if content.isEmpty then .error (.crs (.noText shown)) else .ok (normalize content)
  | .value payload =>
      if payload.isNothing then .error (.crs (.noText shown))
      else .error (.notText payload.kindName)

/-- The normalized text of a coordinate system, given a library. -/
def wellKnownTextIn (library : CrsLibrary) (crs : Crs) : Except Failure WideText :=
  (crs.description library).bind fun (shown, answer) => serialize shown answer

end Crs

end GeoBridge
