/-!
Owns the findings of a validation and the gathering of them over several checks.

Owns:
- the places and the causes of findings, and their wording;
- checked values, which are either valid or carry every finding of the parts they were built from.
-/

namespace GeoBridge.Validation

/-- One step from a value to a part of it. -/
inductive Step where
  | key (name : String)
  | index (position : Nat)
deriving DecidableEq, Repr

/-- Rules that go beyond the type of a value. -/
inductive Rule where
  | blankFormatName
  | blankExecutable
  | environmentNotMapping
  | repeatedPublicName (name : String)
deriving DecidableEq, Repr

/-- What is wrong with a value. -/
inductive Cause where
  | missing
  | unknownKey
  | notText
  | notTruth
  | unreadableTruth
  | notContentKind
  | notList
  | notRecord (noun : String)
  | broken (rule : Rule)
deriving DecidableEq, Repr

/-- The wording of a rule that was broken. -/
def Rule.message : Rule → String
  | .blankFormatName => "format names cannot be blank."
  | .blankExecutable => "executable cannot be blank."
  | .environmentNotMapping => "environment must be a mapping."
  | .repeatedPublicName name => "duplicate public format name '" ++ name ++ "'."

/-- The code of a cause. -/
def Cause.code : Cause → String
  | .missing => "missing"
  | .unknownKey => "extra_forbidden"
  | .notText => "string_type"
  | .notTruth => "bool_type"
  | .unreadableTruth => "bool_parsing"
  | .notContentKind => "enum"
  | .notList => "tuple_type"
  | .notRecord _ => "model_type"
  | .broken _ => "value_error"

/-- The wording of a cause. -/
def Cause.message : Cause → String
  | .missing => "Field required"
  | .unknownKey => "Extra inputs are not permitted"
  | .notText => "Input should be a valid string"
  | .notTruth => "Input should be a valid boolean"
  | .unreadableTruth => "Input should be a valid boolean, unable to interpret input"
  | .notContentKind => "Input should be 'BINARY', 'TEXT' or 'XML'"
  | .notList => "Input should be a valid tuple"
  | .notRecord noun => "Input should be a valid dictionary or instance of " ++ noun
  | .broken rule => "Value error, " ++ rule.message

/-- One finding: where it is, and what is wrong there. -/
structure Issue where
  location : List Step
  cause : Cause
deriving DecidableEq, Repr

/-- A value that passed its checks, or the findings of all checks that failed. -/
inductive Checked (α : Type) where
  | valid (value : α)
  | invalid (issues : List Issue)
deriving DecidableEq, Repr

namespace Checked

variable {α β : Type}

/-- The findings, none for a valid value. -/
def issues : Checked α → List Issue
  | .valid _ => []
  | .invalid issues => issues

/-- The valid value. -/
def value? : Checked α → Option α
  | .valid value => some value
  | .invalid _ => none

/-- A checked value with a function applied to it. -/
def map (transform : α → β) : Checked α → Checked β
  | .valid value => .valid (transform value)
  | .invalid issues => .invalid issues

/-- A checked function applied to a checked value. The findings of both are kept, in this order. -/
def apply : Checked (α → β) → Checked α → Checked β
  | .valid transform, .valid value => .valid (transform value)
  | .valid _, .invalid issues => .invalid issues
  | .invalid issues, .valid _ => .invalid issues
  | .invalid issues, .invalid further => .invalid (issues ++ further)

instance : Applicative Checked where
  pure := .valid
  seq checked following := checked.apply (following ())

/-- All items of a list, checked one by one. -/
def all : List (Checked α) → Checked (List α)
  | [] => .valid []
  | item :: rest => ((item.map List.cons).apply (all rest))

/-- Move the findings to a part of a larger value. -/
def within (step : Step) : Checked α → Checked α
  | .valid value => .valid value
  | .invalid issues =>
      .invalid (issues.map fun issue => { issue with location := step :: issue.location })

/-- A single finding at the value itself. -/
def refuse (cause : Cause) : Checked α := .invalid [⟨[], cause⟩]

end Checked

end GeoBridge.Validation
