import GeoBridge.Shell.Number
import GeoBridge.Shell.PathPattern

/-!
Owns the expansion of words to fields.

Owns:
- the gathering of fields, which the separators in unquoted values divide;
- the values of parameters and of arithmetic, and the output of scripts inside of words;
- the texts and patterns that words stand for where nothing is divided.
-/

namespace GeoBridge.Shell

/-- The fields that are complete, last first, and the one under way with its glyphs last first, if
there is any. A mark behind blanks that ended a field belongs to them. -/
structure Fields where
  complete : List (List Glyph) := []
  current : Option (List Glyph) := none
  afterBlank : Bool := false
deriving DecidableEq, Repr

namespace Fields

/-- Add glyphs to the field under way. -/
def add (fields : Fields) (glyphs : List Glyph) : Fields :=
  { fields with
    current := some (glyphs.foldl (fun kept glyph => glyph :: kept) (fields.current.getD []))
    afterBlank := false }

/-- Complete the field under way. -/
def finish (fields : Fields) : Fields :=
  match fields.current with
  | some glyphs => { complete := glyphs.reverse :: fields.complete }
  | none => fields

/-- Add a character of an unquoted value, which may divide fields. -/
def addDividing (separators : Separators) (fields : Fields) (character : Char) : Fields :=
  if separators.blanks.contains character then
    if fields.current.isSome then { fields.finish with afterBlank := true } else fields
  else if separators.marks.contains character then
    if fields.current.isSome then fields.finish
    else if fields.afterBlank then { fields with afterBlank := false }
    else { fields with complete := [] :: fields.complete }
  else fields.add [⟨character, false⟩]

/-- All fields. -/
def toList (fields : Fields) : List (List Glyph) := fields.finish.complete.reverse

end Fields

/-- How words are expanded: for which line, whether unquoted values are divided, whether what they
are written with is divided too, and how the scripts inside of them are carried out. -/
structure Expander where
  line : Nat
  divides : Bool := true
  dividesPlain : Bool := false
  runScript : (line : Nat) → List Char → Run (List UInt8)

namespace Expander

/-- The text of what a script inside of a word has written, without the line breaks at its end.
Null characters vanish. -/
def outputText (octets : List UInt8) : List Char :=
  (((octets.filter (· != 0)).reverse.dropWhile (· == 10)).reverse).map
    fun octet => Char.ofNat octet.toNat

/-- Add a value. -/
def addValue (expander : Expander) (separators : Separators) (isQuoted : Bool)
    (characters : List Char) (fields : Fields) : Fields :=
  if isQuoted then fields.add (Glyph.ofCharacters true characters)
  else if expander.divides then characters.foldl (Fields.addDividing separators) fields
  else fields.add (Glyph.ofCharacters false characters)

/-- Add parameters, each of which is a field of its own. -/
def addParameters (expander : Expander) (separators : Separators) (isQuoted : Bool) :
    List String → Fields → Fields
  | [], fields => fields
  | [last], fields => expander.addValue separators isQuoted last.toList fields
  | parameter :: rest, fields =>
      addParameters expander separators isQuoted rest
        (expander.addValue separators isQuoted parameter.toList fields).finish

/-- Add the value of a parameter. All parameters are taken together where nothing is divided, or
where their quotes join them. -/
def addParameter (expander : Expander) (state : State) (name : String) (isQuoted : Bool)
    (fields : Fields) : Fields :=
  let separators := state.separators
  let isMany := name == "@" || name == "*"
  if isMany && expander.divides && !(isQuoted && name == "*") then
    expander.addParameters separators isQuoted state.parameters fields
  else if isMany then
    expander.addValue separators isQuoted (state.joint.intercalate state.parameters).toList fields
  else
    expander.addValue separators isQuoted ((state.parameter? name).getD "").toList fields

/-- The value of an arithmetic expression. -/
def calculate (line : Nat) (expression : List Char) : Run Int := do
  let state ← get
  match Expression.calculate state.parameter? expression with
  | .error fault => Run.giveUp line (fault.message (String.ofList expression))
  | .ok (value, assigned) => do
      assigned.forM fun (name, made) => Run.assign line "" name (toString made)
      pure value

/-- The home directory of the user of the given name, who is the one at hand where it is empty. -/
def homeOf? (state : State) (name : String) : Option String :=
  match name with
  | "" => state.bindings.find? "HOME"
  | "root" => some "/root"
  | _ => none

/-- The plain characters at the front of a word that can stand in the name of a user. -/
def userName (word : Word) : List Char :=
  (word.takeWhile fun piece => match piece with
    | .plain character => character != '/' && character != ':'
    | _ => false).flatMap fun piece => match piece with
      | .plain character => [character]
      | _ => []

/-- A word in which a tilde at the front stands, with the name of a user behind it, for a home
directory. In assignments a tilde behind a colon does too. -/
def withHome (state : State) (inAssignment : Bool) : (atStart : Bool) → Word → Word
  | _, [] => []
  | true, .plain '~' :: rest =>
      let name := userName rest
      let isWhole := match rest.drop name.length with
        | [] | .plain '/' :: _ => true
        | .plain ':' :: _ => inAssignment
        | _ => false
      let further := withHome state inAssignment false rest
      match if isWhole then homeOf? state (String.ofList name) else none with
      | some home => .quoted home.toList :: further.drop name.length
      | none => .plain '~' :: further
  | _, .plain ':' :: rest => .plain ':' :: withHome state inAssignment inAssignment rest
  | _, piece :: rest => piece :: withHome state inAssignment false rest

/-- The word with its home directories, as far as they are known. -/
def homely (inAssignment : Bool) (word : Word) : Run Word := do
  pure (withHome (← get) inAssignment true word)

/-- The length of a parameter, or the number of all. -/
def lengthOf (state : State) (name : String) : Nat :=
  if name == "@" || name == "*" then state.parameters.length
  else ((state.parameter? name).getD "").length

/-- Refuse a parameter without a value where every parameter has to have one. -/
def requireValue (line : Nat) (name : String) : Run Unit := do
  let state ← get
  if state.hasFlag 'u' && name != "@" && name != "*" && (state.parameter? name).isNone then
    Run.giveUp line (name ++ ": parameter not set")

/-- Add the pieces of a word. What stands in for a parameter is divided like a value. -/
def addPieces (expander : Expander) : (fuel : Nat) → Word → Fields → Run Fields
  | 0, _, fields | _, [], fields => pure fields
  | fuel + 1, .plain character :: rest, fields => do
      let state ← get
      addPieces expander fuel rest
        (if expander.dividesPlain then
          expander.addValue state.separators false [character] fields
        else fields.add [⟨character, false⟩])
  | fuel + 1, .quoted text :: rest, fields =>
      addPieces expander fuel rest (fields.add (Glyph.ofCharacters true text))
  | fuel + 1, .output line script isQuoted :: rest, fields => do
      let octets ← expander.runScript (line.getD 1) script
      let state ← get
      addPieces expander fuel rest
        (expander.addValue state.separators isQuoted (outputText octets) fields)
  | fuel + 1, .arithmetic expression isQuoted :: rest, fields => do
      let inside ← addPieces { expander with divides := false } fuel
        (piecesOf .document expander.line expression) {}
      let value ← calculate expander.line (inside.toList.flatten.map Glyph.character)
      let state ← get
      addPieces expander fuel rest
        (expander.addValue state.separators isQuoted (toString value).toList fields)
  | fuel + 1, .parameter name taken isQuoted :: rest, fields => do
      let state ← get
      let value := state.parameter? name
      let whole := addPieces { expander with divides := false } fuel
      match taken with
      | .plain => do
          requireValue expander.line name
          addPieces expander fuel rest (expander.addParameter state name isQuoted fields)
      | .length => do
          requireValue expander.line name
          addPieces expander fuel rest
            (expander.addValue state.separators isQuoted
              (toString (lengthOf state name)).toList fields)
      | .trimmed atEnd longest pattern => do
          requireValue expander.line name
          let inside ← whole (piecesOf (.braces false) expander.line pattern) {}
          let cut := (Pattern.ofGlyphs inside.toList.flatten).cutOff atEnd longest
            (value.getD "").toList
          addPieces expander fuel rest (expander.addValue state.separators isQuoted cut fields)
      | .alternative kind orEmpty text => do
          let counts := value.any fun found => !(orEmpty && found.isEmpty)
          let alternative ← homely false (piecesOf (.braces isQuoted) expander.line text)
          match kind, counts with
          | .replacement, true | .fallback, false => do
              let divided ← addPieces { expander with dividesPlain := true } fuel alternative fields
              addPieces expander fuel rest divided
          | .replacement, false => addPieces expander fuel rest fields
          | .complaint, false => do
              let inside ← whole alternative {}
              let given := Glyph.text inside.toList.flatten
              let message :=
                if !given.isEmpty then given
                else if orEmpty then "parameter not set or null" else "parameter not set"
              Run.giveUp expander.line (name ++ ": " ++ message)
          | .assignment, false => do
              let inside ← whole alternative {}
              let given := Glyph.text inside.toList.flatten
              if !isName name.toList then
                Run.giveUp expander.line (name ++ ": bad variable name")
              Run.assign expander.line "" name given
              addPieces expander fuel rest
                (expander.addValue state.separators isQuoted given.toList fields)
          | _, true =>
              addPieces expander fuel rest (expander.addParameter state name isQuoted fields)
      | .unknown => Run.giveUp expander.line "Bad substitution"

/-- The pieces that a word can expand to at most, with those of the alternatives inside of it. -/
def pieceLimit : Nat := 10000000

/-- The fields of words, in which patterns stand for the paths that match them. -/
def fieldsOf (expander : Expander) (words : List Word) : Run (List String) := do
  let mut gathered : List (List String) := []
  for word in words do
    let fields ← expander.addPieces pieceLimit (← homely false word) {}
    let state ← get
    let paths := fields.toList.flatMap fun glyphs =>
      if state.hasFlag 'f' then [Glyph.text glyphs] else pathsOf state.workspace glyphs
    gathered := paths :: gathered
  pure gathered.reverse.flatten

/-- The glyphs of a word of which nothing is divided. -/
def glyphsOf (expander : Expander) (inAssignment : Bool) (word : Word) : Run (List Glyph) := do
  let fields ← { expander with divides := false }.addPieces pieceLimit
    (← homely inAssignment word) {}
  pure fields.toList.flatten

/-- The text of a word of which nothing is divided. -/
def textOf (expander : Expander) (inAssignment : Bool) (word : Word) : Run String := do
  pure (Glyph.text (← expander.glyphsOf inAssignment word))

end Expander

end GeoBridge.Shell
