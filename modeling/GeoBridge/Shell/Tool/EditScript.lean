import GeoBridge.Shell.Regular

/-!
Owns the scripts by which lines are edited, and their reading.

Owns:
- addresses of lines: numbers, the last line, and expressions that lines match;
- the commands: the replacement of what an expression matches, and the printing and deletion of
  lines;
- the reading of a script, whose faults are told with the number of characters read.
-/

namespace GeoBridge.Shell

/-- An address of lines. The empty expression stands for the one used last. -/
inductive EditAddress where
  | line (number : Nat)
  | last
  | matching (expression : Option Regular) (foldsCase : Bool)
deriving DecidableEq, Repr

/-- The lines that a command concerns: all, those of an address, or ranges of them. -/
inductive EditLines where
  | all
  | one (address : EditAddress)
  | range (first last : EditAddress)
deriving DecidableEq, Repr

/-- A piece of a replacement: a character, or a group of the match, of which zero is the whole of
it. -/
inductive ReplacementPiece where
  | character (character : Char)
  | group (number : Nat)
deriving DecidableEq, Repr

/-- A replacement: the expression, what takes the place of its matches, the number of the first
match that is replaced, whether all further ones are, and whether the line is printed then. -/
structure Substitution where
  expression : Option Regular
  foldsCase : Bool := false
  pieces : List ReplacementPiece
  number : Nat := 1
  isGlobal : Bool := false
  prints : Bool := false
deriving DecidableEq, Repr

/-- A command. -/
inductive EditCommand where
  | delete
  | print
  | quit
  | substitute (substitution : Substitution)
deriving DecidableEq, Repr

/-- A command with the lines it concerns. -/
structure EditStep where
  lines : EditLines := .all
  isNegated : Bool := false
  command : EditCommand
deriving DecidableEq, Repr

namespace EditScript

/-- The reading of a script: from characters to a value and what comes behind it, or to a fault and
what is left where it was found. -/
abbrev Reader (α : Type) := StateT (List Char) (Except (String × Nat)) α

/-- Refuse what was read so far. -/
def refuse {α : Type} (text : String) : Reader α := fun rest => .error (text, rest.length)

/-- The next character, which is used up. -/
def next? : Reader (Option Char) := fun characters =>
  match characters with
  | [] => .ok (none, [])
  | character :: rest => .ok (some character, rest)

/-- Use up characters for which a condition holds. -/
def takeWhile (holds : Char → Bool) : Reader (List Char) := fun characters =>
  .ok (characters.takeWhile holds, characters.dropWhile holds)

/-- The number that comes next. -/
def number? : Reader (Option Nat) := do
  let digits ← takeWhile Char.isDigit
  pure (String.toNat? (String.ofList digits))

/-- Whether a character is a blank. -/
def isBlank (character : Char) : Bool := character == ' ' || character == '\t'

/-- The text up to a delimiter. A backslash before the delimiter vanishes, and the delimiter counts
for nothing inside of brackets where expressions are read. -/
def delimited? (delimiter : Char) (isExpression : Bool) : (inBrackets : Bool) → List Char →
    List Char → Option (List Char × List Char)
  | _, _, [] => none
  | inBrackets, read, '\\' :: character :: rest =>
      let kept :=
        if character == delimiter && character != '\\' then [character]
        else if character == '\n' && isExpression then ['n', '\\']
        else [character, '\\']
      delimited? delimiter isExpression inBrackets (kept ++ read) rest
  | inBrackets, read, character :: rest =>
      if character == delimiter && !inBrackets then some (read.reverse, rest)
      else if !isExpression then delimited? delimiter isExpression false (character :: read) rest
      else if character == '[' && !inBrackets then
        delimited? delimiter isExpression (rest.contains ']') (character :: read) rest
      else if character == ']' && inBrackets then
        let isMember := read.head? == some '[' || (read.take 2 == ['^', '['])
        delimited? delimiter isExpression isMember (character :: read) rest
      else delimited? delimiter isExpression inBrackets (character :: read) rest

/-- Read the text up to a delimiter. -/
def readDelimited (delimiter : Char) (isExpression : Bool) (fault : String) :
    Reader (List Char) := fun characters =>
  match delimited? delimiter isExpression false [] characters with
  | some (text, rest) => .ok (text, rest)
  | none => .error (fault, 0)

/-- The expression that a text spells, with the number of its groups. None is spelled by an empty
text. -/
def expressionOf (written : Regular.Notation) (text : List Char) :
    Reader (Option Regular × Nat) := do
  if text.isEmpty then pure (none, 9)
  else
    match Regular.ofCharacters? written text with
    | some (expression, groups) => pure (some expression, groups)
    | none =>
        refuse (if text.contains '(' then "Unmatched ( or \\("
          else "Invalid preceding regular expression")

/-- Read the address that comes next, if there is one. -/
def address? (written : Regular.Notation) : Reader (Option EditAddress) := do
  match (← get).head? with
  | some '$' => do
      let _ ← next?
      pure (some .last)
  | some '/' => do
      let _ ← next?
      matching '/'
  | _ =>
      let number ← number?
      pure (number.map .line)
where
  /-- Read the expression before a delimiter, and the letters behind it. -/
  matching (delimiter : Char) : Reader (Option EditAddress) := do
    let text ← readDelimited delimiter true "unterminated address regex"
    let (expression, _) ← expressionOf written text
    let letters ← takeWhile fun character => character == 'I' || character == 'M'
    pure (some (.matching expression (letters.contains 'I')))

/-- Read the lines that a command concerns. -/
def readLines (written : Regular.Notation) : Reader EditLines := do
  match ← address? written with
  | none => pure .all
  | some first => do
      let _ ← takeWhile isBlank
      if (← get).head? != some ',' then pure (.one first)
      else
        let _ ← next?
        let _ ← takeWhile isBlank
        match ← address? written with
        | some last => pure (.range first last)
        | none => do
            let _ ← next?
            refuse "unexpected `,'"

/-- The pieces of a replacement. -/
def replacementPieces : List Char → List ReplacementPiece
  | '\\' :: character :: rest =>
      (match character with
        | 'n' => .character '\n'
        | 't' => .character '\t'
        | other => if other.isDigit then .group (other.toNat - 48) else .character other)
        :: replacementPieces rest
  | '&' :: rest => .group 0 :: replacementPieces rest
  | character :: rest => .character character :: replacementPieces rest
  | [] => []

/-- Whether a character ends a command. -/
def endsCommand (character : Char) : Bool := "\n;#".toList.contains character

/-- Read the end of a command. -/
def readEnd : Reader Unit := do
  let _ ← takeWhile fun character => isBlank character || character == '\r'
  match (← get).head? with
  | none => pure ()
  | some character =>
      if endsCommand character then
        if character == ';' || character == '\n' then
          let _ ← next?
      else
        let _ ← next?
        refuse "extra characters after command"

/-- Read a substitution. -/
def readSubstitution (written : Regular.Notation) : Reader EditCommand := do
  let fault := "unterminated `s' command"
  match ← next? with
  | none => refuse fault
  | some delimiter => do
      let text ← readDelimited delimiter true fault
      let replacement ← readDelimited delimiter false fault
      let letters ← takeWhile fun character => character.isAlphanum
      let digits := letters.filter Char.isDigit
      match (letters.filter (!·.isDigit)).find? fun letter => !"gpiIm".toList.contains letter with
      | some _ => refuse "unknown option to `s'"
      | none => do
          readEnd
          let (expression, groups) ← expressionOf written text
          let pieces := replacementPieces replacement
          let highest := pieces.foldl (fun found piece => match piece with
            | .group number => max found number
            | _ => found) 0
          if groups < highest then
            refuse ("invalid reference \\" ++ toString highest ++ " on `s' command's RHS")
          pure (.substitute
            { expression, pieces, foldsCase := letters.contains 'i' || letters.contains 'I'
              number := ((String.ofList digits).toNat?).getD 1
              isGlobal := letters.contains 'g', prints := letters.contains 'p' })

/-- Read a command without the lines it concerns. -/
def readCommand (written : Regular.Notation) : Reader EditCommand := do
  match ← next? with
  | none => refuse "missing command"
  | some 's' => readSubstitution written
  | some 'd' => do
      readEnd
      pure .delete
  | some 'p' => do
      readEnd
      pure .print
  | some 'q' => do
      readEnd
      pure .quit
  | some letter => refuse ("unknown command: `" ++ letter.toString ++ "'")

/-- Read all commands. Every step uses up a character. -/
def readAll (written : Regular.Notation) : (fuel : Nat) → Reader (List EditStep)
  | 0 => pure []
  | fuel + 1 => do
      let _ ← takeWhile fun character => isBlank character || character == '\n' || character == ';'
      match (← get).head? with
      | none => pure []
      | some '#' => do
          let _ ← takeWhile (· != '\n')
          readAll written fuel
      | some _ => do
          let lines ← readLines written
          let _ ← takeWhile isBlank
          let marks ← takeWhile (· == '!')
          let _ ← takeWhile isBlank
          let command ← readCommand written
          let further ← readAll written fuel
          pure ({ lines, isNegated := !marks.isEmpty, command } :: further)

/-- The steps of a script, or the wording of its fault. -/
def ofCharacters (written : Regular.Notation) (script : List Char) :
    Except String (List EditStep) :=
  match (readAll written (script.length + 2)).run script with
  | .ok (steps, _) => .ok steps
  | .error (text, left) =>
      .error ("-e expression #1, char " ++ toString (script.length - left) ++ ": " ++ text)

end EditScript

end GeoBridge.Shell
