/-!
Owns the words of shell scripts: the pieces they are written with, before anything is expanded.

Owns:
- plain and quoted characters, and the three kinds of expansion;
- the text enclosed by an expansion, in which quotes and expansions are enclosed in turn;
- the reading of a word up to the character that ends it.
-/

namespace GeoBridge.Shell

/-- Why a script cannot be read. A script inside of a word that nothing closes has faults of its
own, so it is kept with its first line. -/
inductive ScriptFault where
  | unterminatedQuote
  | unterminatedOutput
  | unclosedOutput (line : Nat) (script : List Char)
  | missing (closing : String)
  | unexpected (found : String) (expected : Option String)
  | badName (what : String)
deriving DecidableEq, Repr

/-- The wording. -/
def ScriptFault.message : ScriptFault → String
  | .unterminatedQuote => "Syntax error: Unterminated quoted string"
  | .unterminatedOutput => "Syntax error: EOF in backquote substitution"
  | .unclosedOutput _ _ => "Syntax error: end of file unexpected (expecting \")\")"
  | .missing closing => "Syntax error: Missing '" ++ closing ++ "'"
  | .unexpected found none => "Syntax error: " ++ found ++ " unexpected"
  | .unexpected found (some expected) =>
      "Syntax error: " ++ found ++ " unexpected (expecting " ++ expected ++ ")"
  | .badName what => "Syntax error: Bad " ++ what

/-- What happens where a parameter has no value, or where it has one: another value stands in for
it, is assigned to it, or is complained of; or another value takes its place. -/
inductive Alternative where
  | fallback
  | assignment
  | complaint
  | replacement
deriving DecidableEq, Repr

/-- What is taken of a parameter: its value, the length of it, an alternative to it, or what is
left once a part that matches a pattern is cut off. `orEmpty` lets an empty value count as none. -/
inductive ParameterUse where
  | plain
  | length
  | alternative (kind : Alternative) (orEmpty : Bool) (text : List Char)
  | trimmed (atEnd longest : Bool) (pattern : List Char)
  | unknown
deriving DecidableEq, Repr

/-- A piece of a word. Of a script between parentheses the number of the first line is known. The
lines of a script between back quotes are numbered by themselves. -/
inductive Piece where
  | plain (character : Char)
  | quoted (text : List Char)
  | parameter (name : String) (taken : ParameterUse) (isQuoted : Bool)
  | arithmetic (expression : List Char) (isQuoted : Bool)
  | output (line : Option Nat) (script : List Char) (isQuoted : Bool)
deriving DecidableEq, Repr

/-- A word, piece by piece. -/
abbrev Word := List Piece

/-- Whether a character can stand in the name of a variable. -/
def isNameCharacter (character : Char) : Bool := character.isAlphanum || character == '_'

/-- Whether characters are the name of a variable. -/
def isName (characters : List Char) : Bool :=
  characters.all isNameCharacter && (characters.head?.map fun first => !first.isDigit).getD false

/-- Whether a character is the name of a parameter by itself. -/
def isSpecialParameter (character : Char) : Bool :=
  character.isDigit || "@*#?-$!".toList.contains character

/-- The blanks between words. -/
def isBlankOctet (character : Char) : Bool := character == ' ' || character == '\t'

/-- Whether a character ends a plain word. -/
def endsWord (character : Char) : Bool := " \t\n;&|<>()".toList.contains character

/-- What encloses text: braces, parentheses with the number of choices begun inside of them, those
of arithmetic with the number of parentheses begun inside of them, and the quotes. -/
inductive Enclosure where
  | braces (isQuoted : Bool)
  | parentheses (choices : Nat)
  | arithmetic (depth : Nat)
  | doubleQuotes
  | singleQuotes
  | backQuotes
  | remark
deriving DecidableEq, Repr

namespace Enclosure

/-- The fault of text that ends inside of enclosures, of which the first is the innermost. -/
def fault : List Enclosure → ScriptFault
  | .braces true :: _ | .doubleQuotes :: _ | .singleQuotes :: _ => .unterminatedQuote
  | .braces false :: _ => .missing "\x7d"
  | .arithmetic _ :: _ => .missing "))"
  | .backQuotes :: _ => .unterminatedOutput
  | .remark :: outer => fault outer
  | .parentheses _ :: _ | [] => .unexpected "end of file" (some "\")\"")

/-- Whether a word begins a list of characters. -/
def beginsWith (word : String) (characters : List Char) : Bool :=
  word.toList.isPrefixOf characters
    && ((characters.drop word.length).head?.map endsWord).getD true

/-- The choices under way at the front of characters that begin a word. -/
def choicesAt (choices : Nat) (characters : List Char) : Nat :=
  if beginsWith "case" characters then choices + 1
  else if beginsWith "esac" characters then choices - 1
  else choices

/-- The enclosure at the front of characters that may begin a word. -/
def entering (enclosure : Enclosure) (beginsWord : Bool) (characters : List Char) : Enclosure :=
  match enclosure with
  | .parentheses choices =>
      if beginsWord then .parentheses (choicesAt choices characters) else enclosure
  | other => other

/-- Whether a character makes the next one stay. -/
def escapesBy (enclosure : Enclosure) (character : Char) : Bool :=
  character == '\\' && enclosure != .singleQuotes && enclosure != .remark

/-- What a character does to the enclosures: it stays in them, or it changes, opens or closes one.
The character behind it may take part in that. -/
inductive Effect where
  | stays
  | changes (current : Enclosure)
  | opens (inner : Enclosure) (takesNext : Bool)
  | closes (takesNext : Bool)
deriving DecidableEq, Repr

/-- What a parenthesis behind a dollar sign opens, given the character behind it. -/
def openedBy (next : Option Char) : Effect :=
  if next == some '(' then .opens (.arithmetic 0) true else .opens (.parentheses 0) false

/-- What a character does inside of arithmetic, in which quotes mean nothing. -/
def effectInArithmetic (depth : Nat) (afterDollar : Bool) (character : Char)
    (next : Option Char) : Effect :=
  match character, depth with
  | '`', _ => .opens .backQuotes false
  | '(', _ => if afterDollar then openedBy next else .changes (.arithmetic (depth + 1))
  | ')', shallower + 1 => .changes (.arithmetic shallower)
  | ')', 0 => if next == some ')' then .closes true else .stays
  | '\x7b', _ => if afterDollar then .opens (.braces true) false else .stays
  | _, _ => .stays

/-- What a character does inside of an enclosure, given whether it begins a word, whether a dollar
sign stands before it, and the character behind it. -/
def effect (enclosure : Enclosure) (beginsWord afterDollar : Bool) (character : Char)
    (next : Option Char) : Effect :=
  match enclosure, character with
  | .remark, '\n' => .closes false
  | .remark, _ => .stays
  | .singleQuotes, '\'' => .closes false
  | .singleQuotes, _ => .stays
  | .backQuotes, '`' => .closes false
  | .backQuotes, _ => .stays
  | .arithmetic depth, _ => effectInArithmetic depth afterDollar character next
  | _, '`' => .opens .backQuotes false
  | .doubleQuotes, '"' => .closes false
  | .braces _, '\x7d' => .closes false
  | .parentheses 0, ')' => .closes false
  | _, '"' => .opens .doubleQuotes false
  | .braces false, '\'' | .parentheses _, '\'' => .opens .singleQuotes false
  | .parentheses choices, '(' =>
      if afterDollar then openedBy next
      else if choices == 0 then .opens (.parentheses 0) false
      else .stays
  | .parentheses _, '#' => if beginsWord then .opens .remark false else .stays
  | _, '(' => if afterDollar then openedBy next else .stays
  | .braces isQuoted, '\x7b' => if afterDollar then .opens (.braces isQuoted) false else .stays
  | .doubleQuotes, '\x7b' => if afterDollar then .opens (.braces true) false else .stays
  | _, '\x7b' => if afterDollar then .opens (.braces false) false else .stays
  | _, _ => .stays

end Enclosure

/-- A character before a read text. -/
def before (character : Char) (read : List Char × List Char) : List Char × List Char :=
  (character :: read.1, read.2)

/-- The text up to the end of the outermost enclosure, without what closes it, and what comes
behind. The first enclosure is the innermost. A backslash makes the next character stay, but for
single quotes and remarks. -/
def readEnclosed (enclosures : List Enclosure) (beginsWord afterDollar : Bool) : List Char →
    Except ScriptFault (List Char × List Char)
  | [] => if enclosures.isEmpty then .ok ([], []) else .error (Enclosure.fault enclosures)
  | character :: rest =>
      match enclosures with
      | [] => .ok ([], character :: rest)
      | inner :: outer =>
          let current := inner.entering beginsWord (character :: rest)
          if current.escapesBy character then
            match rest with
            | next :: behind =>
                (readEnclosed (current :: outer) false false behind).map fun read =>
                  before character (before next read)
            | [] => .error (Enclosure.fault enclosures)
          else
            match current.effect beginsWord afterDollar character rest.head? with
            | .stays =>
                (readEnclosed (current :: outer) (endsWord character) (character == '$') rest).map
                  (before character)
            | .changes changed =>
                (readEnclosed (changed :: outer) false false rest).map (before character)
            | .opens opened false =>
                (readEnclosed (opened :: current :: outer) true false rest).map (before character)
            | .opens opened true =>
                match rest with
                | next :: behind =>
                    (readEnclosed (opened :: current :: outer) true false behind).map fun read =>
                      before character (before next read)
                | [] => .error (Enclosure.fault enclosures)
            | .closes false =>
                if outer.isEmpty then .ok ([], rest)
                else
                  (readEnclosed outer (current == .remark) false rest).map (before character)
            | .closes true =>
                match rest with
                | next :: behind =>
                    if outer.isEmpty then .ok ([], behind)
                    else
                      (readEnclosed outer false false behind).map fun read =>
                        before character (before next read)
                | [] => .error (Enclosure.fault enclosures)

namespace ParameterUse

/-- The alternative that a sign stands for. -/
def alternativeOf? : Char → Option Alternative
  | '-' => some .fallback
  | '=' => some .assignment
  | '?' => some .complaint
  | '+' => some .replacement
  | _ => none

/-- What is taken of a parameter, as spelled after its name. -/
def ofText : List Char → ParameterUse
  | [] => .plain
  | '%' :: '%' :: pattern => .trimmed true true pattern
  | '%' :: pattern => .trimmed true false pattern
  | '#' :: '#' :: pattern => .trimmed false true pattern
  | '#' :: pattern => .trimmed false false pattern
  | ':' :: sign :: text =>
      ((alternativeOf? sign).map fun kind => alternative kind true text).getD .unknown
  | sign :: text =>
      ((alternativeOf? sign).map fun kind => alternative kind false text).getD .unknown

end ParameterUse

/-- The characters of the name at the front of a parameter between braces. -/
def parameterName (characters : List Char) : List Char :=
  match characters with
  | [] => []
  | first :: rest =>
      if first.isDigit then first :: rest.takeWhile Char.isDigit
      else if isNameCharacter first then first :: rest.takeWhile isNameCharacter
      else if isSpecialParameter first then [first]
      else []

/-- The parameter that the text between braces asks for. -/
def bracedParameter (isQuoted : Bool) (text : List Char) : Piece :=
  let name := parameterName text
  let measured := parameterName (text.drop 1)
  if text.head? == some '#' && !measured.isEmpty && measured.length + 1 == text.length then
    .parameter (String.ofList measured) .length isQuoted
  else if name.isEmpty then .parameter "" .unknown isQuoted
  else .parameter (String.ofList name) (.ofText (text.drop name.length)) isQuoted

/-- The lines between characters and what is left of them. -/
def linesBetween (characters rest : List Char) : Nat :=
  (characters.take (characters.length - rest.length)).count '\n'

/-- The piece that a dollar sign on a line begins, and what comes behind it. -/
def readDollar (isQuoted : Bool) (line : Nat) : List Char → Except ScriptFault (Piece × List Char)
  | '(' :: '(' :: rest =>
      (readEnclosed [.arithmetic 0] false false rest).map fun (text, behind) =>
        (.arithmetic text isQuoted, behind)
  | '(' :: rest =>
      match readEnclosed [.parentheses 0] true false rest with
      | .ok (text, behind) => .ok (.output (some line) text isQuoted, behind)
      | .error _ => .error (.unclosedOutput line rest)
  | '\x7b' :: rest =>
      (readEnclosed [.braces isQuoted] false false rest).map fun (text, behind) =>
        (bracedParameter isQuoted text, behind)
  | character :: rest =>
      if isSpecialParameter character then
        .ok (.parameter character.toString .plain isQuoted, rest)
      else if isNameCharacter character then
        .ok (.parameter (String.ofList (character :: rest.takeWhile isNameCharacter)) .plain
          isQuoted, rest.dropWhile isNameCharacter)
      else .ok (.quoted ['$'], character :: rest)
  | [] => .ok (.quoted ['$'], [])

/-- The script between back quotes, in which a backslash keeps some characters from meaning
anything until the script is read. -/
def backQuotedScript (isQuoted : Bool) : List Char → List Char
  | '\\' :: character :: rest =>
      if "$`\\".toList.contains character || (isQuoted && character == '"') then
        character :: backQuotedScript isQuoted rest
      else '\\' :: character :: backQuotedScript isQuoted rest
  | character :: rest => character :: backQuotedScript isQuoted rest
  | [] => []

/-- Where pieces stand: in a word, between double quotes, in a document inside of a script, or
between the braces of a parameter. -/
inductive Setting where
  | word
  | quotes
  | document
  | braces (isQuoted : Bool)
deriving DecidableEq, Repr

namespace Setting

/-- Whether characters stand for themselves and nothing is divided. -/
def isQuoted : Setting → Bool
  | .word | .braces false => false
  | .quotes | .document | .braces true => true

/-- Whether a backslash before a character vanishes. -/
def unescapes (setting : Setting) (character : Char) : Bool :=
  match setting with
  | .word | .braces false => true
  | .quotes => "$`\"\\".toList.contains character
  | .document => "$`\\".toList.contains character
  | .braces true => "$`\"\\\x7d".toList.contains character

end Setting

/-- A piece before the pieces read. -/
def withPiece (piece : Piece) (read : List Piece × List Char) : List Piece × List Char :=
  (piece :: read.1, read.2)

/-- The pieces between double quotes, which make a field even of nothing, unless they stand for all
parameters. -/
def quotedPieces (inside : Word) : Word :=
  if inside.contains (.parameter "@" .plain true) then inside else .quoted [] :: inside

/-- Read pieces that begin on a line up to the end of a word, or up to the closing double quote.
Every step uses up a character, so the number of characters is fuel enough. -/
def readPieces :
    (fuel : Nat) → Setting → (line : Nat) → List Char → Except ScriptFault (Word × List Char)
  | 0, _, _, characters => .ok ([], characters)
  | _ + 1, .quotes, _, [] => .error .unterminatedQuote
  | _ + 1, _, _, [] => .ok ([], [])
  | fuel + 1, setting, line, '"' :: rest =>
      match setting with
      | .quotes => .ok ([], rest)
      | .document => (readPieces fuel setting line rest).map (withPiece (.quoted ['"']))
      | .braces true => readPieces fuel setting line rest
      | _ => do
          let (inside, behind) ← readPieces fuel .quotes line rest
          let (further, remaining) ←
            readPieces fuel setting (line + linesBetween rest behind) behind
          .ok (quotedPieces inside ++ further, remaining)
  | fuel + 1, setting, line, '\'' :: rest =>
      if setting.isQuoted then (readPieces fuel setting line rest).map (withPiece (.quoted ['\'']))
      else
        match rest.dropWhile (· != '\'') with
        | [] => .error .unterminatedQuote
        | _ :: behind =>
            (readPieces fuel setting (line + linesBetween rest behind) behind).map
              (withPiece (.quoted (rest.takeWhile (· != '\''))))
  | fuel + 1, setting, line, '\\' :: '\n' :: rest => readPieces fuel setting (line + 1) rest
  | fuel + 1, setting, line, '\\' :: character :: rest =>
      (readPieces fuel setting line rest).map
        (withPiece (.quoted (if setting.unescapes character then [character]
          else ['\\', character])))
  | fuel + 1, setting, line, '$' :: rest => do
      let (piece, behind) ← readDollar setting.isQuoted line rest
      (readPieces fuel setting (line + linesBetween rest behind) behind).map (withPiece piece)
  | fuel + 1, setting, line, '`' :: rest => do
      let (script, behind) ← readEnclosed [.backQuotes] false false rest
      (readPieces fuel setting (line + linesBetween rest behind) behind).map
        (withPiece (.output none (backQuotedScript setting.isQuoted script) setting.isQuoted))
  | fuel + 1, setting, line, character :: rest =>
      if setting == .word && endsWord character then .ok ([], character :: rest)
      else
        (readPieces fuel setting (line + linesBetween [character] []) rest).map
          (withPiece (if setting.isQuoted then .quoted [character] else .plain character))

/-- The pieces of a whole text that begins on a line. Where it cannot be read it stands for itself.
-/
def piecesOf (setting : Setting) (line : Nat) (text : List Char) : Word :=
  match readPieces (text.length + 1) setting line text with
  | .ok (pieces, _) => pieces
  | .error _ => [.quoted text]

/-- The text of a word that is plain from end to end. -/
def Word.plainText? : Word → Option (List Char)
  | [] => some []
  | .plain character :: rest => (plainText? rest).map (character :: ·)
  | _ => none

/-- The text of a word without its quotes, where nothing is expanded, and whether there are
quotes. -/
def Word.unquoted : Word → List Char × Bool
  | [] => ([], false)
  | .plain character :: rest => (character :: (unquoted rest).1, (unquoted rest).2)
  | .quoted text :: rest => (text ++ (unquoted rest).1, true)
  | _ :: rest => unquoted rest

end GeoBridge.Shell
