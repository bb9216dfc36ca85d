import GeoBridge.Shell.Word

/-!
Owns the tokens of shell scripts.

Owns:
- words, operators and redirections, each with the line it stands on;
- documents inside of scripts, which stand below the line that asks for them;
- the division of a script into tokens, which ends at the first fault.
-/

namespace GeoBridge.Shell

/-- What a token is. -/
inductive TokenKind where
  | word (word : Word)
  | operator (text : String)
  | redirection (descriptor : Option Nat) (operator : String)
  | document (content : Word)
  | fault (fault : ScriptFault)
  | ending
deriving DecidableEq, Repr

/-- A token and its line. -/
structure Token where
  line : Nat
  kind : TokenKind
deriving DecidableEq, Repr

/-- The operators, longer ones before those they begin with. -/
def controlOperators : List String := ["&&", "||", ";;", ";", "&", "|", "(", ")", "\n"]

/-- The operators of redirections, longer ones before those they begin with. -/
def redirectionOperators : List String := [">>", ">&", ">|", "<<-", "<<", "<&", "<>", ">", "<"]

/-- The first of some operators that characters begin with. -/
def leadingOperator? (operators : List String) (characters : List Char) : Option String :=
  operators.find? fun operator => operator.toList.isPrefixOf characters

/-- The redirection that a digit or nothing begins. -/
def leadingRedirection? (word : Word) (behind : List Char) : Option (Nat × String) :=
  match word with
  | [.plain digit] =>
      if digit.isDigit then
        (leadingOperator? redirectionOperators behind).map fun operator =>
          (digit.toNat - 48, operator)
      else none
  | _ => none

/-- A document that is to come: the line that ends it, whether tabs at the front of its lines are
left out, and whether it is taken as it stands. -/
structure DocumentForm where
  ending : List Char
  stripsTabs : Bool
  verbatim : Bool
deriving DecidableEq, Repr

namespace DocumentForm

/-- The first line of characters, and what comes behind it. -/
def splitLine (characters : List Char) : List Char × List Char :=
  (characters.takeWhile (· != '\n'), (characters.dropWhile (· != '\n')).drop 1)

/-- The lines of a document, what comes behind the line that ends it, and the number of lines gone
by. Where that line is missing the document takes everything. -/
def readLines (form : DocumentForm) : (fuel : Nat) → List Char → List Char × List Char × Nat
  | 0, characters => ([], characters, 0)
  | _ + 1, [] => ([], [], 0)
  | fuel + 1, characters =>
      let (whole, behind) := splitLine characters
      let line := if form.stripsTabs then whole.dropWhile (· == '\t') else whole
      if line == form.ending then ([], behind, 1)
      else
        let (further, rest, count) := form.readLines fuel behind
        let isWhole := whole.length < characters.length
        ((if isWhole then line ++ ['\n'] else line) ++ further, rest, count + 1)

/-- The content of a document that begins on a line. -/
def content (form : DocumentForm) (line : Nat) (text : List Char) : Word :=
  if form.verbatim then [.quoted text] else .quoted [] :: piecesOf .document line text

/-- The contents of the documents that come one after the other. -/
def readAll (line : Nat) : List DocumentForm → List Char → List Word × List Char × Nat
  | [], characters => ([], characters, line)
  | form :: rest, characters =>
      let (text, behind, count) := form.readLines (characters.length + 1) characters
      let (further, remaining, last) := readAll (line + count) rest behind
      (form.content line text :: further, remaining, last)

/-- The document that a word asks for. -/
def ofWord (operator : String) (word : Word) : DocumentForm :=
  { ending := word.unquoted.1, stripsTabs := operator == "<<-", verbatim := word.unquoted.2 }

end DocumentForm

/-- Where the division of a script stands: the line, the operator of a document whose word comes
next, and the documents that begin below this line. -/
structure Division where
  line : Nat := 1
  operator : Option String := none
  awaited : List DocumentForm := []
deriving DecidableEq, Repr

/-- Divide a script into tokens. The documents below a line follow its tokens. What is faulty has no
end, so its fault is on the last line. Every step uses up a character. -/
def divide : (fuel : Nat) → Division → List Char → List Token
  | 0, division, _ | _, division, [] => [⟨division.line, .ending⟩]
  | fuel + 1, division, '\\' :: '\n' :: rest =>
      divide fuel { division with line := division.line + 1 } rest
  | fuel + 1, division, '#' :: rest => divide fuel division (rest.dropWhile (· != '\n'))
  | fuel + 1, division, '\n' :: rest =>
      let (documents, behind, line) :=
        DocumentForm.readAll (division.line + 1) division.awaited rest
      documents.map (fun content => ⟨division.line, .document content⟩)
        ++ ⟨division.line, .operator "\n"⟩ :: divide fuel { line } behind
  | fuel + 1, division, character :: rest =>
      let characters := character :: rest
      if isBlankOctet character then divide fuel division rest
      else
        let place := fun (kind : TokenKind) (next : Division) (behind : List Char) =>
          ⟨division.line, kind⟩ :: divide fuel next behind
        match leadingOperator? controlOperators characters,
          leadingOperator? redirectionOperators characters with
        | some operator, _ => place (.operator operator) division (characters.drop operator.length)
        | none, some operator =>
            place (.redirection none operator) { division with operator }
              (characters.drop operator.length)
        | none, none =>
            match readPieces (characters.length + 1) .word division.line characters with
            | .error fault =>
                [⟨division.line + linesBetween characters [], .fault fault⟩]
            | .ok (word, behind) =>
                let next :=
                  { division with line := division.line + linesBetween characters behind }
                match leadingRedirection? word behind, division.operator with
                | some (descriptor, operator), _ =>
                    place (.redirection (some descriptor) operator) { next with operator }
                      (behind.drop operator.length)
                | none, some operator =>
                    let awaited :=
                      if operator.startsWith "<<" then [DocumentForm.ofWord operator word] else []
                    place (.word word)
                      { next with operator := none, awaited := division.awaited ++ awaited } behind
                | none, none => place (.word word) next behind

/-- Tokens in which every document stands in the place of the word that announces it. The documents
that are still to be placed are given. -/
def placeDocuments : (isAnnounced : Bool) → (documents : List Word) → List Token → List Token
  | _, _, [] => []
  | true, content :: documents, ⟨line, .word _⟩ :: rest =>
      ⟨line, .document content⟩ :: placeDocuments false documents rest
  | _, documents, ⟨line, .redirection descriptor operator⟩ :: rest =>
      ⟨line, .redirection descriptor operator⟩
        :: placeDocuments (operator.startsWith "<<") documents rest
  | _, documents, ⟨_, .document _⟩ :: rest => placeDocuments false documents rest
  | _, documents, token :: rest => token :: placeDocuments false documents rest

/-- The tokens of a script whose first line has a number. A document whose line is missing is
empty. -/
def tokensOf (line : Nat) (script : List Char) : List Token :=
  let divided := divide (script.length + 1) { line } script
  let documents := divided.filterMap fun token => match token.kind with
    | .document content => some content
    | _ => none
  let announced := divided.countP fun token => match token.kind with
    | .redirection _ operator => operator.startsWith "<<"
    | _ => false
  let missing := List.replicate (announced - documents.length) [Piece.quoted []]
  placeDocuments false (documents ++ missing) divided

end GeoBridge.Shell
