import GeoBridge.Shell.Token

/-!
Owns the commands of shell scripts and their reading from tokens.

Owns:
- simple commands with assignments and redirections, and the commands composed of others;
- the reading of a script line by line, so that what stands before a fault is still carried out;
- the faults of the scripts inside of words, which are those of the script around them.
-/

namespace GeoBridge.Shell

/-- A redirection of a descriptor, which falls back to the one that its operator implies. -/
structure Redirection where
  descriptor : Option Nat
  operator : String
  target : Word
deriving DecidableEq, Repr

/-- A simple command: the line it stands on, its assignments, words and redirections. -/
structure SimpleCommand where
  line : Nat
  assignments : List (String × Word) := []
  words : List Word := []
  redirections : List Redirection := []
deriving DecidableEq, Repr

/-- A command. A choice goes through alternatives, one of which is followed by the rest of them. -/
inductive Script where
  | simple (command : SimpleCommand)
  | sequence (first second : Script)
  | conjunction (first second : Script)
  | disjunction (first second : Script)
  | negation (script : Script)
  | pipe (first second : Script)
  | branch (condition whenTrue whenFalse : Script)
  | loop (stopsWhenTrue : Bool) (condition body : Script)
  | each (line : Nat) (name : String) (items : Option (List Word)) (body : Script)
  | choice (line : Nat) (subject : Word) (alternatives : Script)
  | alternative (patterns : List Word) (body rest : Script)
  | define (name : String) (body : Script)
  | redirected (line : Nat) (script : Script) (redirections : List Redirection)
  | separate (script : Script)
  | background (script : Script)
  | nothing
deriving Repr

/-- The words that mean something at the beginning of a command. -/
def reservedWords : List String :=
  ["if", "then", "elif", "else", "fi", "while", "until", "do", "done", "for", "in", "case", "esac",
   "\x7b", "\x7d", "!"]

/-- The reserved words that end the list of commands before them. -/
def closingWords : List String := ["then", "elif", "else", "fi", "do", "done", "esac", "\x7d"]

/-- The commands whose names no function can have. -/
def specialCommands : List String :=
  [".", ":", "break", "continue", "eval", "exec", "exit", "export", "readonly", "return", "set",
   "shift", "times", "trap", "unset"]

/-- A fault and the line it is on. -/
structure LocatedFault where
  line : Nat
  fault : ScriptFault
deriving DecidableEq, Repr

/-- Reading from tokens. -/
abbrev Reading := StateT (List Token) (Except LocatedFault)

namespace Reading

/-- The text of a plain word, which may be a reserved one. -/
def plainText? : TokenKind → Option String
  | .word word => (Word.plainText? word).map String.ofList
  | _ => none

/-- How a token is called in a fault. -/
def called (kind : TokenKind) (isReserved : Bool) : String :=
  match kind, plainText? kind with
  | .operator "\n", _ => "newline"
  | .operator text, _ => "\"" ++ text ++ "\""
  | .redirection _ _, _ => "redirection"
  | .ending, _ => "end of file"
  | _, some text =>
      if isReserved && reservedWords.contains text then "\"" ++ text ++ "\"" else "word"
  | _, none => "word"

/-- The line of the next token. -/
def line : Reading Nat := do
  let tokens ← get
  pure ((tokens.head?.map Token.line).getD 1)

/-- Refuse the next token, which may be meant as a reserved word. -/
def refuse {α : Type} (expected : Option String) (isReserved : Bool := true) : Reading α := do
  match ← get with
  | [] => throw ⟨1, .unexpected "end of file" expected⟩
  | ⟨line, .fault fault⟩ :: _ => throw ⟨line, fault⟩
  | ⟨line, kind⟩ :: _ => throw ⟨line, .unexpected (called kind isReserved) expected⟩

/-- Refuse a name. -/
def refuseName {α : Type} (what : String) : Reading α := do
  match ← get with
  | ⟨line, .fault fault⟩ :: _ => throw ⟨line, fault⟩
  | _ => throw ⟨← line, .badName what⟩

/-- What the next token is. -/
def peek : Reading TokenKind := do
  let tokens ← get
  pure ((tokens.head?.map Token.kind).getD .ending)

/-- Go past the next token. The end stays. -/
def skip : Reading Unit := modify fun tokens =>
  match tokens with
  | [] | [_] => tokens
  | _ :: rest => rest

/-- Whether the next token is an operator. -/
def isAt (operator : String) : Reading Bool := do
  let kind ← peek
  pure (kind == .operator operator)

/-- Whether the next token is a plain word of the given text. -/
def isAtWord (text : String) : Reading Bool := do
  let kind ← peek
  pure (plainText? kind == some text)

/-- Go past line breaks. -/
def skipLineBreaks : Reading Unit :=
  modify fun tokens => tokens.dropWhile fun token => token.kind == .operator "\n"

/-- How something expected is called. -/
def expected (text : String) : Option String := some ("\"" ++ text ++ "\"")

/-- Go past a reserved word that has to come next. -/
def expectWord (text : String) : Reading Unit := do
  if ← isAtWord text then skip else refuse (expected text)

/-- Go past an operator that has to come next. -/
def expectOperator (text : String) (isReserved : Bool := true) : Reading Unit := do
  if ← isAt text then skip else refuse (expected text) isReserved

/-- Whether the next token ends a list of commands. -/
def isAtEnd : Reading Bool := do
  match ← peek with
  | .ending => pure true
  | .operator text => pure (text == ")" || text == ";;")
  | kind => pure ((plainText? kind).any closingWords.contains)

/-- The assignment that a word spells. -/
def assignment? (word : Word) : Option (String × Word) :=
  let name := word.takeWhile fun piece => piece != .plain '='
  match Word.plainText? name, word.drop name.length with
  | some characters, _ :: value =>
      if isName characters then some (String.ofList characters, value) else none
  | _, _ => none

/-- Read a redirection whose operator was read. -/
def readRedirection (descriptor : Option Nat) (operator : String) : Reading Redirection := do
  skip
  match ← peek with
  | .word target | .document target => do
      skip
      pure ⟨descriptor, operator, target⟩
  | _ => refuse none false

/-- Read the rest of a simple command. Every step uses up a token. -/
def readSimple : (fuel : Nat) → SimpleCommand → Reading SimpleCommand
  | 0, command => pure command
  | fuel + 1, command => do
      match ← peek with
      | .word word => do
          skip
          match command.words, assignment? word with
          | [], some assignment =>
              readSimple fuel
                { command with assignments := command.assignments ++ [assignment] }
          | _, _ => readSimple fuel { command with words := command.words ++ [word] }
      | .redirection descriptor operator => do
          let redirection ← readRedirection descriptor operator
          readSimple fuel
            { command with redirections := command.redirections ++ [redirection] }
      | .fault _ => refuse none
      | _ => pure command

/-- Read the redirections after a composed command. -/
def readRedirections : (fuel : Nat) → Reading (List Redirection)
  | 0 => pure []
  | fuel + 1 => do
      match ← peek with
      | .redirection descriptor operator => do
          let redirection ← readRedirection descriptor operator
          let further ← readRedirections fuel
          pure (redirection :: further)
      | _ => pure []

/-- Read words up to a token that is none. -/
def readWords : (fuel : Nat) → Reading (List Word)
  | 0 => pure []
  | fuel + 1 => do
      match ← peek with
      | .word word => do
          skip
          let further ← readWords fuel
          pure (word :: further)
      | .fault _ => refuse none
      | _ => pure []

/-- Read the patterns of an alternative, between which bars stand. Whatever stands in the place of a
pattern is taken as one, and an operator is one of nothing. -/
def readPatterns : (fuel : Nat) → Reading (List Word)
  | 0 => pure []
  | fuel + 1 => do
      let pattern ← match ← peek with
        | .fault _ => refuse none
        | .word word => pure word
        | _ => pure []
      skip
      if ← isAt "|" then
        skip
        let further ← readPatterns fuel
        pure (pattern :: further)
      else pure [pattern]

mutual

/-- Read commands up to what ends them. Between them stand semicolons and line breaks. The list may
be empty where that is allowed, and at the end of the script. -/
def readList : (fuel : Nat) → (mayBeEmpty : Bool) → Reading Script
  | 0, _ => pure .nothing
  | fuel + 1, mayBeEmpty => do
      skipLineBreaks
      if (mayBeEmpty && (← isAtEnd)) || (← peek) == .ending then pure .nothing
      else
        let first ← readAndOr fuel
        let script := if ← isAt "&" then Script.background first else first
        if !((← isAt ";") || (← isAt "\n") || (← isAt "&")) then pure script
        else
          skip
          skipLineBreaks
          if ← isAtEnd then pure script
          else
            let further ← readList fuel true
            pure (.sequence script further)

/-- Read commands joined by logical operators, from the left. -/
def readAndOr : (fuel : Nat) → Reading Script
  | 0 => pure .nothing
  | fuel + 1 => do
      let first ← readPipeline fuel
      continueAndOr fuel first

/-- Join what was read to what a logical operator adds. -/
def continueAndOr : (fuel : Nat) → Script → Reading Script
  | 0, first => pure first
  | fuel + 1, first => do
      if ← isAt "&&" then
        skip
        skipLineBreaks
        let second ← readPipeline fuel
        continueAndOr fuel (.conjunction first second)
      else if ← isAt "||" then
        skip
        skipLineBreaks
        let second ← readPipeline fuel
        continueAndOr fuel (.disjunction first second)
      else pure first

/-- Read commands joined by pipes, all of which a negation before them concerns. -/
def readPipeline : (fuel : Nat) → Reading Script
  | 0 => pure .nothing
  | fuel + 1 => do
      if ← isAtWord "!" then
        skip
        let script ← readPipes fuel
        pure (.negation script)
      else readPipes fuel

/-- Read commands joined by pipes. -/
def readPipes : (fuel : Nat) → Reading Script
  | 0 => pure .nothing
  | fuel + 1 => do
      let first ← readCommand fuel
      if ← isAt "|" then
        skip
        skipLineBreaks
        let second ← readPipes fuel
        pure (.pipe first second)
      else pure first

/-- Read one command. -/
def readCommand : (fuel : Nat) → Reading Script
  | 0 => pure .nothing
  | fuel + 1 => do
      let tokens ← get
      let line ← line
      if ← isAt "(" then
        skip
        let body ← readList fuel false
        expectOperator ")"
        withRedirections line (.separate body)
      else if ← isAtWord "\x7b" then
        skip
        let body ← readList fuel false
        expectWord "\x7d"
        withRedirections line body
      else if ← isAtWord "if" then
        skip
        let script ← readBranch fuel
        withRedirections line script
      else if (← isAtWord "while") || (← isAtWord "until") then
        let stops ← isAtWord "until"
        skip
        let condition ← readList fuel false
        let body ← readBody fuel
        withRedirections line (.loop stops condition body)
      else if ← isAtWord "for" then
        skip
        let script ← readEach fuel line
        withRedirections line script
      else if ← isAtWord "case" then
        skip
        let script ← readChoice fuel line
        withRedirections line script
      else if (← isAtEnd) || (← isAtWord "in") || (← isAtWord "!") then refuse none
      else
        let command ← readSimple (tokens.length + 1) { line }
        if command.words.isEmpty && command.assignments.isEmpty
            && command.redirections.isEmpty then refuse none
        else
          match command.words, command.assignments, command.redirections with
          | [name], [], [] =>
              if ← isAt "(" then readFunction fuel name else pure (.simple command)
          | _, _, _ => pure (.simple command)

/-- Read a function whose name was read. -/
def readFunction : (fuel : Nat) → Word → Reading Script
  | 0, _ => pure .nothing
  | fuel + 1, name => do
      skip
      expectOperator ")" false
      let characters := (Word.plainText? name).getD []
      let text := String.ofList characters
      if !isName characters || specialCommands.contains text then refuseName "function name"
      else
        skipLineBreaks
        let body ← readCommand fuel
        pure (.define text body)

/-- Read the redirections of a composed command. -/
def withRedirections (line : Nat) (script : Script) : Reading Script := do
  let tokens ← get
  let redirections ← readRedirections (tokens.length + 1)
  pure (if redirections.isEmpty then script else .redirected line script redirections)

/-- Read a condition, what follows if it holds, and what follows if not. -/
def readBranch : (fuel : Nat) → Reading Script
  | 0 => pure .nothing
  | fuel + 1 => do
      let condition ← readList fuel false
      expectWord "then"
      let whenTrue ← readList fuel false
      if ← isAtWord "elif" then
        skip
        let whenFalse ← readBranch fuel
        pure (.branch condition whenTrue whenFalse)
      else if ← isAtWord "else" then
        skip
        let whenFalse ← readList fuel false
        expectWord "fi"
        pure (.branch condition whenTrue whenFalse)
      else
        expectWord "fi"
        pure (.branch condition whenTrue .nothing)

/-- Read the body of a loop. -/
def readBody : (fuel : Nat) → Reading Script
  | 0 => pure .nothing
  | fuel + 1 => do
      expectWord "do"
      let body ← readList fuel false
      expectWord "done"
      pure body

/-- Read a loop over words, which are the parameters unless they are listed. -/
def readEach : (fuel line : Nat) → Reading Script
  | 0, _ => pure .nothing
  | fuel + 1, line => do
      let kind ← peek
      let name := (plainText? kind).getD ""
      if !isName name.toList then refuseName "for loop variable"
      else
        skip
        skipLineBreaks
        let tokens ← get
        if ← isAtWord "in" then
          skip
          let words ← readWords (tokens.length + 1)
          if (← isAt ";") || (← isAt "\n") then skip else refuse none false
          skipLineBreaks
          let body ← readBody fuel
          pure (.each line name (some words) body)
        else
          if ← isAt ";" then skip
          skipLineBreaks
          let body ← readBody fuel
          pure (.each line name none body)

/-- Read a choice, whose subject comes next. -/
def readChoice : (fuel line : Nat) → Reading Script
  | 0, _ => pure .nothing
  | fuel + 1, line => do
      match ← peek with
      | .word subject => do
          skip
          skipLineBreaks
          expectWord "in"
          let alternatives ← readAlternatives fuel
          pure (.choice line subject alternatives)
      | _ => refuse (some "word")

/-- Read the alternatives of a choice up to its end. -/
def readAlternatives : (fuel : Nat) → Reading Script
  | 0 => pure .nothing
  | fuel + 1 => do
      skipLineBreaks
      if ← isAtWord "esac" then
        skip
        pure .nothing
      else
        if ← isAt "(" then skip
        let tokens ← get
        let patterns ← readPatterns (tokens.length + 1)
        expectOperator ")" false
        let body ← readList fuel true
        skipLineBreaks
        if ← isAt ";;" then
          skip
          let rest ← readAlternatives fuel
          pure (.alternative patterns body rest)
        else if ← isAtWord "esac" then
          skip
          pure (.alternative patterns body .nothing)
        else refuse (expected ";;")

end

/-- Read the commands of one line at the top of a script. -/
def readLine : (fuel : Nat) → Reading Script
  | 0 => pure .nothing
  | fuel + 1 => do
      let first ← readAndOr fuel
      let script := if ← isAt "&" then Script.background first else first
      if (← isAt ";") || (← isAt "&") then
        skip
        match ← peek with
        | .ending | .operator "\n" => pure script
        | _ =>
            let further ← readLine fuel
            pure (.sequence script further)
      else
        match ← peek with
        | .ending | .operator "\n" => pure script
        | _ => refuse none

/-- Read a script inside of a word, which its parentheses close. -/
def readInside (isClosed : Bool) (fuel : Nat) : Reading Unit := do
  let _ ← readList fuel true
  if isClosed then expectOperator ")"

/-- The tokens of a script inside of a word, at whose end parentheses close it. -/
def tokensInside (isClosed : Bool) (tokens : List Token) : List Token :=
  if isClosed then
    tokens.flatMap fun token =>
      if token.kind == .ending then [⟨token.line, .operator ")"⟩, token] else [token]
  else tokens

mutual

/-- The first fault of a script inside of a word. -/
def insideFault? : (fuel line : Nat) → (isClosed : Bool) → List Char → Option LocatedFault
  | 0, _, _, _ => none
  | fuel + 1, line, isClosed, script =>
      let tokens := tokensInside isClosed (withFaults fuel (tokensOf line script))
      match (readInside isClosed (8 * (tokens.length + 1))).run tokens with
      | .ok _ => none
      | .error located => some located

/-- The first fault of the scripts inside of a word that begins on a line. -/
def wordFault? : (fuel line : Nat) → Word → Option LocatedFault
  | 0, _, _ | _, _, [] => none
  | fuel + 1, line, piece :: rest =>
      let fault? := match piece with
        | .output first script _ => insideFault? fuel (first.getD 1) first.isSome script
        | .arithmetic expression _ => wordFault? fuel line (piecesOf .document line expression)
        | .parameter _ (.alternative _ _ text) isQuoted =>
            wordFault? fuel line (piecesOf (.braces isQuoted) line text)
        | .parameter _ (.trimmed _ _ pattern) _ =>
            wordFault? fuel line (piecesOf (.braces false) line pattern)
        | _ => none
      fault?.orElse fun _ => wordFault? fuel line rest

/-- Tokens up to the first whose words have a fault inside of them. The fault takes its place. -/
def withFaults : (fuel : Nat) → List Token → List Token
  | 0, tokens => tokens
  | _, [] => []
  | fuel + 1, token :: rest =>
      let fault? := match token.kind with
        | .word word | .document word => wordFault? fuel token.line word
        | .fault (.unclosedOutput line script) => insideFault? fuel line false script
        | _ => none
      match fault? with
      | some located => [⟨located.line, .fault located.fault⟩]
      | none => token :: withFaults fuel rest

end

/-- The tokens of a script whose first line has a number, with the faults inside of its words. -/
def tokens (line : Nat) (script : List Char) : List Token :=
  withFaults (4 * (script.length + 1)) (tokensOf line script)

end Reading

end GeoBridge.Shell
