/-!
Owns the form in which a command is shown so that a shell reads the same words back.

Owns:
- the characters that need no quoting;
- the quoted form of one word and of a whole command.
-/

namespace GeoBridge.Text

/-- The characters that a shell takes as they are, in every position of a word. -/
def isShellSafe (character : Char) : Bool :=
  character.isAlphanum || "_@%+=:,./-".toList.contains character

/-- One character of a single-quoted word. A single quote leaves the quotes, stands between
double ones, and enters the quotes again. -/
def shellQuotedCharacter (character : Char) : List Char :=
  if character == '\'' then ['\'', '"', '\'', '"', '\''] else [character]

/-- One word of a command, quoted if it has to be. -/
def shellWord (word : String) : String :=
  let characters := word.toList
  if characters.isEmpty then "''"
  else if characters.all isShellSafe then word
  else String.ofList ('\'' :: characters.flatMap shellQuotedCharacter ++ ['\''])

/-- A command as one line. -/
def shellLine (words : List String) : String :=
  " ".intercalate (words.map shellWord)

end GeoBridge.Text
