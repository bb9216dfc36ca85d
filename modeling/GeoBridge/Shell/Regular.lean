import GeoBridge.Shell.Pattern

/-!
Owns the regular expressions of filters.

Owns:
- the expressions, and their reading in the two notations: in the basic one the signs for groups,
  counts and alternatives have a backslash before them, in the extended one they have none;
- the ends at which an expression can match, and the leftmost match, which is the longest one.
-/

namespace GeoBridge.Shell

/-- A regular expression. Places match without a character. -/
inductive Regular where
  | nothing
  | one (character : Char)
  | any
  | among (set : OctetSet)
  | lineStart
  | lineEnd
  | wordEdge (atStart atEnd isEdge : Bool)
  | sequence (first second : Regular)
  | either (first second : Regular)
  | group (number : Nat) (inside : Regular)
  | again (number : Nat)
  | repeated (inside : Regular) (least : Nat) (most : Option Nat)
deriving DecidableEq, Repr

/-- A match: where it ends, and the groups matched in it by their numbers. -/
structure Match where
  ending : Nat
  groups : List (Nat × Nat × Nat) := []
deriving DecidableEq, Repr

namespace Regular

/-- The text in which matches are looked for, and whether letters match in either case. -/
structure Subject where
  text : Array Char
  foldsCase : Bool := false

/-- Whether two characters are alike. -/
def Subject.areAlike (subject : Subject) (first second : Char) : Bool :=
  first == second || (subject.foldsCase && first.toLower == second.toLower)

/-- Whether a character is in a set. -/
def Subject.isAmong (subject : Subject) (set : OctetSet) (character : Char) : Bool :=
  set.contains character
    || (subject.foldsCase
      && (set.contains character.toLower || set.contains character.toUpper))

/-- Whether the character at a position belongs to a word. -/
def Subject.isWordAt (subject : Subject) (position : Nat) : Bool :=
  (subject.text[position]?).any fun character => character.isAlphanum || character == '_'

/-- Whether a word begins or ends at a position. -/
def Subject.wordBegins (subject : Subject) (position : Nat) : Bool :=
  subject.isWordAt position && (position == 0 || !subject.isWordAt (position - 1))

@[inherit_doc Subject.wordBegins]
def Subject.wordEnds (subject : Subject) (position : Nat) : Bool :=
  !subject.isWordAt position && 0 < position && subject.isWordAt (position - 1)

/-- The matches without those that end where an earlier one does. -/
def distinct (matches_ : List Match) : List Match :=
  (matches_.foldl (fun kept found =>
    if kept.any fun other => other.ending == found.ending then kept else found :: kept) []).reverse

/-- The matches of a repetition from some matches on, longer ones first. Only steps that get ahead
are repeated beyond the least count. -/
def repeatFrom (step : Match → List Match) (least : Nat) : (count done_ : Nat) → Match → List Match
  | 0, done_, reached => if least ≤ done_ then [reached] else []
  | count + 1, done_, reached =>
      let further := (step reached).filter fun next =>
        reached.ending < next.ending || done_ < least
      let deeper := further.flatMap (repeatFrom step least count (done_ + 1))
      distinct (if least ≤ done_ then deeper ++ [reached] else deeper)

/-- The ends at which an expression can match from the end of another match on. -/
def ends (subject : Subject) : Regular → Match → List Match
  | .nothing, found => [found]
  | .one expected, found =>
      match subject.text[found.ending]? with
      | some character =>
          if subject.areAlike expected character then
            [{ found with ending := found.ending + 1 }]
          else []
      | none => []
  | .any, found =>
      if found.ending < subject.text.size then [{ found with ending := found.ending + 1 }] else []
  | .among set, found =>
      match subject.text[found.ending]? with
      | some character =>
          if subject.isAmong set character then [{ found with ending := found.ending + 1 }] else []
      | none => []
  | .lineStart, found => if found.ending == 0 then [found] else []
  | .lineEnd, found => if found.ending == subject.text.size then [found] else []
  | .wordEdge atStart atEnd isEdge, found =>
      let holds := (atStart && subject.wordBegins found.ending)
        || (atEnd && subject.wordEnds found.ending)
      if holds == isEdge then [found] else []
  | .sequence first second, found =>
      distinct ((ends subject first found).flatMap (ends subject second))
  | .either first second, found => distinct (ends subject first found ++ ends subject second found)
  | .group number inside, found =>
      (ends subject inside found).map fun next =>
        { next with
          groups := (number, found.ending, next.ending)
            :: next.groups.filter fun entry => entry.1 != number }
  | .again number, found =>
      match found.groups.lookup number with
      | some (start, stop) =>
          let length := stop - start
          let same := (List.range length).all fun offset =>
            match subject.text[start + offset]?, subject.text[found.ending + offset]? with
            | some first, some second => subject.areAlike first second
            | _, _ => false
          if same then [{ found with ending := found.ending + length }] else []
      | none => []
  | .repeated inside least most, found =>
      repeatFrom (ends subject inside) least (most.getD (subject.text.size + least + 1)) 0 found

/-- The longest of some matches, of several the first. -/
def longest? (matches_ : List Match) : Option Match :=
  matches_.foldl (fun best found =>
    match best with
    | some kept => if kept.ending < found.ending then some found else best
    | none => some found) none

/-- The leftmost match from a position on, with the position where it begins. -/
def find? (expression : Regular) (subject : Subject) (start : Nat) : Option (Nat × Match) :=
  (List.range (subject.text.size + 1 - start)).findSome? fun offset =>
    (longest? (ends subject expression { ending := start + offset })).map fun found =>
      (start + offset, found)

/-- How expressions are written. -/
inductive Notation where
  | basic
  | extended
  | literal
deriving DecidableEq, Repr

/-- What comes next in a written expression: an ordinary character, or one of the signs. -/
inductive Sign where
  | ending
  | plain (character : Char)
  | special (character : Char)
deriving DecidableEq, Repr

/-- The next sign and what comes behind it. A backslash gives some characters a meaning, and takes
it from others. -/
def nextSign (written : Notation) : List Char → Sign × List Char
  | [] => (.ending, [])
  | '\\' :: character :: rest =>
      if written == .literal then (.plain '\\', character :: rest)
      else if "wWsSbB<>'`".toList.contains character || (character.isDigit && character != '0') then
        (.special (Char.ofNat (character.toNat + 0x100)), rest)
      else if character == 'n' then (.plain '\n', rest)
      else if character == 't' then (.plain '\t', rest)
      else if written == .basic && "(){}|+?".toList.contains character then
        (.special character, rest)
      else (.plain character, rest)
  | character :: rest =>
      let signs := match written with
        | .basic => ".[*^$".toList
        | .extended => ".[*^$(){}|+?".toList
        | .literal => []
      (if signs.contains character then .special character else .plain character, rest)

/-- A reading of an expression: the expression, what comes behind it, and the number of groups. -/
abbrev Reading := Regular × List Char × Nat

/-- The set of the characters of words, and that of spaces. -/
def wordSet (negated : Bool) : OctetSet := { negated, ranges := [('_', '_')], classes := ["alnum"] }

@[inherit_doc wordSet]
def spaceSet (negated : Bool) : OctetSet := { negated, classes := ["space"] }

/-- The expression that a letter or digit behind a backslash stands for. -/
def behindBackslash (character : Char) : Regular :=
  match character with
  | 'w' => .among (wordSet false)
  | 'W' => .among (wordSet true)
  | 's' => .among (spaceSet false)
  | 'S' => .among (spaceSet true)
  | 'b' => .wordEdge true true true
  | 'B' => .wordEdge true true false
  | '<' => .wordEdge true false true
  | '>' => .wordEdge false true true
  | '`' => .lineStart
  | '\'' => .lineEnd
  | digit => .again (digit.toNat - 48)

/-- The set behind an opening bracket, and what comes behind it. -/
def readSet (characters : List Char) : Option (OctetSet × List Char) :=
  let negated := characters.head? == some '^'
  let members := if negated then characters.drop 1 else characters
  (PatternItem.readMembers { negated } (members.length + 1) true
      (Glyph.ofCharacters false members)).map fun (set, rest) =>
    (set, rest.map Glyph.character)

/-- The counts between braces, and what comes behind them. -/
def readCounts (written : Notation) (characters : List Char) :
    Option (Nat × Option Nat × List Char) :=
  let digits := characters.takeWhile Char.isDigit
  let number := fun (digits : List Char) => (String.ofList digits).toNat?
  let least := (number digits).getD 0
  let close := fun (most : Option Nat) (rest : List Char) =>
    match nextSign written rest with
    | (.special '\x7d', behind) => some (least, most, behind)
    | _ => none
  match characters.drop digits.length with
  | ',' :: rest =>
      let last := rest.takeWhile Char.isDigit
      close (number last) (rest.drop last.length)
  | rest => if digits.isEmpty then none else close (some least) rest

/-- The repetitions behind an item. -/
def readRepetitions (written : Notation) : (fuel : Nat) → Regular → List Char →
    Option (Regular × List Char)
  | 0, item, rest => some (item, rest)
  | fuel + 1, item, characters =>
      match nextSign written characters with
      | (.special '*', rest) => readRepetitions written fuel (.repeated item 0 none) rest
      | (.special '+', rest) => readRepetitions written fuel (.repeated item 1 none) rest
      | (.special '?', rest) => readRepetitions written fuel (.repeated item 0 (some 1)) rest
      | (.special '\x7b', rest) =>
          match readCounts written rest with
          | some (least, most, behind) =>
              readRepetitions written fuel (.repeated item least most) behind
          | none => none
      | _ => some (item, characters)

/-- Whether the end of a sequence comes next: that of the expression, an alternative, or the end of
the group that is open. -/
def isSequenceEnd (written : Notation) (inGroup : Bool) (characters : List Char) : Bool :=
  match (nextSign written characters).1 with
  | .ending | .special '|' => true
  | .special ')' => inGroup
  | _ => false

mutual

/-- Read alternatives up to the end of a group or of all. -/
def readEither (written : Notation) : (fuel : Nat) → (inGroup : Bool) → List Char → Nat →
    Option Reading
  | 0, _, _, _ => none
  | fuel + 1, inGroup, characters, groups => do
      let (first, rest, reached) ← readSequence written fuel inGroup true .nothing characters groups
      match nextSign written rest with
      | (.special '|', behind) => do
          let (second, remaining, last) ← readEither written fuel inGroup behind reached
          some (.either first second, remaining, last)
      | _ => some (first, rest, reached)

/-- Read items one after the other, given what was read so far. -/
def readSequence (written : Notation) : (fuel : Nat) → (inGroup isFirst : Bool) → Regular →
    List Char → Nat → Option Reading
  | 0, _, _, _, _, _ => none
  | fuel + 1, inGroup, isFirst, before, characters, groups =>
      if isSequenceEnd written inGroup characters then some (before, characters, groups)
      else do
        let (item, rest, reached) ← readItem written fuel inGroup isFirst characters groups
        let (whole, behind) ←
          if item == .lineStart && written == .basic then some (item, rest)
          else readRepetitions written (rest.length + 1) item rest
        readSequence written fuel inGroup (item == .lineStart) (.sequence before whole) behind
          reached

/-- Read one item. Signs of repetition in the first place stand for themselves. -/
def readItem (written : Notation) : (fuel : Nat) → (inGroup isFirst : Bool) → List Char → Nat →
    Option Reading
  | 0, _, _, _, _ => none
  | fuel + 1, inGroup, isFirst, characters, groups =>
      match nextSign written characters with
      | (.ending, rest) => some (.nothing, rest, groups)
      | (.plain character, rest) => some (.one character, rest, groups)
      | (.special sign, rest) =>
          match sign with
          | '.' => some (.any, rest, groups)
          | '[' => (readSet rest).map fun (set, behind) => (.among set, behind, groups)
          | '(' => do
              let (inside, behind, last) ← readEither written fuel true rest (groups + 1)
              match nextSign written behind with
              | (.special ')', remaining) => some (.group (groups + 1) inside, remaining, last)
              | _ => none
          | ')' => if written == .extended then some (.one ')', rest, groups) else none
          | '^' =>
              if isFirst || written == .extended then some (.lineStart, rest, groups)
              else some (.one '^', rest, groups)
          | '$' =>
              if written == .extended || isSequenceEnd written inGroup rest then
                some (.lineEnd, rest, groups)
              else some (.one '$', rest, groups)
          | other =>
              if 0x100 < other.toNat then
                some (behindBackslash (Char.ofNat (other.toNat - 0x100)), rest, groups)
              else if isFirst then some (.one other, rest, groups)
              else none

end

/-- The expression that characters spell, and the number of its groups. Alternatives may also stand
on lines of their own where that is asked for. -/
def ofCharacters? (written : Notation) (characters : List Char) : Option (Regular × Nat) :=
  match readEither written (4 * characters.length + 8) false characters 0 with
  | some (expression, [], groups) => some (expression, groups)
  | _ => none

end Regular

end GeoBridge.Shell
