import GeoBridge.Shell.Number
import GeoBridge.Shell.Opening

/-!
Owns the conditions that scripts test.

Owns:
- the operators with one operand and with two, and when a word is one of them;
- the reading of a condition by its operands, negations, conjunctions and disjunctions;
- the wording of what is wrong with a condition.
-/

namespace GeoBridge.Shell

namespace Condition

/-- The operators before one operand. -/
def unaryOperators : List String :=
  ["-r", "-w", "-x", "-e", "-f", "-d", "-c", "-b", "-p", "-u", "-g", "-k", "-s", "-t", "-z", "-n",
   "-h", "-O", "-G", "-L", "-S"]

/-- The comparisons of integers. -/
def comparisons : List (String × (Int → Int → Bool)) :=
  [("-eq", fun left right => left == right), ("-ne", fun left right => left != right),
   ("-lt", fun left right => decide (left < right)),
   ("-le", fun left right => decide (left ≤ right)),
   ("-gt", fun left right => decide (right < left)),
   ("-ge", fun left right => decide (right ≤ left))]

/-- The comparisons of texts. -/
def textComparisons : List (String × (String → String → Bool)) :=
  [("=", fun left right => left == right), ("!=", fun left right => left != right),
   ("<", fun left right => decide (left < right)), (">", fun left right => decide (right < left)),
   ("-nt", fun _ _ => false), ("-ot", fun _ _ => false),
   ("-ef", fun left right => left == right)]

/-- Whether a word is an operator between two operands. -/
def isBinary (word : String) : Bool :=
  (comparisons.lookup word).isSome || (textComparisons.lookup word).isSome

/-- What a word is at its place. -/
inductive Role where
  | ending
  | operand
  | unary
  | negation
  | conjunction
  | disjunction
  | opening
  | closing
  | binary
deriving DecidableEq, Repr

/-- What the first of some words is. An operator before one operand is an operand itself where
nothing or an operator between two follows, and so is a last parenthesis. -/
def role : List String → Role
  | [] => .ending
  | word :: rest =>
      if word == "!" then .negation
      else if word == "-a" then .conjunction
      else if word == "-o" then .disjunction
      else if word == "(" then if rest.isEmpty then .operand else .opening
      else if word == ")" then .closing
      else if isBinary word then .binary
      else if unaryOperators.contains word then
        match rest with
        | [] => .operand
        | [_] => .unary
        | next :: _ => if isBinary next then .operand else .unary
      else .operand

/-- The integer of an operand. -/
def integerOf (text : String) : Except String Int :=
  match integerOf? text with
  | some value =>
      if wrapped value = value then .ok value else .error ("Illegal number: " ++ text)
  | none => .error ("Illegal number: " ++ text)

/-- Whether there is a program at a path. -/
def isProgramAt (state : State) (path : String) : Bool :=
  match state.workspace.locate (pathOf path) with
  | .ok place =>
      programDirectories.contains place.dropLast && programNames.contains (place.getLastD "")
  | .error _ => false

/-- Whether a file is as an operator wants it. -/
def judgeFile (state : State) (operator path : String) : Bool :=
  let isDevice := (deviceAt? state.workspace (pathOf path)).isSome
  match (state.workspace.inspect (pathOf path)).toOption with
  | none => false
  | some entry =>
      !path.isEmpty && match operator with
      | "-e" | "-r" | "-w" | "-O" | "-G" => true
      | "-d" => entry == .directory
      | "-x" => entry == .directory || isProgramAt state path
      | "-f" => entry != .directory && !isDevice
      | "-s" => isProgramAt state path || entry != .file []
      | "-c" => isDevice
      | _ => false

/-- Whether an operator holds of an operand. -/
def judgeOne (state : State) (operator operand : String) : Except String Bool :=
  match operator with
  | "-z" => .ok operand.isEmpty
  | "-n" => .ok (!operand.isEmpty)
  | "-t" => (integerOf operand).map fun _ => false
  | _ => .ok (judgeFile state operator operand)

/-- Whether two paths lead to the same file. -/
def areSame (state : State) (first second : String) : Bool :=
  match state.workspace.locate (pathOf first), state.workspace.locate (pathOf second) with
  | .ok left, .ok right => left == right && (state.workspace.entryAt? left).isSome
  | _, _ => false

/-- Whether an operator holds between two operands. -/
def judgeTwo (state : State) (operator left right : String) : Except String Bool :=
  match comparisons.lookup operator, textComparisons.lookup operator with
  | _, some holds =>
      if operator == "-ef" then .ok (areSame state left right) else .ok (holds left right)
  | some holds, none => do .ok (holds (← integerOf left) (← integerOf right))
  | none, none => .ok false

mutual

/-- The truth of words joined by disjunctions, given what the first of them is, and the words from
the last one used on. Every step uses up a word. -/
def either (state : State) : (fuel : Nat) → Role → List String →
    Except String (Bool × List String)
  | 0, _, words => .ok (false, words)
  | fuel + 1, first, words => do
      let (holds, rest) ← both state fuel first words
      if role rest.tail == .disjunction then
        let (further, last) ← either state fuel (role (rest.drop 2)) (rest.drop 2)
        .ok (holds || further, last)
      else .ok (holds, rest)

/-- The truth of words joined by conjunctions. -/
def both (state : State) : (fuel : Nat) → Role → List String →
    Except String (Bool × List String)
  | 0, _, words => .ok (false, words)
  | fuel + 1, first, words => do
      let (holds, rest) ← negated state fuel first words
      if role rest.tail == .conjunction then
        let (further, last) ← both state fuel (role (rest.drop 2)) (rest.drop 2)
        .ok (holds && further, last)
      else .ok (holds, rest)

/-- The truth of words behind negations. -/
def negated (state : State) : (fuel : Nat) → Role → List String →
    Except String (Bool × List String)
  | 0, _, words => .ok (false, words)
  | fuel + 1, first, words =>
      if first != .negation then primary state fuel first words
      else do
        let next := role words.tail
        let (holds, rest) ←
          negated state fuel next (if next == .ending then words else words.tail)
        .ok (!holds, rest)

/-- The truth of a single condition. -/
def primary (state : State) : (fuel : Nat) → Role → List String →
    Except String (Bool × List String)
  | 0, _, words => .ok (false, words)
  | _, _, [] => .ok (false, [])
  | fuel + 1, first, word :: rest =>
      match first with
      | .ending => .ok (false, word :: rest)
      | .opening =>
          if role rest == .closing then .ok (false, rest)
          else do
            let (holds, last) ← either state fuel (role rest) rest
            if role last.tail == .closing then .ok (holds, last.tail)
            else .error "closing paren expected"
      | .unary =>
          match rest with
          | [] => .error (word ++ ": argument expected")
          | operand :: _ => (judgeOne state word operand).map fun holds => (holds, rest)
      | _ =>
          if role rest == .binary then
            match rest with
            | operator :: right :: behind =>
                (judgeTwo state operator word right).map fun holds => (holds, right :: behind)
            | operator :: [] => .error (operator ++ ": argument expected")
            | [] => .ok (!word.isEmpty, word :: rest)
          else .ok (!word.isEmpty, word :: rest)

end

/-- The truth of all words, the first of which is given its role. -/
def judgeAll (state : State) (first : Role) (words : List String) : Except String Bool := do
  match ← either state (4 * words.length + 4) first words with
  | (_, last :: _ :: _) =>
      .error (if last.isEmpty then "unexpected operator" else last ++ ": unexpected operator")
  | (holds, _) => .ok holds

/-- The words of a condition without the parentheses around it, and what the first of them is. Of
three words the middle one decides, if it stands between two operands. -/
def opened (words : List String) : Role × List String :=
  let enclosed := words.head? == some "(" && words.getLast? == some ")"
  match words with
  | [_, operator, _] =>
      if isBinary operator then (.operand, words)
      else if enclosed then (role [operator], [operator])
      else (role words, words)
  | [_, second, third, _] =>
      if enclosed then (role [second, third], [second, third]) else (role words, words)
  | _ => (role words, words)

/-- The truth of a condition. Before few words all negations count as one. -/
def judge (state : State) (isNegated : Bool) : List String → Except String Bool
  | [] => .ok isNegated
  | word :: rest =>
      let (first, words) := opened (word :: rest)
      if first == .negation && (rest.length == 2 || rest.length == 3) then
        judge state true rest
      else (judgeAll state first words).map fun holds => holds != isNegated

end Condition

end GeoBridge.Shell
