import GeoBridge.Decimal.Power
import GeoBridge.Shell.Word

/-!
Owns the integers of shell scripts, which wrap around at sixty-four bits.

Owns:
- integers as written: decimal, octal after a zero, hexadecimal after a zero and an x;
- arithmetic expressions over integers and variables, and their reading;
- the values of expressions, which assign variables and leave out what does not count.
-/

namespace GeoBridge.Shell

/-- An integer brought into the range of sixty-four bits with a sign. -/
def wrapped (value : Int) : Int := value.bmod (Decimal.twoTo 64)

/-- The value of a digit in a base up to sixteen. -/
def digitIn? (base : Nat) (character : Char) : Option Nat :=
  let value :=
    if character.isDigit then character.toNat - 48
    else if 'a' ≤ character && character ≤ 'f' then character.toNat - 87
    else if 'A' ≤ character && character ≤ 'F' then character.toNat - 55
    else base
  if value < base then some value else none

/-- The value of the digits at the front, and the rest. -/
def digitsIn (base : Nat) : (value : Nat) → List Char → Nat × List Char
  | value, [] => (value, [])
  | value, character :: rest =>
      match digitIn? base character with
      | some digit => digitsIn base (value * base + digit) rest
      | none => (value, character :: rest)

/-- The integer at the front of characters without a sign, if there is one, and the rest. -/
def leadingNatural? : List Char → Option (Nat × List Char)
  | '0' :: mark :: digit :: rest =>
      if (mark == 'x' || mark == 'X') && (digitIn? 16 digit).isSome then
        some (digitsIn 16 0 (digit :: rest))
      else some (digitsIn 8 0 (mark :: digit :: rest))
  | '0' :: rest => some (digitsIn 8 0 rest)
  | character :: rest =>
      if character.isDigit then some (digitsIn 10 0 (character :: rest)) else none
  | [] => none

/-- The integer at the front of characters with a sign, if there is one, and the rest. -/
def leadingInteger? (characters : List Char) : Option (Int × List Char) :=
  match characters.dropWhile fun character => " \t\n".toList.contains character with
  | '-' :: rest => (leadingNatural? rest).map fun (value, behind) => (-(value : Int), behind)
  | '+' :: rest => (leadingNatural? rest).map fun (value, behind) => ((value : Int), behind)
  | rest => (leadingNatural? rest).map fun (value, behind) => ((value : Int), behind)

/-- The natural number that a text spells in decimal, between blanks. -/
def naturalOf? (text : String) : Option Nat :=
  let digits := (text.toList.dropWhile (· == ' ')).reverse.dropWhile (· == ' ')
  if digits.isEmpty || !digits.all Char.isDigit then none
  else some (digitsIn 10 0 digits.reverse).1

/-- The integer that a text spells in decimal. -/
def integerOf? (text : String) : Option Int :=
  match text.toList.dropWhile (· == ' ') with
  | '-' :: rest => (naturalOf? (String.ofList rest)).map fun value => -(value : Int)
  | '+' :: rest => (naturalOf? (String.ofList rest)).map fun value => (value : Int)
  | rest => (naturalOf? (String.ofList rest)).map fun value => (value : Int)

/-- The operators between two operands with their ranks, a higher one binding closer. Longer
operators stand before those they begin with. -/
def rankedOperators : List (String × Nat) :=
  [("||", 1), ("&&", 2), ("==", 6), ("!=", 6), ("<<", 8), (">>", 8), ("<=", 7), (">=", 7),
   ("|", 3), ("^", 4), ("&", 5), ("<", 7), (">", 7), ("+", 9), ("-", 9), ("*", 10), ("/", 10),
   ("%", 10)]

/-- The operators that assign, each with the one that is applied before. -/
def assigningOperators : List (String × Option String) :=
  [("<<=", some "<<"), (">>=", some ">>"), ("+=", some "+"), ("-=", some "-"), ("*=", some "*"),
   ("/=", some "/"), ("%=", some "%"), ("&=", some "&"), ("|=", some "|"), ("^=", some "^"),
   ("=", none)]

/-- The truth of a condition as an integer. -/
def truthOf (condition : Bool) : Int := if condition then 1 else 0

/-- Why an expression has no value. -/
inductive ExpressionFault where
  | divisionByZero
  | noOperand
  | noColon
  | notOver
  | illegalNumber (text : String)
deriving DecidableEq, Repr

/-- The wording, with the expression as it is written. -/
def ExpressionFault.message (expression : String) : ExpressionFault → String
  | .illegalNumber text => "Illegal number: " ++ text
  | .divisionByZero => "arithmetic expression: division by zero: \"" ++ expression ++ "\""
  | .noOperand => "arithmetic expression: expecting primary: \"" ++ expression ++ "\""
  | .noColon => "arithmetic expression: expecting ':': \"" ++ expression ++ "\""
  | .notOver => "arithmetic expression: expecting EOF: \"" ++ expression ++ "\""

/-- The value of an operator applied to two operands. -/
def apply (operator : String) (left right : Int) : Except ExpressionFault Int :=
  match operator with
  | "==" => .ok (truthOf (left == right))
  | "!=" => .ok (truthOf (left != right))
  | "<" => .ok (truthOf (left < right))
  | ">" => .ok (truthOf (right < left))
  | "<=" => .ok (truthOf (left ≤ right))
  | ">=" => .ok (truthOf (right ≤ left))
  | "+" => .ok (wrapped (left + right))
  | "-" => .ok (wrapped (left - right))
  | "*" => .ok (wrapped (left * right))
  | "/" => if right == 0 then .error .divisionByZero else .ok (wrapped (left.tdiv right))
  | "%" => if right == 0 then .error .divisionByZero else .ok (left.tmod right)
  | "<<" => .ok (wrapped (left * Decimal.twoTo (right % 64).toNat))
  | ">>" => .ok (left / Decimal.twoTo (right % 64).toNat)
  | "&" => .ok ((BitVec.ofInt 64 left &&& BitVec.ofInt 64 right).toInt)
  | "|" => .ok ((BitVec.ofInt 64 left ||| BitVec.ofInt 64 right).toInt)
  | _ => .ok ((BitVec.ofInt 64 left ^^^ BitVec.ofInt 64 right).toInt)

/-- An expression. -/
inductive Expression where
  | number (value : Int)
  | variable (name : String)
  | opposite (sign : Char) (operand : Expression)
  | both (left right : Expression)
  | either (left right : Expression)
  | applied (operator : String) (left right : Expression)
  | conditional (condition whenTrue whenFalse : Expression)
  | assigned (name : String) (operator : Option String) (value : Expression)
deriving Repr

/-- Characters without the blanks at their front. -/
def withoutBlanks (characters : List Char) : List Char :=
  characters.dropWhile fun character => " \t\n".toList.contains character

namespace Expression

/-- The expression of an operator between two operands. -/
def ofOperator (operator : String) (left right : Expression) : Expression :=
  match operator with
  | "||" => .either left right
  | "&&" => .both left right
  | _ => .applied operator left right

/-- The name at the front of characters, with the operator that assigns it. -/
def leadingAssignment? (characters : List Char) : Option (String × Option String × List Char) :=
  let name := characters.takeWhile isNameCharacter
  let rest := withoutBlanks (characters.drop name.length)
  if !isName name || "==".toList.isPrefixOf rest then none
  else
    (assigningOperators.find? fun entry => entry.1.toList.isPrefixOf rest).map fun entry =>
      (String.ofList name, entry.2, rest.drop entry.1.length)

mutual

/-- Read an expression, and give what comes behind it. Every step uses up a character or raises
the rank. -/
def readWhole : (fuel : Nat) → List Char → Except ExpressionFault (Expression × List Char)
  | 0, _ => .error .noOperand
  | fuel + 1, written => do
      let characters := withoutBlanks written
      match leadingAssignment? characters with
      | some (name, operator, rest) => do
          let (value, behind) ← readWhole fuel rest
          .ok (.assigned name operator value, behind)
      | none => do
          let (condition, rest) ← readRank fuel 1 characters
          match withoutBlanks rest with
          | '?' :: chosen => do
              let (whenTrue, behind) ← readWhole fuel chosen
              match withoutBlanks behind with
              | ':' :: other => do
                  let (whenFalse, remaining) ← readWhole fuel other
                  .ok (.conditional condition whenTrue whenFalse, remaining)
              | _ => .error .noColon
          | _ => .ok (condition, rest)

/-- Read an expression of operators of at least a rank. -/
def readRank : (fuel rank : Nat) → List Char → Except ExpressionFault (Expression × List Char)
  | 0, _, _ => .error .noOperand
  | fuel + 1, rank, characters => do
      let (left, rest) ←
        if 10 < rank then readOperand fuel characters else readRank fuel (rank + 1) characters
      continueRank fuel rank left rest

/-- Apply the further operators of a rank, from the left. -/
def continueRank : (fuel rank : Nat) → Expression → List Char →
    Except ExpressionFault (Expression × List Char)
  | 0, _, left, rest => .ok (left, rest)
  | fuel + 1, rank, left, rest =>
      let characters := withoutBlanks rest
      match rankedOperators.find? fun entry => entry.1.toList.isPrefixOf characters with
      | none => .ok (left, rest)
      | some (operator, found) =>
          if found != rank then .ok (left, rest)
          else do
            let (right, behind) ← readRank fuel (rank + 1) (characters.drop operator.length)
            continueRank fuel rank (ofOperator operator left right) behind

/-- Read an operand. -/
def readOperand : (fuel : Nat) → List Char → Except ExpressionFault (Expression × List Char)
  | 0, _ => .error .noOperand
  | fuel + 1, written =>
      match withoutBlanks written with
      | '(' :: rest => do
          let (inside, behind) ← readWhole fuel rest
          match withoutBlanks behind with
          | ')' :: further => .ok (inside, further)
          | _ => .error .noOperand
      | character :: rest =>
          if "+-!~".toList.contains character then do
            let (operand, behind) ← readOperand fuel rest
            .ok (.opposite character operand, behind)
          else if character.isDigit then
            match leadingNatural? (character :: rest) with
            | some (value, behind) => .ok (.number (min value (Decimal.twoTo 63 - 1)), behind)
            | none => .error .noOperand
          else if isNameCharacter character then
            let name := character :: rest.takeWhile isNameCharacter
            .ok (.variable (String.ofList name), rest.dropWhile isNameCharacter)
          else .error .noOperand
      | [] => .error .noOperand

end

/-- The expression that characters spell from the first to the last. -/
def ofCharacters (characters : List Char) : Except ExpressionFault Expression := do
  let (expression, rest) ← readWhole (14 * (characters.length + 2)) characters
  if (withoutBlanks rest).isEmpty then .ok expression else .error .notOver

/-- The integer of sixty-four bits that a text stands for. Blanks may stand around it. -/
def integerOfValue (text : String) : Except ExpressionFault Int :=
  match leadingInteger? text.toList with
  | some (value, rest) =>
      if (withoutBlanks rest).isEmpty && wrapped value == value then .ok value
      else .error (.illegalNumber text)
  | none =>
      if (withoutBlanks text.toList).isEmpty then .ok 0 else .error (.illegalNumber text)

/-- The assignments made so far, last first, before the values that variables had. -/
abbrev Valuation := List (String × Int)

/-- Assign a variable. -/
def assign (name : String) (value : Int) : StateT Valuation (Except ExpressionFault) Int := do
  modify ((name, value) :: ·)
  pure value

/-- The value of a variable after the assignments so far. -/
def valueOf (given : String → Option String) (name : String) :
    StateT Valuation (Except ExpressionFault) Int := do
  match (← get).lookup name with
  | some value => pure value
  | none => StateT.lift (integerOfValue ((given name).getD ""))

/-- The value of an expression, given those of variables. -/
def evaluate (given : String → Option String) : Expression →
    StateT Valuation (Except ExpressionFault) Int
  | .number value => pure value
  | .variable name => valueOf given name
  | .opposite sign operand => do
      let value ← evaluate given operand
      pure (match sign with
        | '-' => wrapped (-value)
        | '!' => truthOf (value == 0)
        | '~' => -value - 1
        | _ => value)
  | .both left right => do
      if (← evaluate given left) == 0 then pure 0
      else return truthOf ((← evaluate given right) != 0)
  | .either left right => do
      if (← evaluate given left) != 0 then pure 1
      else return truthOf ((← evaluate given right) != 0)
  | .applied operator left right => do
      let first ← evaluate given left
      let second ← evaluate given right
      StateT.lift (apply operator first second)
  | .conditional condition whenTrue whenFalse => do
      if (← evaluate given condition) != 0 then evaluate given whenTrue
      else evaluate given whenFalse
  | .assigned name none value => do assign name (← evaluate given value)
  | .assigned name (some operator) value => do
      let second ← evaluate given value
      let first ← valueOf given name
      assign name (← StateT.lift (apply operator first second))

/-- The value of the expression that characters spell, and the assignments it makes, in order. -/
def calculate (given : String → Option String) (characters : List Char) :
    Except ExpressionFault (Int × Valuation) := do
  let expression ← ofCharacters characters
  let (value, made) ← (evaluate given expression).run []
  .ok (value, made.reverse)

end Expression

end GeoBridge.Shell
