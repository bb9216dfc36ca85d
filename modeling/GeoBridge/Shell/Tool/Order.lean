import GeoBridge.Shell.OctetClass
import GeoBridge.Shell.Tool.Filter

/-!
Owns the programs that put lines in order, and those that count.

Owns:
- the keys by which lines are compared, and how texts and numbers compare;
- the lines of files in order, and equal lines that follow each other;
- the counts of lines, words and octets.
-/

namespace GeoBridge.Shell

namespace Tool

/-- How keys compare: as numbers, by the letters behind them first, without blanks at the front,
without regard to case, by letters and digits only, and in descending order. -/
structure Comparison where
  byNumber : Bool := false
  byMagnitude : Bool := false
  skipsBlanks : Bool := false
  foldsCase : Bool := false
  byWords : Bool := false
  reversed : Bool := false
deriving DecidableEq, Repr

/-- A key: where it begins and ends, each by the number of a field and that of a character in it,
and how it compares. A character of zero stands for the whole field. -/
structure SortKey where
  first : Nat
  firstCharacter : Nat := 1
  last : Option (Nat × Nat) := none
  comparison : Comparison := {}
deriving DecidableEq, Repr

namespace SortKey

/-- Whether a character is a blank between fields. -/
def isFieldBlank (character : Char) : Bool := character == ' ' || character == '\t'

/-- What is left of a line behind its first field. -/
def behindField (separator : Option Char) (line : List Char) : List Char :=
  match separator with
  | some character => (line.dropWhile (· != character)).drop 1
  | none => (line.dropWhile isFieldBlank).dropWhile (!isFieldBlank ·)

/-- What is left of a line behind so many fields. -/
def behindFields (separator : Option Char) : Nat → List Char → List Char
  | 0, line => line
  | count + 1, line => behindFields separator count (behindField separator line)

/-- What is left of a line behind a field, the mark that ends the field included. -/
def fromFieldEnd (separator : Option Char) (line : List Char) : List Char :=
  match separator with
  | some character => line.dropWhile (· != character)
  | none => (line.dropWhile isFieldBlank).dropWhile (!isFieldBlank ·)

/-- The part of a line that a key is. -/
def part (key : SortKey) (separator : Option Char) (line : List Char) : List Char :=
  let skip := fun (text : List Char) =>
    if key.comparison.skipsBlanks then text.dropWhile isFieldBlank else text
  let begun := (skip (behindFields separator (key.first - 1) line)).drop (key.firstCharacter - 1)
  match key.last with
  | none => begun
  | some (field, character) =>
      let before := behindFields separator (field - 1) line
      let rest :=
        if character == 0 then fromFieldEnd separator before else (skip before).drop character
      begun.take (begun.length - rest.length)

/-- The letters of options as a comparison. -/
def comparisonOf (letters : List Char) : Comparison :=
  { byNumber := letters.any "ngh".toList.contains, byMagnitude := letters.contains 'h'
    skipsBlanks := letters.contains 'b', foldsCase := letters.contains 'f'
    byWords := letters.contains 'd'
    reversed := letters.contains 'r' }

/-- The position that a text spells: a field, a character if there is one, and letters. -/
def position? (text : List Char) : Option (Nat × Option Nat × List Char) := do
  let digits := text.takeWhile Char.isDigit
  let field ← String.toNat? (String.ofList digits)
  match text.drop digits.length with
  | '.' :: rest =>
      let further := rest.takeWhile Char.isDigit
      let character ← String.toNat? (String.ofList further)
      some (field, some character, rest.drop further.length)
  | rest => some (field, none, rest)

/-- The key that a text spells. Without letters of its own it compares as all keys do. -/
def ofText? (common : Comparison) (text : String) : Option SortKey := do
  let characters := text.toList
  let (first, firstCharacter, letters) ← position? (characters.takeWhile (· != ','))
  let (last, others) ← match characters.dropWhile (· != ',') with
    | [] => some (none, [])
    | _ :: rest =>
        (position? rest).map fun (field, character, others) =>
          (some (field, character.getD 0), others)
  if first == 0 then none
  else
    let all := letters ++ others
    some ⟨first, firstCharacter.getD 1, last, if all.isEmpty then common else comparisonOf all⟩

end SortKey

/-- The number at the front of a text as an integer and the count of its places. -/
def leadingNumber (text : List Char) : Int × Nat :=
  let (negative, rest) := match text.dropWhile SortKey.isFieldBlank with
    | '-' :: rest => (true, rest)
    | rest => (false, rest)
  let whole := rest.takeWhile Char.isDigit
  let places := match rest.drop whole.length with
    | '.' :: behind => behind.takeWhile Char.isDigit
    | _ => []
  let value :=
    ((whole ++ places).foldl (fun value digit => value * 10 + (digit.toNat - 48)) 0 : Nat)
  (if negative then -(value : Int) else value, places.length)

/-- The magnitude that the letter behind a number gives it, with the sign of the number. -/
def magnitudeOf (text : List Char) : Int :=
  let isPart := fun (character : Char) => character.isDigit || character == '.' || character == '-'
  let letter := ((text.dropWhile SortKey.isFieldBlank).dropWhile isPart).headD ' '
  let rank := if letter == 'k' then 1 else ("KMGTPEZY".toList.idxOf letter + 1) % 9
  (leadingNumber text).1.sign * rank

/-- The order of two texts by their characters. -/
def compareTexts (first second : List Char) : Ordering :=
  compare (String.ofList first) (String.ofList second)

/-- The order of two keys. -/
def Comparison.order (comparison : Comparison) (first second : List Char) : Ordering :=
  let plain := fun (text : List Char) =>
    let words :=
      if comparison.byWords then
        text.filter fun character => character.isAlphanum || SortKey.isFieldBlank character
      else text
    if comparison.foldsCase then words.map Char.toUpper else words
  let found :=
    if comparison.byNumber then
      let (left, leftPlaces) := leadingNumber first
      let (right, rightPlaces) := leadingNumber second
      let byValue := compare (left * Decimal.tenTo rightPlaces) (right * Decimal.tenTo leftPlaces)
      if comparison.byMagnitude then
        (compare (magnitudeOf first) (magnitudeOf second)).then byValue
      else byValue
    else compareTexts (plain first) (plain second)
  if comparison.reversed then found.swap else found

/-- The order of two lines by keys, of which the first that differs decides. -/
def orderByKeys (separator : Option Char) (keys : List SortKey) (first second : List Char) :
    Ordering :=
  keys.foldl (fun found key =>
    found.then (key.comparison.order (key.part separator first) (key.part separator second))) .eq

/-- Lines without those that are equal to the one before them. -/
def withoutEqual (isEqual : List Char → List Char → Bool) : List (List Char) → List (List Char)
  | first :: second :: rest =>
      if isEqual first second then withoutEqual isEqual (first :: rest)
      else first :: withoutEqual isEqual (second :: rest)
  | lines => lines
termination_by lines => lines.length

/-- The letters of options without a value, with their names. -/
def orderLetters : List (Char × String) :=
  [('n', "numeric-sort"), ('g', "general-numeric-sort"), ('h', "human-numeric-sort"),
   ('r', "reverse"), ('f', "ignore-case"), ('b', "ignore-leading-blanks"),
   ('d', "dictionary-order")]

/-- Write the lines of files in order. -/
def sort : Tool :=
  let forms := orderLetters.map (fun (letter, long) => flag long (some letter))
    ++ [flag "unique" 'u', flag "stable" 's', flag "check" 'c', flag "merge" 'm',
      setting "key" 'k', setting "field-separator" 't', setting "output" 'o']
  withOptions forms 2 fun name given => do
    let letters := (orderLetters.filter fun entry => given.isGiven ("--" ++ entry.2)).map Prod.fst
    let common := SortKey.comparisonOf letters
    let separator := (given.value? "--field-separator").bind fun text =>
      if text == "\\0" then some '\x00' else text.toList.head?
    match (given.values "--key").mapM (SortKey.ofText? common) with
    | none => do
        complain name ("invalid number at field start: invalid count at start of "
          ++ marked ((given.value? "--key").getD ""))
        pure 2
    | some listed => do
        let keys := if listed.isEmpty then [⟨1, 1, none, common⟩] else listed
        let byKeys := orderByKeys separator keys
        let isUnique := given.isGiven "--unique"
        let total := fun (first second : List Char) =>
          if isUnique || given.isGiven "--stable" then byKeys first second
          else
            (byKeys first second).then
              (if common.reversed then (compareTexts first second).swap
                else compareTexts first second)
        let state ← get
        let tell := fun (file : String) (obstacle : Obstacle) => match obstacle with
          | .isDirectory => "read failed: " ++ plainly file obstacle
          | _ => "cannot read: " ++ plainly file obstacle
        let missing := given.operands.find? fun file =>
          file != "-" && (deviceAt? state.workspace (pathOf file)).isNone
            && !(state.workspace.read (pathOf file)).isOk
        match missing with
        | some file => eachFile name 2 tell [file] fun _ => pure ()
        | none => do
            let gathered ← (if given.operands.isEmpty then ["-"] else given.operands).mapM
              fun (file : String) => Run.withFile file Lines.read
            let lines := gathered.flatMap fun text => (text.toOption.getD {}).lines
            if given.isGiven "--check" then
              match (lines.zip (lines.drop 1)).findIdx? fun pair =>
                total pair.1 pair.2 == .gt || (isUnique && total pair.1 pair.2 == .eq) with
              | some place => do
                  complain name (given.operands.headD "-" ++ ":" ++ toString (place + 2)
                    ++ ": disorder: " ++ String.ofList (lines.getD (place + 1) []))
                  pure 1
              | none => pure 0
            else
              let ordered := lines.mergeSort fun first second => total first second != .gt
              let kept :=
                if isUnique then
                  withoutEqual (fun first second => byKeys first second == .eq) ordered
                else ordered
              match given.value? "--output" with
              | none => do
                  Lines.write ⟨kept, true⟩
                  pure 0
              | some path => do
                  match ← Run.openOutput (pathOf path) false true with
                  | .ok sink => do
                      let current ← get
                      Run.withSinks (current.sinks.put 1 sink) (Lines.write ⟨kept, true⟩)
                      pure 0
                  | .error obstacle => do
                      complain name ("open failed: " ++ plainly path obstacle)
                      pure 2

/-- Equal lines that follow each other, with their counts. -/
def runs (isEqual : List Char → List Char → Bool) (lines : List (List Char)) :
    List (Nat × List Char) :=
  (lines.foldl (fun found line =>
    match found with
    | (count, first) :: others =>
        if isEqual first line then (count + 1, first) :: others else (1, line) :: found
    | [] => [(1, line)]) []).reverse

/-- Write lines of which equal ones that follow each other count as one. -/
def uniq : Tool :=
  let forms := [flag "count" 'c', flag "repeated" 'd', flag "unique" 'u', flag "ignore-case" 'i',
    setting "skip-fields" 'f', setting "skip-chars" 's', setting "check-chars" 'w']
  withOptions forms 1 fun name given => do
    let number := fun (long : String) => (given.value? long).bind count?
    let part := fun (line : List Char) =>
      let behind := (SortKey.behindFields none ((number "--skip-fields").getD 0) line).drop
        ((number "--skip-chars").getD 0)
      let kept := match number "--check-chars" with
        | some count => behind.take count
        | none => behind
      if given.isGiven "--ignore-case" then kept.map Char.toLower else kept
    let work : Run Unit := do
      let text ← Lines.read
      let chosen := (runs (fun first second => part first == part second) text.lines).filter
        fun (count, _) =>
          (!given.isGiven "--repeated" || 1 < count) && (!given.isGiven "--unique" || count == 1)
      Lines.write ⟨chosen.map fun (count, line) =>
        if given.isGiven "--count" then numberedCount count line else line, true⟩
    let status ← eachFile name 1 plainly (given.operands.take 1) fun _ => do
      match given.operands[1]? with
      | none => work
      | some path =>
          match ← Run.openOutput (pathOf path) false true with
          | .ok sink => do
              let current ← get
              Run.withSinks (current.sinks.put 1 sink) work
          | .error obstacle => complain name (plainly path obstacle)
    pure status
where
  /-- A line behind the count of its repetitions. -/
  numberedCount (count : Nat) (line : List Char) : List Char :=
    let digits := Nat.toDigits 10 count
    List.replicate (7 - digits.length) ' ' ++ digits ++ ' ' :: line

/-- The counts of a text: lines, words, characters, octets, and the length of the longest line. -/
structure Counts where
  lines : Nat := 0
  words : Nat := 0
  characters : Nat := 0
  octets : Nat := 0
  longest : Nat := 0
deriving DecidableEq, Repr

namespace Counts

/-- The counts of characters, each of which is an octet. -/
def ofCharacters (characters : List Char) : Counts :=
  let (words, _) := characters.foldl (fun (words, inWord) character =>
    if isSpace character then (words, false) else (if inWord then words else words + 1, true))
    (0, false)
  { lines := characters.count '\n', words
    characters := characters.countP fun character => character.toNat / 64 != 2
    octets := characters.length
    longest := ((Lines.ofCharacters characters).lines.map List.length).foldl max 0 }

/-- The counts of two texts taken together. -/
def add (first second : Counts) : Counts :=
  ⟨first.lines + second.lines, first.words + second.words, first.characters + second.characters,
    first.octets + second.octets, max first.longest second.longest⟩

end Counts

/-- Count the lines, words and octets of files. -/
def wc : Tool :=
  let names := ["lines", "words", "chars", "bytes", "max-line-length"]
  let forms := [flag "lines" 'l', flag "words" 'w', flag "chars" 'm', flag "bytes" 'c',
    flag "max-line-length" 'L']
  withOptions forms 1 fun name given => do
    let asked := names.filter fun long => given.isGiven ("--" ++ long)
    let chosen := if asked.isEmpty then ["lines", "words", "bytes"] else asked
    let state ← get
    let sizes := given.operands.filterMap fun file =>
      (state.workspace.read (pathOf file)).toOption.map List.length
    let isRegular := given.operands.all fun file =>
      file != "-" && (deviceAt? state.workspace (pathOf file)).isNone
    let width :=
      if given.operands.length ≤ 1 && chosen.length == 1 then 1
      else if given.operands.isEmpty || !isRegular then 7
      else (Nat.toDigits 10 (sizes.foldl (· + ·) 0)).length
    let report := fun (counts : Counts) (label : String) =>
      let values := chosen.map fun long => match long with
        | "lines" => counts.lines
        | "words" => counts.words
        | "chars" => counts.characters
        | "bytes" => counts.octets
        | _ => counts.longest
      let texts := values.map fun value =>
        let digits := Nat.toDigits 10 value
        String.ofList (List.replicate (width - digits.length) ' ' ++ digits)
      Run.printLine (" ".intercalate texts ++ label)
    let rec go : List String → Counts → Nat → Run (Counts × Nat)
      | [], total, status => pure (total, status)
      | file :: rest, total, status => do
          match ← Run.withFile file Run.readInput with
          | .ok octets => do
              let counts := Counts.ofCharacters (octets.map fun octet => Char.ofNat octet.toNat)
              report counts (if given.operands.isEmpty then "" else " " ++ file)
              go rest (total.add counts) status
          | .error obstacle => do
              complain name (plainly file obstacle)
              if obstacle == .isDirectory then report {} (" " ++ file)
              go rest total 1
    let (total, status) ← go (if given.operands.isEmpty then ["-"] else given.operands) {} 0
    if 1 < given.operands.length then report total " total"
    pure status

end Tool

end GeoBridge.Shell
