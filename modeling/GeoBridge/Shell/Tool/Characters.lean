import GeoBridge.Shell.OctetClass
import GeoBridge.Shell.Tool.Filter

/-!
Owns the programs that change texts character by character and column by column.

Owns:
- the lists of characters that programs are given, and their exchange, loss and joining;
- the columns of lines, by fields or by octets;
- the lines of files side by side.
-/

namespace GeoBridge.Shell

namespace Tool

/-- An item of a list of characters: a character, a range of them, a class, or a character repeated,
perhaps as often as is needed. -/
inductive ListItem where
  | one (character : Char)
  | range (first last : Char)
  | kind (name : String)
  | repeated (character : Char) (count : Nat)
deriving DecidableEq, Repr

/-- A character behind a backslash, and the rest. -/
def escapedCharacter : List Char → Char × List Char
  | [] => ('\\', [])
  | character :: rest =>
      let digits := ((character :: rest).take 3).takeWhile fun digit => '0' ≤ digit && digit ≤ '7'
      if !digits.isEmpty then
        (Char.ofNat (digits.foldl (fun value digit => value * 8 + (digit.toNat - 48)) 0 % 256),
          (character :: rest).drop digits.length)
      else
        let letters : List (Char × Nat) :=
          [('a', 7), ('b', 8), ('f', 12), ('n', 10), ('r', 13), ('t', 9), ('v', 11)]
        (((letters.lookup character).map Char.ofNat).getD character, rest)

/-- The character at the front of a list, and the rest. -/
def nextCharacter : List Char → Option (Char × List Char)
  | [] => none
  | '\\' :: rest => some (escapedCharacter rest)
  | character :: rest => some (character, rest)

/-- The item between brackets, and the rest. -/
def bracketItem? (characters : List Char) : Option (ListItem × List Char) :=
  match characters with
  | '[' :: ':' :: rest =>
      let name := rest.takeWhile (· != ':')
      match rest.drop name.length with
      | ':' :: ']' :: behind => some (.kind (String.ofList name), behind)
      | _ => none
  | '[' :: '=' :: character :: '=' :: ']' :: behind => some (.one character, behind)
  | '[' :: rest => do
      let (character, further) ← nextCharacter rest
      match further with
      | '*' :: behind =>
          let digits := behind.takeWhile Char.isDigit
          match behind.drop digits.length with
          | ']' :: remaining =>
              some (.repeated character ((String.toNat? (String.ofList digits)).getD 0), remaining)
          | _ => none
      | _ => none
  | _ => none

/-- The items of a list of characters. Every step uses up a character. -/
def listItems : (fuel : Nat) → List Char → List ListItem
  | 0, _ => []
  | fuel + 1, characters =>
      match bracketItem? characters with
      | some (item, rest) => item :: listItems fuel rest
      | none =>
          match nextCharacter characters with
          | none => []
          | some (first, '-' :: behind) =>
              match nextCharacter behind with
              | some (last, rest) => .range first last :: listItems fuel rest
              | none => .one first :: listItems fuel ('-' :: behind)
          | some (first, rest) => .one first :: listItems fuel rest

/-- All octets in ascending order. -/
def allOctets : List Char := (List.range 256).map Char.ofNat

namespace ListItem

/-- The characters of an item. One that is repeated as often as needed counts as often as is
given. -/
def characters (needed : Nat) : ListItem → List Char
  | .one character => [character]
  | .range first last =>
      (List.range (last.toNat + 1 - first.toNat)).map fun offset =>
        Char.ofNat (first.toNat + offset)
  | .kind name => allOctets.filter (isOfClass name)
  | .repeated character count => List.replicate (if count == 0 then needed else count) character

/-- Why an item makes no sense, if it does not. -/
def fault? : ListItem → Option String
  | .range first last =>
      if last.toNat < first.toNat then
        some ("range-endpoints of '" ++ String.ofList [first, '-', last]
          ++ "' are in reverse collating sequence order")
      else none
  | .kind name =>
      if (octetClasses.lookup name).isNone then
        some ("invalid character class " ++ marked name)
      else none
  | _ => none

end ListItem

/-- The characters of a list, which is to have a length if that can be. -/
def listed (length : Nat) (items : List ListItem) : List Char :=
  let fixed := items.flatMap (ListItem.characters 0)
  items.flatMap (ListItem.characters (length - fixed.length))

/-- Characters of which those that repeat the one before them are left out, if they are among some
that are joined. -/
def joined (joins : Char → Bool) (characters : List Char) : List Char :=
  (characters.foldl (fun (found : List Char) character =>
    if found.head? == some character && joins character then found else character :: found)
    []).reverse

/-- Exchange, leave out and join characters of the input. -/
def exchange : Tool :=
  let forms := [flag "delete" 'd', flag "squeeze-repeats" 's', flag "complement" 'c',
    flag "upper-complement" 'C', flag "truncate-set1" 't']
  withOptions forms 1 fun name given => do
    let deletes := given.isGiven "--delete"
    let squeezes := given.isGiven "--squeeze-repeats"
    let complements := given.isGiven "--complement" || given.isGiven "--upper-complement"
    let items := given.operands.map fun text => listItems (text.length + 1) text.toList
    let fault := (items.flatten.filterMap ListItem.fault?).head?
    match fault, items, given.operands with
    | _, [], _ => refuse name 1 "missing operand"
    | _, _ :: _ :: _ :: _, _ =>
        refuse name 1 ("extra operand " ++ marked (given.operands.getD 2 ""))
    | _, [_], _ =>
        if !deletes && !squeezes then do
          complain name ("missing operand after " ++ marked (given.operands.headD ""))
          Run.warn "Two strings must be given when translating."
          Run.warn ("Try '" ++ name ++ " --help' for more information.")
          pure 1
        else if deletes && squeezes then do
          complain name ("missing operand after " ++ marked (given.operands.headD ""))
          Run.warn "Two strings must be given when both deleting and squeezing repeats."
          Run.warn ("Try '" ++ name ++ " --help' for more information.")
          pure 1
        else apply name fault deletes squeezes complements items given
    | _, [_, _], _ =>
        if deletes && !squeezes then do
          complain name ("extra operand " ++ marked (given.operands.getD 1 ""))
          Run.warn "Only one string may be given when deleting without squeezing repeats."
          Run.warn ("Try '" ++ name ++ " --help' for more information.")
          pure 1
        else apply name fault deletes squeezes complements items given
where
  /-- Do what the lists ask for. -/
  apply (name : String) (fault : Option String) (deletes squeezes complements : Bool)
      (items : List (List ListItem)) (given : CommandLine.Arguments) : Run Nat := do
    match fault with
    | some text => do
        complain name text
        pure 1
    | none => do
        let listedFirst := listed 0 (items.headD [])
        let first :=
          if complements then allOctets.filter (!listedFirst.contains ·) else listedFirst
        let second := (items[1]?).map (listed first.length)
        if second == some [] && !deletes then
          complain name "when not truncating set1, string2 must be non-empty"
          pure 1
        else
          let octets ← Run.readInput
          let characters := octets.map fun octet => Char.ofNat octet.toNat
          let last := (second.bind List.getLast?).getD ' '
          let pairs := match second with
            | some targets =>
                if given.isGiven "--truncate-set1" then first.zip targets
                else first.zip (targets ++ List.replicate first.length last)
            | none => []
          let table := allOctets.toArray.map fun character =>
            ((pairs.reverse.lookup character).getD character, first.contains character)
          let entry := fun (character : Char) => table[character.toNat]?.getD (character, false)
          let changed :=
            if deletes then characters.filter fun character => !(entry character).2
            else if second.isSome then characters.map fun character => (entry character).1
            else characters
          let joins := (second.getD first).toArray
          let written := if squeezes then joined joins.contains changed else changed
          Run.emit 1 (written.map octetOf)
          pure 0

/-- Ranges of places, of which the last may have no end. -/
abbrev Places := List (Nat × Option Nat)

/-- The places that a text lists. -/
def places? (text : String) : Option Places :=
  (text.splitOn ",").mapM fun part => do
    match part.splitOn "-" with
    | [only] => do
        let place ← only.toNat?
        if place == 0 then none else some (place, some place)
    | [first, last] => do
        let start ← if first.isEmpty then some 1 else first.toNat?
        if start == 0 || (first.isEmpty && last.isEmpty) then none
        else if last.isEmpty then some (start, none)
        else do
          let stop ← last.toNat?
          if stop < start then none else some (start, some stop)
    | _ => none

/-- Whether a place is among those listed. -/
def Places.has (places : Places) (place : Nat) : Bool :=
  places.any fun (first, last) => first ≤ place && last.all (place ≤ ·)

/-- The items at chosen places. -/
def chosen {α : Type} (chooses : Nat → Bool) (items : List α) : List α :=
  (items.zipIdx.filter fun (_, index) => chooses (index + 1)).map Prod.fst

/-- Write columns of the lines of files. -/
def cut : Tool :=
  let forms := [setting "bytes" 'b', setting "characters" 'c', setting "fields" 'f',
    setting "delimiter" 'd', flag "only-delimited" 's', flag "complement" none,
    setting "output-delimiter" none, flag "n" 'n']
  withOptions forms 1 fun name given => do
    let delimiter := (given.value? "--delimiter").getD "\t"
    let asked := ["--bytes", "--characters", "--fields"].filterMap given.value?
    match asked, asked.head?.bind places? with
    | [], _ => refuse name 1 "you must specify a list of bytes, characters, or fields"
    | _ :: _ :: _, _ => refuse name 1 "only one list may be specified"
    | _, none =>
        refuse name 1 ((if given.isGiven "--fields" then "invalid field value "
          else "invalid byte/character position ") ++ marked (asked.headD ""))
    | _, some places =>
        if delimiter.length != 1 then refuse name 1 "the delimiter must be a single character"
        else if given.isGiven "--delimiter" && !given.isGiven "--fields" then
          refuse name 1 "an input delimiter may be specified only when operating on fields"
        else
          let chooses := fun (place : Nat) => places.has place != given.isGiven "--complement"
          let lineText := fun (line : List Char) =>
            if given.isGiven "--fields" then
              let fields := (String.ofList line).splitOn delimiter
              if fields.length ≤ 1 then
                if given.isGiven "--only-delimited" then none else some line
              else
                some (((given.value? "--output-delimiter").getD delimiter).intercalate
                  (chosen chooses fields)).toList
            else some (chosen chooses line)
          eachFile name 1 plainly given.operands fun _ => do
            let text ← Lines.read
            Lines.write ⟨text.lines.filterMap lineText, true⟩

end Tool

end GeoBridge.Shell
