import GeoBridge.Shell.Regular
import GeoBridge.Shell.Tool.Filter

/-!
Owns the program that searches lines for what an expression matches.

Owns:
- the expressions that are looked for, each line of a text being one;
- the matches that count: in whole lines or at the edges of words, if that is asked for;
- the lines found, with their numbers, the names of their files, and the lines around them.
-/

namespace GeoBridge.Shell

namespace Tool

/-- What a search looks for, and how. -/
structure Search where
  expressions : List Regular
  foldsCase : Bool := false
  wholeLines : Bool := false
  wholeWords : Bool := false
  inverted : Bool := false

namespace Search

/-- The leftmost match from a position on that is not empty, with the position where it begins. Of
several matches of whole words at one position the longest counts. -/
def find? (search : Search) (subject : Regular.Subject) (start : Nat) : Option (Nat × Nat) :=
  let size := subject.text.size
  let suits := fun (first last : Nat) =>
    if search.wholeLines then first == 0 && last == size
    else if search.wholeWords then
      (first == 0 || !subject.isWordAt (first - 1)) && !subject.isWordAt last
    else true
  (List.range (size + 1 - start)).findSome? fun offset =>
    let first := start + offset
    let endings := search.expressions.flatMap fun expression =>
      (Regular.ends subject expression { ending := first }).map Match.ending
    let suited := endings.filter (suits first)
    if suited.isEmpty then none else some (first, suited.foldl max 0)

/-- The text in which a line is searched. -/
def subjectOf (search : Search) (line : List Char) : Regular.Subject :=
  ⟨line.toArray, search.foldsCase⟩

/-- Whether a line is chosen. -/
def chooses (search : Search) (line : List Char) : Bool :=
  (search.find? (search.subjectOf line) 0).isSome != search.inverted

/-- All matches of a line that are not empty. -/
def matchesIn (search : Search) (subject : Regular.Subject) : (fuel start : Nat) →
    List (List Char)
  | 0, _ => []
  | fuel + 1, start =>
      match search.find? subject start with
      | none => []
      | some (first, last) =>
          if last == first then matchesIn search subject fuel (first + 1)
          else (subject.text.extract first last).toList :: matchesIn search subject fuel last

end Search

/-- How lines that are found are written. -/
structure Found where
  label : Option String := none
  numbers : Bool := false
  onlyMatches : Bool := false
  before : Nat := 0
  after : Nat := 0

namespace Found

/-- What stands before a line. -/
def mark (found : Found) (sign : Char) (number : Nat) : List Char :=
  (match found.label with
    | some label => label.toList ++ [sign]
    | none => [])
  ++ if found.numbers then Nat.toDigits 10 number ++ [sign] else []

/-- The lines that are written, given the numbered lines and whether each is chosen. Gaps between
lines that are near one another are marked. -/
def lines (found : Found) (search : Search) (numbered : List (Nat × List Char × Bool)) :
    List (List Char) :=
  if found.onlyMatches then
    numbered.flatMap fun (number, line, isChosen) =>
      if isChosen && !search.inverted then
        (search.matchesIn (search.subjectOf line) (line.length + 1) 0).map
          (found.mark ':' number ++ ·)
      else []
  else
    let numbers := (numbered.filter fun entry => entry.2.2).map Prod.fst
    let isNear := fun (number : Nat) => numbers.any fun other =>
      number ≤ other + found.after && other ≤ number + found.before
    let plain := found.before == 0 && found.after == 0
    let shown := if plain then numbered.filter fun entry => entry.2.2
      else numbered.filter fun entry => isNear entry.1
    (shown.foldl (fun (last, written) (number, line, isChosen) =>
      let text := found.mark (if isChosen then ':' else '-') number ++ line
      let gap := if !plain && last != 0 && last + 1 < number then [['-', '-']] else []
      (number, text :: (gap ++ written))) ((0 : Nat), ([] : List (List Char)))).2.reverse

end Found

/-- The names of the options that take no value. -/
def searchFlags : List (String × Option Char) :=
  [("extended-regexp", some 'E'), ("fixed-strings", some 'F'), ("basic-regexp", some 'G'),
   ("ignore-case", some 'i'), ("y", some 'y'), ("invert-match", some 'v'), ("count", some 'c'),
   ("line-number", some 'n'), ("only-matching", some 'o'), ("quiet", some 'q'), ("silent", none),
   ("no-messages", some 's'), ("files-with-matches", some 'l'),
   ("files-without-match", some 'L'), ("no-filename", some 'h'), ("with-filename", some 'H'),
   ("word-regexp", some 'w'), ("line-regexp", some 'x'), ("text", some 'a')]

/-- Tell how a search is asked for. -/
def showSearchUsage (name : String) : Run Nat := do
  Run.warn ("Usage: " ++ name ++ " [OPTION]... PATTERNS [FILE]...")
  Run.warn ("Try '" ++ name ++ " --help' for more information.")
  pure 2

/-- Search files for lines. -/
def search : Tool := fun name arguments =>
  let forms := searchFlags.map (fun (long, letter) => flag long letter)
    ++ [setting "regexp" 'e', setting "file" 'f', setting "max-count" 'm',
      setting "after-context" 'A', setting "before-context" 'B', setting "context" 'C']
  match CommandLine.Arguments.divide forms true arguments with
  | .error misuse => do
      complain name (misuseText forms misuse)
      showSearchUsage name
  | .ok given => do
      let listed ← (given.values "--file").mapM fun (path : String) => do
        match ← Run.withFile path Lines.read with
        | .ok text => pure (text.lines.map String.ofList)
        | .error _ => pure []
      let texts := (given.values "--regexp").flatMap (·.splitOn "\n") ++ listed.flatten
      let isListed := given.isGiven "--regexp" || given.isGiven "--file"
      match isListed, given.operands with
      | false, [] => showSearchUsage name
      | false, text :: files => run name given (text.splitOn "\n") files
      | true, files => run name given texts files
where
  /-- Search files for lines that match one of some texts. -/
  run (name : String) (given : CommandLine.Arguments) (texts files : List String) : Run Nat := do
    let has := fun (long : String) => given.isGiven ("--" ++ long)
    let written : Regular.Notation :=
      if has "fixed-strings" then .literal else if has "extended-regexp" then .extended else .basic
    match texts.find? fun text => (Regular.ofCharacters? written text.toList).isNone with
    | some text => do
        complain name (if text.contains '(' || text.contains ')' then "Unmatched ( or \\("
          else if text.contains '[' then "Unmatched [, [^, [:, [., or [="
          else "Invalid preceding regular expression")
        pure 2
    | none => do
        let expressions := texts.filterMap fun text =>
          (Regular.ofCharacters? written text.toList).map Prod.fst
        let search : Search :=
          { expressions, foldsCase := has "ignore-case" || has "y"
            wholeLines := has "line-regexp", wholeWords := has "word-regexp"
            inverted := has "invert-match" }
        let number := fun (long : String) => (given.value? ("--" ++ long)).bind count?
        let context := (number "context").getD 0
        let isQuiet := has "quiet" || has "silent"
        let isLabelled := (1 < files.length || has "with-filename") && !has "no-filename"
        let one : String → Run Bool := fun file => do
          let text ← Lines.read
          let label := if file == "-" then "(standard input)" else file
          let judged := text.lines.zipIdx.map fun (line, index) =>
            (index + 1, line, search.chooses line)
          let limited := match number "max-count" with
            | none => judged
            | some most =>
                let numbers := ((judged.filter fun entry => entry.2.2).map Prod.fst).take most
                judged.takeWhile fun entry => entry.1 ≤ numbers.getLastD 0
          let count : Nat := limited.countP fun entry => entry.2.2
          let isFound : Bool := count != 0
          let found : Found :=
            { label := if isLabelled then some label else none, numbers := has "line-number"
              onlyMatches := has "only-matching"
              before := (number "before-context").getD context
              after := (number "after-context").getD context }
          if isQuiet then pure isFound
          else if has "files-with-matches" then
            if isFound then Run.printLine label
            pure isFound
          else if has "files-without-match" then
            if !isFound then Run.printLine label
            pure isFound
          else if has "count" then
            Run.printLine ((if isLabelled then label ++ ":" else "") ++ toString count)
            pure isFound
          else
            if isFound && !has "text" && text.lines.any fun line => line.contains '\x00' then
              Run.printLine (name ++ ": " ++ label ++ ": binary file matches")
            else Lines.write ⟨found.lines search limited, true⟩
            pure isFound
        let outcomes ← (if files.isEmpty then ["-"] else files).mapM fun (file : String) => do
          match ← Run.withFile file (one file) with
          | .ok isFound => pure (some isFound)
          | .error obstacle => do
              if !has "no-messages" then complain name (plainly file obstacle)
              pure none
        let anyFound := outcomes.contains (some true)
        pure (if outcomes.contains none && !(isQuiet && anyFound) then 2
          else if anyFound then 0 else 1)

end Tool

end GeoBridge.Shell
