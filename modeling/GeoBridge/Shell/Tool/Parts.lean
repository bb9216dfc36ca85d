import GeoBridge.Shell.Tool.Filter

/-!
Owns the programs that pass on parts of a text.

Owns:
- whole texts with marks for what is not visible, and lines with their numbers;
- the beginning and the end of a text, by lines or by octets.
-/

namespace GeoBridge.Shell

namespace Tool

/-- Pass on the input as it comes. -/
def passOn : Run Unit := do
  match ← Run.inputStream with
  | none => pure ()
  | some (number, stream) => do
      Run.leaveInput number []
      stream.parts.forM fun (time, octets) => do
        Run.awaitTime time
        Run.emit 1 octets
      Run.awaitTime stream.ending

/-- The number of a line before it. -/
def numbered (number : Nat) (width : Nat) (separator : String) (line : List Char) : List Char :=
  let digits := Nat.toDigits 10 number
  List.replicate (width - digits.length) ' ' ++ digits ++ separator.toList ++ line

/-- How a character is shown where nothing stays invisible. -/
def shown (character : Char) : List Char :=
  let low := fun (code : Nat) =>
    if code < 32 then ['^', Char.ofNat (code + 64)]
    else if code == 127 then ['^', '?']
    else [Char.ofNat code]
  if character.toNat < 128 then
    if character == '\t' || character == '\n' then [character] else low character.toNat
  else 'M' :: '-' :: low (character.toNat - 128)

/-- How lines are passed on. -/
structure Display where
  numbersAll : Bool := false
  numbersFull : Bool := false
  marksEnds : Bool := false
  marksTabs : Bool := false
  marksOthers : Bool := false
  squeezes : Bool := false
deriving DecidableEq, Repr

/-- Whether nothing is changed. -/
def Display.isPlain (display : Display) : Bool :=
  !(display.numbersAll || display.numbersFull || display.marksEnds || display.marksTabs
    || display.marksOthers || display.squeezes)

/-- A line as it is shown. -/
def Display.lineText (display : Display) (line : List Char) : List Char :=
  let visible := if display.marksOthers then line.flatMap shown else line
  if display.marksTabs then
    visible.flatMap fun character => if character == '\t' then ['^', 'I'] else [character]
  else visible

/-- Lines as they are shown, with the number of the next one and the count of empty lines before. -/
def Display.lines (display : Display) : (next emptyCount : Nat) → List (List Char) →
    List (List Char)
  | _, _, [] => []
  | next, emptyCount, line :: rest =>
      if display.squeezes && line.isEmpty && 0 < emptyCount then
        display.lines next (emptyCount + 1) rest
      else
        let counts := if display.numbersFull then !line.isEmpty else display.numbersAll
        let text := display.lineText line
        let ended := if display.marksEnds then text ++ ['$'] else text
        (if counts then numbered next 6 "\t" ended else ended)
          :: display.lines (if counts then next + 1 else next)
            (if line.isEmpty then emptyCount + 1 else 0) rest

/-- Write the contents of files one after the other. -/
def cat : Tool :=
  let forms := [flag "number" 'n', flag "number-nonblank" 'b', flag "show-ends" 'E',
    flag "show-tabs" 'T', flag "show-nonprinting" 'v', flag "squeeze-blank" 's',
    flag "show-all" 'A', flag "e" 'e', flag "t" 't', flag "u" 'u']
  withOptions forms 1 fun name given => do
    let has := fun (long : String) => given.isGiven ("--" ++ long)
    let display : Display :=
      { numbersAll := has "number", numbersFull := has "number-nonblank"
        marksEnds := has "show-ends" || has "show-all" || has "e"
        marksTabs := has "show-tabs" || has "show-all" || has "t"
        marksOthers := has "show-nonprinting" || has "show-all" || has "e" || has "t"
        squeezes := has "squeeze-blank" }
    let state ← get
    let showInput : Run Unit := do
      if display.isPlain then passOn
      else
        let text ← Lines.read
        Lines.write { text with lines := display.lines 1 0 text.lines }
    if (state.sinks.find? 1).isNone then
      complain name "standard output: Bad file descriptor"
      pure 1
    else judgeFiles name 1 plainly given.operands fun (file : String) => do
      if ← Run.feedsItself then
        complain name (file ++ ": input file is output file")
        pure 1
      else
        showInput
        pure 0

/-- The octets at the front of the input, up to a count of them. -/
def takeParts : (count time : Nat) → List (Nat × List UInt8) →
    List UInt8 × Nat × List (Nat × List UInt8)
  | _, time, [] => ([], time, [])
  | count, time, (came, octets) :: rest =>
      if count == 0 then ([], time, (came, octets) :: rest)
      else if octets.length ≤ count then
        let (further, last, left) := takeParts (count - octets.length) (max time came) rest
        (octets ++ further, last, left)
      else (octets.take count, max time came, (came, octets.drop count) :: rest)

/-- Read octets of the input, up to a count of them. -/
def readSome (count : Nat) : Run (List UInt8) := do
  match ← Run.inputStream with
  | none => pure []
  | some (number, stream) => do
      let (octets, time, left) := takeParts count 0 stream.parts
      Run.leaveInput number left
      Run.awaitTime (if octets.length < count then stream.ending else time)
      pure octets

/-- Pass on lines of the input as they come, up to a count of them. -/
def passLines : (count : Nat) → Run Unit
  | 0 => pure ()
  | count + 1 => do
      let (octets, isWhole) ← Run.readLine
      if isWhole then
        Run.emit 1 (octets ++ [10])
        passLines count
      else Run.emit 1 octets

/-- What part of a text is meant: so many items at the end it begins with, all but so many at the
other end, or all from the item of a number on. -/
inductive Extent where
  | these (count : Nat)
  | allBut (count : Nat)
  | from (number : Nat)
deriving DecidableEq, Repr

/-- The extent that a text spells. -/
def extent? (text : String) : Option Extent :=
  match text.toList with
  | '-' :: rest => (count? (String.ofList rest)).map .allBut
  | '+' :: rest => (count? (String.ofList rest)).map .from
  | _ => (count? text).map .these

/-- The arguments of a program to which a number after a hyphen is a count of lines. -/
def withCount (arguments : List String) : List String :=
  match arguments with
  | first :: rest =>
      match first.toList with
      | '-' :: digit :: digits =>
          if (digit :: digits).all Char.isDigit then
            "-n" :: String.ofList (digit :: digits) :: rest
          else arguments
      | _ => arguments
  | [] => []

/-- Pass on the part of the input that comes first. -/
def passFirst (byLines : Bool) : Extent → Run Unit
  | .these count | .from count =>
      if byLines then passLines count
      else do
        let octets ← readSome count
        Run.emit 1 octets
  | .allBut count => do
      if byLines then
        let text ← Lines.read
        let kept := text.lines.take (text.lines.length - count)
        Lines.write ⟨kept, text.isWhole || kept.length < text.lines.length⟩
      else
        let octets ← Run.readInput
        Run.emit 1 (octets.take (octets.length - count))

/-- Pass on the part of the input that comes last. -/
def passLast (byLines : Bool) (extent : Extent) : Run Unit := do
  let skipped := fun (length : Nat) => match extent with
    | .these count | .allBut count => length - count
    | .from number => number - 1
  if byLines then
    let text ← Lines.read
    Lines.write { text with lines := text.lines.drop (skipped text.lines.length) }
  else
    let octets ← Run.readInput
    Run.emit 1 (octets.drop (skipped octets.length))

/-- Pass on parts of files, each under a line with its name if there are several. -/
def passParts (pass : Bool → Extent → Run Unit) : Tool := fun name arguments =>
  let forms := [setting "lines" 'n', setting "bytes" 'c', flag "quiet" 'q', flag "silent" none,
    flag "verbose" 'v']
  let run : Tool := withOptions forms 1 fun name given => do
    let byLines := !given.isGiven "--bytes"
    let text := (given.value? (if byLines then "--lines" else "--bytes")).getD "10"
    match extent? text with
    | none => do
        complain name ("invalid number of " ++ (if byLines then "lines" else "bytes") ++ ": "
          ++ marked text)
        pure 1
    | some extent => do
        let titled := given.isGiven "--verbose"
          || (1 < given.operands.length && !given.isGiven "--quiet" && !given.isGiven "--silent")
        let tell := fun (file : String) (obstacle : Obstacle) =>
          if obstacle == .isDirectory then "error reading " ++ quoted file ++ ": Is a directory"
          else "cannot open " ++ quoted file ++ " for reading: " ++ obstacleText obstacle
        let first := given.operands.headD "-"
        eachFile name 1 tell given.operands fun file => do
          if titled then
            if file != first then Run.print "\n"
            Run.printLine ("==> " ++ (if file == "-" then "standard input" else file) ++ " <==")
          pass byLines extent
  run name (withCount arguments)

/-- Pass on the beginnings of files. -/
def head : Tool := passParts passFirst

/-- Pass on the ends of files. -/
def tail : Tool := passParts passLast

end Tool

end GeoBridge.Shell
