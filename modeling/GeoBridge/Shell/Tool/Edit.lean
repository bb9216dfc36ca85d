import GeoBridge.Shell.Tool.EditScript
import GeoBridge.Shell.Tool.Filter

/-!
Owns the editing of lines by scripts.

Owns:
- the state of an edit: the line at hand, and what was written;
- the steps of a script on a line, and the going through all lines;
- the program that edits files.
-/

namespace GeoBridge.Shell

/-- The state of an edit. What was written stands last part first. Ranges under way are told by the
step that they belong to, with the line that ends them if it is known. -/
structure Editing where
  number : Nat := 0
  isLast : Bool := false
  space : List Char := []
  isWhole : Bool := true
  written : List (List Char) := []
  lacksBreak : Bool := false
  active : List (Nat × Option Nat) := []
  used : Option Regular := none

/-- What follows a step: the next one, the end of the work on the line, or the end of all. -/
inductive EditCourse where
  | goesOn
  | endsLine
  | quits
deriving DecidableEq, Repr

namespace Editing

/-- Write text, which may or may not end with a line break. -/
def put (editing : Editing) (text : List Char) (isWhole : Bool) : Editing :=
  let before := if editing.lacksBreak then ['\n'] else []
  { editing with
    written := (before ++ text ++ if isWhole then ['\n'] else []) :: editing.written
    lacksBreak := !isWhole }

/-- Write the line at hand. -/
def print (editing : Editing) : Editing := editing.put editing.space editing.isWhole

/-- The expression that is meant: the one given, or the one used last. -/
def meant (editing : Editing) (expression : Option Regular) : Regular :=
  (expression.orElse fun _ => editing.used).getD .nothing

/-- Whether an expression matches the line at hand. -/
def hasMatch (editing : Editing) (expression : Option Regular) (foldsCase : Bool) : Bool :=
  ((editing.meant expression).find? ⟨editing.space.toArray, foldsCase⟩ 0).isSome

/-- Whether an address is that of the line at hand. -/
def isAt (editing : Editing) : EditAddress → Bool
  | .line number => editing.number == number
  | .last => editing.isLast
  | .matching expression foldsCase => editing.hasMatch expression foldsCase

/-- The edit with the expression of an address as the one used last. -/
def remembering (editing : Editing) : EditAddress → Editing
  | .matching (some expression) _ => { editing with used := some expression }
  | _ => editing

/-- The edit without a range under way. -/
def without (editing : Editing) (index : Nat) : Editing :=
  { editing with active := editing.active.filter fun entry => entry.1 != index }

/-- Whether lines include the one at hand, which may begin or end a range. -/
def includes (editing : Editing) (index : Nat) : EditLines → Bool × Editing
  | .all => (true, editing)
  | .one address => (editing.isAt address, editing.remembering address)
  | .range first last =>
      match editing.active.lookup index with
      | some (some number) =>
          let after := if number ≤ editing.number then editing.without index else editing
          (editing.number ≤ number || editing.isAt first, after)
      | some none =>
          (true, if editing.isAt last then (editing.remembering last).without index
            else editing.remembering last)
      | none =>
          if editing.isAt first then
            let begun := editing.remembering first
            match last with
            | .line number =>
                (true, if number ≤ editing.number then begun
                  else { begun with active := (index, some number) :: begun.active })
            | _ => (true, { begun with active := (index, none) :: begun.active })
          else (false, editing.remembering first)

/-- The characters of a replacement, given the text of each group. -/
def replacementText (group : Nat → List Char) (pieces : List ReplacementPiece) : List Char :=
  pieces.flatMap fun piece => match piece with
    | .character character => [character]
    | .group number => group number

/-- The text in which matches are replaced, from a position on, and whether there were any. An empty
match right behind another one does not count. -/
def replaced (expression : Regular) (subject : Regular.Subject) (substitution : Substitution) :
    (fuel count start : Nat) → (previous : Option Nat) → List Char × Bool
  | 0, _, start, _ => ((subject.text.extract start).toList, false)
  | fuel + 1, count, start, previous =>
      match expression.find? subject start with
      | none => ((subject.text.extract start).toList, false)
      | some (position, found) =>
          let before := (subject.text.extract start position).toList
          let isEmpty := found.ending == position
          let following := (subject.text[position]?).toList
          if isEmpty && previous == some position then
            if following.isEmpty then (before, false)
            else
              let (rest, any) := replaced expression subject substitution fuel count
                (position + 1) none
              (before ++ following ++ rest, any)
          else
            let group := fun (number : Nat) =>
              if number == 0 then (subject.text.extract position found.ending).toList
              else match found.groups.lookup number with
                | some (first, last) => (subject.text.extract first last).toList
                | none => []
            let counts := substitution.number ≤ count + 1
            let text := if counts then replacementText group substitution.pieces else group 0
            if counts && !substitution.isGlobal then
              (before ++ text ++ (subject.text.extract found.ending).toList, true)
            else
              let skipped := if isEmpty then following else []
              let next := if isEmpty then position + 1 else found.ending
              if isEmpty && following.isEmpty then (before ++ text, counts)
              else
                let (rest, any) := replaced expression subject substitution fuel (count + 1) next
                  (if isEmpty then none else some found.ending)
                (before ++ text ++ skipped ++ rest, counts || any)

/-- Carry out a substitution. -/
def substitute (editing : Editing) (substitution : Substitution) : Editing :=
  let expression := editing.meant substitution.expression
  let subject : Regular.Subject := ⟨editing.space.toArray, substitution.foldsCase⟩
  let (space, any) := replaced expression subject substitution (2 * subject.text.size + 2) 0 0 none
  let after := { editing with used := some expression }
  if !any then after
  else
    let changed := { after with space }
    if substitution.prints then changed.print else changed

/-- Carry out one step. -/
def perform (editing : Editing) (index : Nat) (step : EditStep) : EditCourse × Editing :=
  let (isIncluded, seen) := editing.includes index step.lines
  if isIncluded == step.isNegated then (.goesOn, seen)
  else
    match step.command with
    | .delete => (.endsLine, seen)
    | .print => (.goesOn, seen.print)
    | .quit => (.quits, seen)
    | .substitute substitution => (.goesOn, seen.substitute substitution)

/-- Carry out steps on the line at hand, and write it unless it was deleted. Tells whether lines
further on count. -/
def work (quiet : Bool) : List (EditStep × Nat) → Editing → Bool × Editing
  | [], editing => (true, if quiet then editing else editing.print)
  | (step, index) :: rest, editing =>
      match editing.perform index step with
      | (.goesOn, after) => work quiet rest after
      | (.endsLine, after) => (true, after)
      | (.quits, after) => (false, if quiet then after else after.print)

/-- Go through lines, each of which is told with whether it has its line break. -/
def throughLines (steps : List EditStep) (quiet : Bool) :
    List (List Char × Bool) → Editing → Editing
  | [], editing => editing
  | (line, isWhole) :: rest, editing =>
      let begun := { editing with
        number := editing.number + 1, isLast := rest.isEmpty, space := line, isWhole }
      match work quiet steps.zipIdx begun with
      | (true, after) => throughLines steps quiet rest after
      | (false, after) => after

/-- All characters that were written. -/
def text (editing : Editing) : List Char := editing.written.reverse.flatten

end Editing

namespace Tool

/-- The lines of a text, each with whether it has its line break. -/
def markedLines (text : Lines) : List (List Char × Bool) :=
  let count := text.lines.length
  text.lines.zipIdx.map fun (line, index) => (line, text.isWhole || index + 1 < count)

/-- Edit the lines of files by a script. -/
def edit : Tool :=
  let forms := [flag "quiet" 'n', flag "silent" none, setting "expression" 'e',
    flag "regexp-extended" 'E', flag "r" 'r']
  withOptions forms 1 fun name given =>
    match given.values "--expression", given.operands with
    | [], [] => do
        Run.warn ("Usage: " ++ name
          ++ " [OPTION]... \x7bscript-only-if-no-other-script\x7d [input-file]...")
        pure 1
    | [], script :: files => run name given script files
    | parts, files => run name given ("\n".intercalate parts) files
where
  /-- Edit files by a script that was found. -/
  run (name : String) (given : CommandLine.Arguments) (script : String) (files : List String) :
      Run Nat := do
    let quiet := given.isGiven "--quiet" || given.isGiven "--silent"
    let written : Regular.Notation :=
      if given.isGiven "--regexp-extended" || given.isGiven "--r" then .extended else .basic
    match EditScript.ofCharacters written script.toList with
    | .error text => do
        complain name text
        pure 1
    | .ok steps => do
        let tell := fun (file : String) (obstacle : Obstacle) =>
          if obstacle == .isDirectory then "couldn't edit " ++ file ++ ": not a regular file"
          else "can't read " ++ plainly file obstacle
        let rec gather : List String → Run (List (List Char × Bool) × Nat)
          | [] => pure ([], 0)
          | file :: rest => do
              match ← Run.withFile file Lines.read with
              | .ok text => do
                  let (further, status) ← gather rest
                  pure (markedLines text ++ further, status)
              | .error obstacle => do
                  complain name (tell file obstacle)
                  let (further, _) ← gather rest
                  pure (further, 2)
        let (lines, failure) ← gather (if files.isEmpty then ["-"] else files)
        Run.emit 1 ((Editing.throughLines steps quiet lines {}).text.map octetOf)
        pure failure

end Tool

end GeoBridge.Shell
