import GeoBridge.Proofs.Paths
import GeoBridge.Proofs.Watching

/-!
Owns which events of a file system count as changes of a configuration file.

Owns:
- the events that concern a file: their paths and that of the file have one normal form;
- the events that are passed on: those that concern the file, as long as its absolute path has no
  double dots;
- runs of events, which are noticed one by one or not at all.
-/

namespace GeoBridge

open Text (WideText)

/-- An event concerns the file at a path if it can be a change and names, by a text that is not
empty, the normal form of the path. -/
def FileEvent.Concerns (event : FileEvent) (path here : Path) : Prop :=
  event.kind ≠ .opened ∧ event.kind ≠ .closedUnwritten ∧
    ∃ candidate ∈ event.paths, candidate.toText ≠ [] ∧
      WidePath.resolve candidate.toText here = .ofPath (path.resolveLexically here)

namespace FileEvent

variable {path here : Path} {event : FileEvent}

theorem canChange_iff : event.canChange = true ↔
    event.kind ≠ .opened ∧ event.kind ≠ .closedUnwritten := by
  simp [canChange]

theorem touches_iff {target : Path} : event.touches target here = true ↔
    ∃ candidate ∈ event.paths, candidate.toText ≠ [] ∧
      WidePath.resolve candidate.toText here = .ofPath target := by
  simp [touches, names]

/-- A path of ordinary text names exactly the path that is its own normal form. -/
theorem names_ofString (target here : Path) (text : String) :
    names target here (.text (.ofString text)) = true ↔
      text ≠ "" ∧ (Path.ofString text).resolveLexically here = target := by
  have proper : WideText.ofString text = [] ↔ text = "" := by simp [WideText.ofString]
  rw [names, Bool.and_eq_true, EventPath.toText, WidePath.resolve_ofString, beq_iff_eq,
    WidePath.ofPath_injective.eq_iff, Bool.not_eq_true', List.isEmpty_eq_false_iff, Ne, proper]

/-- An event that names a file by its own spelling concerns it. -/
theorem concerns_of_spelling {spelling : String} (changes : event.canChange = true)
    (proper : spelling ≠ "") (named : .text (.ofString spelling) ∈ event.paths) :
    event.Concerns (Path.ofString spelling) here := by
  obtain ⟨notOpened, notClosed⟩ := canChange_iff.mp changes
  refine ⟨notOpened, notClosed, _, named, ?_, WidePath.resolve_ofString spelling here⟩
  simpa [EventPath.toText, WideText.ofString] using proper

/-- A normal form is never equal to a path with double dots. -/
theorem not_touches_of_doubleDot {target : Path} (dots : ".." ∈ target.parts) :
    event.touches target here = false := by
  rw [Bool.eq_false_iff]
  intro touched
  obtain ⟨candidate, -, -, same⟩ := touches_iff.mp touched
  apply WidePath.doubleDot_notMem candidate.toText here
  rw [same]
  exact List.mem_map_of_mem dots

/-- An event is taken for a change exactly if it concerns the file and the absolute path of the file
has no double dots. -/
theorem counts_iff :
    (event.canChange && event.touches (path.absolute here) here) = true ↔
      event.Concerns path here ∧ ".." ∉ (path.absolute here).parts := by
  rw [Bool.and_eq_true, canChange_iff, Concerns, and_assoc, and_assoc, and_assoc]
  refine and_congr_right fun _ => and_congr_right fun _ => ?_
  constructor
  · intro touched
    have straight : ".." ∉ (path.absolute here).parts := fun dots =>
      Bool.false_ne_true ((not_touches_of_doubleDot dots).symm.trans touched)
    refine ⟨?_, straight⟩
    rw [Path.resolveLexically, Path.normalize_eq_self_iff.mpr straight]
    exact touches_iff.mp touched
  · rintro ⟨named, straight⟩
    rw [Path.resolveLexically, Path.normalize_eq_self_iff.mpr straight] at named
    exact touches_iff.mpr named

/-- Not even an event that spells the path as the file's own is spelled is noticed. -/
example :
    let here : Path := ⟨.single, ["work"]⟩
    let event : FileEvent := ⟨.modified, .text (.ofString "conf/../g.xml"), none⟩
    event.touches ((Path.ofString "g.xml").absolute here) here = true ∧
      event.touches ((Path.ofString "conf/../g.xml").absolute here) here = false := by
  decide +kernel

end FileEvent

namespace FileSource

/-- An event that concerns the watched file is passed on once, after the record of it, unless double
dots are left in the absolute path of the file. Any other event does nothing. -/
theorem handle_notices (path : Path) (event : FileEvent) (onChange : Action Unit) (site : Site) :
    let here := site.workspace.herePath
    let handled := handle (path.absolute here) event onChange site
    (event.Concerns path here ∧ ".." ∉ (path.absolute here).parts →
      handled = (do
        Action.enter (.recorded (changeRecord event))
        onChange
        pure true) site) ∧
    (¬ (event.Concerns path here ∧ ".." ∉ (path.absolute here).parts) →
      handled = .ok false site) := by
  intro here handled
  have asked : Action.here site = .ok here site := rfl
  have opened : handled =
      (if event.canChange && event.touches (path.absolute here) here then do
        Action.record .debug .source ("configuration change detected: " ++ event.source.shown)
        onChange
        pure true
      else pure false) site := Action.bind_of_ok asked
  rw [opened]
  constructor
  · intro noticed
    rw [if_pos (FileEvent.counts_iff.mpr noticed)]
    rfl
  · intro unnoticed
    rw [if_neg fun counted => unnoticed (FileEvent.counts_iff.mp counted)]
    rfl

/-- Nothing that happens to a file is noticed while double dots are left in its absolute path. -/
theorem after_events_of_doubleDot {path : Path} {site : Site} (onChange : Action Unit)
    (dots : ".." ∈ (path.absolute site.workspace.herePath).parts) (events : List FileEvent) :
    events.foldl (fun current event =>
      (handle (path.absolute site.workspace.herePath) event onChange).after current) site =
        site := by
  induction events with
  | nil => rfl
  | cons event rest inductionHypothesis =>
      rw [List.foldl_cons, after_handle, FileEvent.not_touches_of_doubleDot dots, Bool.and_false,
        if_neg Bool.false_ne_true]
      exact inductionHypothesis

end FileSource

end GeoBridge
