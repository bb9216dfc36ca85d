import GeoBridge.Site

/-!
Owns how actions are taken apart, and what they leave alone.

Owns:
- the ending of an action and the site it leaves behind, for sequences, outcomes, last words and
  repeated steps;
- frames: what an action may do to a site, closed under doing nothing and under going on;
- the frames of a view that stays the same and of a list that only grows;
- actions that make known records and do nothing else;
- what single entries do to the calls and the questions that the journal tells of.
-/

namespace GeoBridge

/-- A site with one more entry in its journal. -/
def Site.entered (site : Site) (event : Event) : Site :=
  { site with journal := site.journal ++ [event] }

/-- A site with some more records in its journal. -/
def Site.recorded (site : Site) (records : List Record) : Site :=
  { site with journal := site.journal ++ records.map .recorded }

@[simp] theorem Site.recorded_nil (site : Site) : site.recorded [] = site := by
  simp [recorded]

theorem Site.recorded_append (site : Site) (earlier later : List Record) :
    site.recorded (earlier ++ later) = (site.recorded earlier).recorded later := by
  simp [recorded]

namespace Action

variable {α β : Type}

/-- What an action ends with. -/
def ending (action : Action α) (site : Site) : Except Failure α :=
  match action site with
  | .ok value _ => .ok value
  | .error failure _ => .error failure

/-- The site that an action leaves behind, however it ends. -/
def after (action : Action α) (site : Site) : Site :=
  match action site with
  | .ok _ left => left
  | .error _ left => left

section Endings

variable {action : Action α} {site left : Site} {value : α} {failure : Failure}

theorem after_of_ok (ended : action site = .ok value left) : action.after site = left := by
  simp only [after, ended]

theorem after_of_error (ended : action site = .error failure left) : action.after site = left := by
  simp only [after, ended]

theorem ending_of_ok (ended : action site = .ok value left) : action.ending site = .ok value := by
  simp only [ending, ended]

theorem ending_of_error (ended : action site = .error failure left) :
    action.ending site = .error failure := by
  simp only [ending, ended]

theorem ending_congr {other : Action α} {there : Site} (same : action site = other there) :
    action.ending site = other.ending there := by
  simp only [ending, same]

theorem after_congr {other : Action α} {there : Site} (same : action site = other there) :
    action.after site = other.after there := by
  simp only [after, same]

variable {next : α → Action β}

theorem bind_of_ok (ended : action site = .ok value left) :
    (action >>= next) site = next value left := by
  simp only [bind, EStateM.bind, ended]

theorem bind_of_error (ended : action site = .error failure left) :
    (action >>= next) site = .error failure left := by
  simp only [bind, EStateM.bind, ended]

theorem bind_eq_ok {last : β} :
    (action >>= next) site = .ok last left ↔
      ∃ value middle, action site = .ok value middle ∧ next value middle = .ok last left := by
  constructor
  · intro whole
    cases ended : action site with
    | ok value middle => exact ⟨value, middle, rfl, by rwa [bind_of_ok ended] at whole⟩
    | error failure middle => rw [bind_of_error ended] at whole; cases whole
  · rintro ⟨value, middle, ended, rest⟩
    rw [bind_of_ok ended, rest]

/-- What was read from the site is the site. -/
theorem get_bind (next : Site → Action β) (site : Site) :
    ((get : Action Site) >>= next) site = next site site := rfl

theorem after_get_bind (next : Site → Action β) (site : Site) :
    ((get : Action Site) >>= next).after site = (next site).after site := rfl

theorem outcome_of_ok (ended : action site = .ok value left) :
    action.outcome site = .ok (.ok value) left := by
  simp only [outcome, ended]

theorem outcome_of_error (ended : action site = .error failure left) :
    action.outcome site = .ok (.error failure) left := by
  simp only [outcome, ended]

theorem outcome_eq (action : Action α) (site : Site) :
    action.outcome site = .ok (action.ending site) (action.after site) := by
  cases ended : action site with
  | ok value left => rw [outcome_of_ok ended, ending_of_ok ended, after_of_ok ended]
  | error failure left => rw [outcome_of_error ended, ending_of_error ended, after_of_error ended]

/-- What is made of the outcome of an action, which is never a failure. -/
theorem map_outcome (change : Except Failure α → β) (action : Action α) (site : Site) :
    (change <$> action.outcome : Action β) site =
      .ok (change (action.ending site)) (action.after site) := by
  simp only [Functor.map, EStateM.map, outcome_eq]

/-- Several steps, each from where the one before it ended. -/
def iterate (step : α → Action α) : (count : Nat) → α → Action α
  | 0, value => pure value
  | count + 1, value => do
      let next ← step value
      iterate step count next

theorem iterate_succ {step : α → Action α} {next : α} (stepped : step value site = .ok next left)
    (count : Nat) : iterate step (count + 1) value site = iterate step count next left := by
  rw [iterate, bind_of_ok stepped]

theorem iterate_add (step : α → Action α) (first further : Nat) (value : α) :
    iterate step (first + further) value = iterate step first value >>= iterate step further := by
  induction first generalizing value with
  | zero => rw [Nat.zero_add, iterate, pure_bind]
  | succ first inductionHypothesis =>
      rw [Nat.add_right_comm, iterate, iterate, bind_assoc]
      simp only [inductionHypothesis]

theorem iterate_of_fixed {step : α → Action α} (fixed : step value = pure value) (count : Nat) :
    iterate step count value = pure value := by
  induction count with
  | zero => rfl
  | succ count inductionHypothesis =>
      rw [iterate, fixed, pure_bind, inductionHypothesis]

end Endings

theorem after_ofExcept (result : Except Failure α) (site : Site) :
    (ofExcept result).after site = site := by
  cases result <;> rfl

theorem ending_ofExcept (result : Except Failure α) (site : Site) :
    (ofExcept result).ending site = result := by
  cases result <;> rfl

theorem after_inspecting (path : Path) (answer : Workspace → Except Obstacle α) (site : Site) :
    (inspecting path answer).after site = site := by
  unfold inspecting after
  rw [get_bind]
  cases answer site.workspace <;> rfl

theorem ending_inspecting (path : Path) (answer : Workspace → Except Obstacle α) (site : Site) :
    (inspecting path answer).ending site =
      (answer site.workspace).mapError (Obstacle.failure path.text) := by
  unfold inspecting ending
  rw [get_bind]
  cases answer site.workspace <;> rfl

theorem after_map (change : α → β) (action : Action α) (site : Site) :
    (change <$> action : Action β).after site = action.after site := by
  cases ended : action site <;> simp only [after, Functor.map, EStateM.map, ended]

theorem ending_map (change : α → β) (action : Action α) (site : Site) :
    (change <$> action : Action β).ending site = (action.ending site).map change := by
  cases ended : action site <;> simp only [ending, Functor.map, EStateM.map, ended, Except.map]

theorem ending_bind (action : Action α) (next : α → Action β) (site : Site) :
    (action >>= next).ending site =
      match action.ending site with
      | .ok value => (next value).ending (action.after site)
      | .error failure => .error failure := by
  cases ended : action site with
  | ok value left =>
      rw [ending_of_ok ended, after_of_ok ended]
      simp only [ending, bind_of_ok ended]
  | error failure left =>
      rw [ending_of_error ended]
      simp only [ending, bind_of_error ended]

theorem after_bind (action : Action α) (next : α → Action β) (site : Site) :
    (action >>= next).after site =
      match action.ending site with
      | .ok value => (next value).after (action.after site)
      | .error _ => action.after site := by
  cases ended : action site with
  | ok value left =>
      rw [ending_of_ok ended, after_of_ok ended]
      simp only [after, bind_of_ok ended]
  | error failure left =>
      rw [ending_of_error ended, after_of_error ended]
      simp only [after, bind_of_error ended]

theorem after_isDirectory (path : Path) (site : Site) : (isDirectory path).after site = site := by
  unfold isDirectory
  rw [after_bind, after_inspecting]
  cases (inspecting path (·.probe path)).ending site <;> rfl

/-- What is done last is done at the site that the action leaves behind, however it ends. -/
theorem after_finally (action : Action α) (last : Action Unit) (site : Site) :
    (action.finally_ last).after site = last.after (action.after site) := by
  unfold finally_
  rw [after_bind, ending_of_ok (outcome_eq action site), after_of_ok (outcome_eq action site)]
  change Action.after (last >>= fun _ => ofExcept (action.ending site)) (action.after site) = _
  rw [after_bind]
  cases last.ending (action.after site) with
  | ok _ => exact after_ofExcept _ _
  | error _ => rfl

end Action

/-! ### Files -/

namespace Action

variable {site : Site} {path : Path} {octets : List UInt8} {changed : Workspace}

theorem inspecting_of_ok {α : Type} {answer : Workspace → Except Obstacle α} {value : α}
    (answered : answer site.workspace = .ok value) :
    inspecting path answer site = .ok value site := by
  unfold inspecting
  rw [get_bind]
  simp only [answered]
  rfl

theorem inspecting_of_error {α : Type} {answer : Workspace → Except Obstacle α}
    {obstacle : Obstacle} (blocked : answer site.workspace = .error obstacle) :
    inspecting path answer site = .error (obstacle.failure path.text) site := by
  unfold inspecting
  rw [get_bind]
  simp only [blocked]
  rfl

theorem writeFile_of_ok (written : site.workspace.write path octets = .ok changed) :
    writeFile path octets site = .ok () { site with workspace := changed } :=
  bind_of_ok (inspecting_of_ok written)

theorem writeFile_of_error {obstacle : Obstacle}
    (blocked : site.workspace.write path octets = .error obstacle) :
    writeFile path octets site = .error (obstacle.failure path.text) site :=
  bind_of_error (inspecting_of_error blocked)

theorem removeFile_of_ok (removed : site.workspace.unlink path = .ok changed) :
    removeFile path site = .ok () { site with workspace := changed } := by
  unfold removeFile
  rw [get_bind]
  simp only [removed]
  rfl

theorem after_removeFile_of_error {obstacle : Obstacle}
    (blocked : site.workspace.unlink path = .error obstacle) :
    (removeFile path).after site = site := by
  unfold removeFile after
  rw [get_bind]
  simp only [blocked]
  cases obstacle <;> rfl

/-- It is no failure that there is nothing to remove. -/
theorem ending_removeFile_of_error {obstacle : Obstacle}
    (blocked : site.workspace.unlink path = .error obstacle) :
    (removeFile path).ending site =
      if obstacle = .missing then .ok () else .error (obstacle.failure path.text) := by
  unfold removeFile ending
  rw [get_bind]
  simp only [blocked]
  cases obstacle <;> rfl

end Action

/-! ### Frames -/

/-- What an action may do to a site: nothing at all, and whatever comes of going on. -/
structure Frame where
  allows : Site → Site → Prop
  rest : ∀ site, allows site site
  chain : ∀ {site middle left : Site}, allows site middle → allows middle left → allows site left

namespace Frame

variable {β : Type}

/-- A view of the site stays the same. -/
def same (view : Site → β) : Frame where
  allows site left := view left = view site
  rest _ := rfl
  chain first second := second.trans first

/-- A list that can be seen at the site is only added to. -/
def grows (view : Site → List β) : Frame where
  allows site left := view site <+: view left
  rest site := List.prefix_refl (view site)
  chain := List.IsPrefix.trans

/-- Two frames at once. -/
def both (first second : Frame) : Frame where
  allows site left := first.allows site left ∧ second.allows site left
  rest site := ⟨first.rest site, second.rest site⟩
  chain one other := ⟨first.chain one.1 other.1, second.chain one.2 other.2⟩

/-- Nothing but records is added to the journal, and all else stays the same. -/
def recording : Frame where
  allows site left := ∃ records : List Record,
    left = { site with journal := site.journal ++ records.map .recorded }
  rest site := ⟨[], by simp⟩
  chain := by
    rintro site _ _ ⟨earlier, rfl⟩ ⟨later, rfl⟩
    exact ⟨earlier ++ later, by simp⟩

/-- Every record is within a frame. -/
def IgnoresRecords (frame : Frame) : Prop :=
  ∀ site record, frame.allows site (site.entered (.recorded record))

/-- Every call that is entered is within a frame. -/
def IgnoresCalls (frame : Frame) : Prop :=
  ∀ site call, frame.allows site (site.entered (.called call site.workspace))

theorem recording_entered (site : Site) (record : Record) :
    recording.allows site (site.entered (.recorded record)) := ⟨[record], rfl⟩

theorem registry_of_recording {site left : Site} (recorded : recording.allows site left) :
    left.registry = site.registry := by
  obtain ⟨records, rfl⟩ := recorded
  rfl

theorem workspace_of_recording {site left : Site} (recorded : recording.allows site left) :
    left.workspace = site.workspace := by
  obtain ⟨records, rfl⟩ := recorded
  rfl

/-- A frame that every record is within allows any number of them. -/
theorem IgnoresRecords.allows_of_recording {frame : Frame} (ignored : frame.IgnoresRecords)
    {site left : Site} (recorded : recording.allows site left) : frame.allows site left := by
  obtain ⟨records, rfl⟩ := recorded
  induction records generalizing site with
  | nil => simpa using frame.rest site
  | cons record rest inductionHypothesis =>
      have further := @inductionHypothesis (site.entered (.recorded record))
      rw [Site.entered, List.append_assoc] at further
      exact frame.chain (ignored site record) further

/-- No snapshot is published and no question is put to the probe. -/
def quiet : Frame := (same (·.registry)).both (same (·.questions))

theorem quiet_ignoresRecords : quiet.IgnoresRecords :=
  fun site record => ⟨rfl, by simp [same, Site.questions, Site.entered]⟩

theorem quiet_ignoresCalls : quiet.IgnoresCalls :=
  fun site call => ⟨rfl, by simp [same, Site.questions, Site.entered]⟩

end Frame

namespace Action

variable {α β : Type} {frame : Frame}

/-- Whatever an action does to a site is within a frame. -/
def Respects (frame : Frame) (action : Action α) : Prop :=
  ∀ site, frame.allows site (action.after site)

theorem Respects.of_ok {action : Action α} (respects : action.Respects frame) {site left : Site}
    {value : α} (ended : action site = .ok value left) : frame.allows site left := by
  have allowed := respects site
  rwa [after_of_ok ended] at allowed

theorem Respects.of_error {action : Action α} (respects : action.Respects frame) {site left : Site}
    {failure : Failure} (ended : action site = .error failure left) : frame.allows site left := by
  have allowed := respects site
  rwa [after_of_error ended] at allowed

theorem respects_of_after_eq {action : Action α} (still : ∀ site, action.after site = site) :
    action.Respects frame := by
  intro site
  rw [still]
  exact frame.rest site

theorem respects_pure (value : α) : Respects frame (pure value) := fun site => frame.rest site

theorem respects_throw (failure : Failure) : Respects frame (throw failure : Action α) :=
  fun site => frame.rest site

theorem respects_ofExcept (result : Except Failure α) : (ofExcept result).Respects frame :=
  respects_of_after_eq (after_ofExcept result)

theorem respects_enter {event : Event}
    (ignored : ∀ site, frame.allows site (site.entered event)) : (enter event).Respects frame :=
  ignored

theorem respects_record (level : Level) (area : Area) (message : String)
    (cause : Option Failure) : (record level area message cause).Respects .recording :=
  fun site => Frame.recording_entered site _

/-- Whatever only records is within every frame that records are within. -/
theorem Respects.of_recording {action : Action α} (records : action.Respects .recording)
    (ignored : frame.IgnoresRecords) : action.Respects frame :=
  fun site => ignored.allows_of_recording (records site)

theorem Respects.bind {action : Action α} {next : α → Action β} (first : action.Respects frame)
    (further : ∀ value, (next value).Respects frame) : Respects frame (action >>= next) := by
  intro site
  rw [after_bind]
  cases action.ending site with
  | ok value => exact frame.chain (first site) (further value _)
  | error _ => exact first site

theorem respects_get_bind {next : Site → Action β}
    (further : ∀ site, frame.allows site ((next site).after site)) :
    Respects frame ((get : Action Site) >>= next) :=
  further

theorem Respects.outcome {action : Action α} (respects : action.Respects frame) :
    action.outcome.Respects frame := by
  intro site
  rw [after_of_ok (outcome_eq action site)]
  exact respects site

/-- An action that makes the given records and does nothing else, and ends with a value. -/
def Records (action : Action α) (value : α) (records : List Record) : Prop :=
  ∀ site, action site = .ok value (site.recorded records)

theorem Records.recording {action : Action α} {value : α} {records : List Record}
    (made : action.Records value records) (site : Site) :
    ∃ left, action site = .ok value left ∧ Frame.recording.allows site left :=
  ⟨_, made site, records, rfl⟩

theorem records_pure (value : α) : Records (pure value) value [] := by
  intro site
  rw [Site.recorded_nil]
  rfl

theorem records_record (level : Level) (area : Area) (message : String)
    (cause : Option Failure) :
    Records (record level area message cause) () [⟨level, area, message, cause⟩] :=
  fun _ => rfl

theorem Records.bind {action : Action α} {next : α → Action β} {value : α} {last : β}
    {earlier later : List Record} (first : action.Records value earlier)
    (further : (next value).Records last later) :
    Records (action >>= next) last (earlier ++ later) := by
  intro site
  rw [bind_of_ok (first site), further, Site.recorded_append]

/-- A loop whose rounds only record makes the records of its rounds, one after the other. -/
theorem records_forIn {body : α → Unit → Action (ForInStep Unit)} {made : α → List Record}
    (rounds : ∀ element, (body element ()).Records (.yield ()) (made element))
    (elements : List α) : Records (forIn elements () body) () (elements.flatMap made) := by
  induction elements with
  | nil => exact records_pure ()
  | cons element rest inductionHypothesis =>
      rw [List.forIn_cons, List.flatMap_cons]
      exact (rounds element).bind inductionHypothesis

end Action

/-! ### What entries tell -/

namespace Site

@[simp] theorem entered_registry (site : Site) (event : Event) :
    (site.entered event).registry = site.registry := rfl

@[simp] theorem entered_workspace (site : Site) (event : Event) :
    (site.entered event).workspace = site.workspace := rfl

theorem calls_entered_called (site : Site) (call : CommandCall) (workspace : Workspace) :
    (site.entered (.called call workspace)).calls = site.calls ++ [(call, workspace)] := by
  simp [calls, entered]

theorem questions_entered_asked (site : Site) (executable : String) (environment : Environment) :
    (site.entered (.asked executable environment)).questions =
      site.questions ++ [(executable, environment)] := by
  simp [questions, entered]

end Site

end GeoBridge
