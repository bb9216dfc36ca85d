import GeoBridge.Proofs.ConversionFiles
import GeoBridge.Proofs.ConversionPhases
import Mathlib.Logic.Function.Basic

/-!
Owns conversions at one site whose steps come in any order.

Owns:
- the side file of a live conversion, and what one step of it does to the files;
- pools of conversions, and their steps, between which hooks and runners work on the files;
- the invariant of all steps: live conversions have side files of their own, with their own text;
- what is at a place apart from side files, which no step of the library changes.
-/

namespace GeoBridge

open Relation (ReflTransGen)

/-! ### Live conversions -/

namespace ConversionPhase

/-- The side file of a conversion, from its staging to its removal. -/
def live? : ConversionPhase → Option Path
  | .staged sideFile | .prepared sideFile _ | .running sideFile _ | .ran sideFile _
  | .told sideFile _ _ => sideFile
  | .ready | .removed _ _ | .ended _ => none

/-- Whether the next step is that of a hook or of the runner. -/
def isAtWork : ConversionPhase → Bool
  | .staged _ | .running _ _ | .ran _ _ => true
  | _ => false

def isEnded : ConversionPhase → Bool
  | .ended _ => true
  | _ => false

theorem live?_of_isEnded {phase : ConversionPhase} (ended : phase.isEnded = true) :
    phase.live? = none := by
  cases phase with
  | ended => rfl
  | ready | staged | prepared | running | ran | told | removed => cases ended

end ConversionPhase

namespace Tool

/-- The octets of a side file for a request: those of the whole text of its coordinate system. -/
def IsSideFileContent (tool : Tool) (request : Request) (octets : List UInt8) : Prop :=
  ∃ crs text, request.crs = some crs ∧ crs.wellKnownTextIn tool.systems = .ok text ∧
    Crs.sideFileContent text = .ok octets

/-- A conversion that goes on without a side file does so because none is asked for or taken. -/
def IsDue (tool : Tool) (request : Request) : ConversionPhase → Prop
  | .staged none | .prepared none _ | .running none _ =>
      request.crs = none ∨ tool.profile.crsFlag = none
  | _ => True

/-- What a step of a conversion does to the files and to its side file. -/
inductive Changes (tool : Tool) (request : Request) (site : Site) (phase next : ConversionPhase)
    (left : Site) : Prop
  | stages {path : Path} {octets : List UInt8} :
      phase.live? = none → next.live? = some path → tool.Stages request site path octets →
      left.workspace = site.workspace.put path.parts (.file octets) →
      Changes tool request site phase next left
  | rests : next.live? = phase.live? → left.workspace = site.workspace →
      Changes tool request site phase next left
  | works : phase.isAtWork = true → next.live? = phase.live? →
      Changes tool request site phase next left
  | removes {path : Path} : phase.live? = some path → next.live? = none →
      left.workspace = ((discard (some path)).after site).workspace →
      Changes tool request site phase next left

variable {tool : Tool} {request : Request}

/-- What each step does, phase by phase. -/
theorem advance_cases
    (encodable : ∀ crs, request.crs = some crs → crs.IsEncodable tool.systems)
    (phase : ConversionPhase) (site : Site) :
    ∃ next left, tool.advance request phase site = .ok next left ∧
      tool.Changes request site phase next left ∧
      (tool.IsDue request phase → tool.IsDue request next) := by
  cases phase with
  | ready =>
      refine ⟨_, _, tool.advance_ready request site, ?_⟩
      rcases stage_cases encodable site with
        ⟨path, octets, left, stages, staging, recorded⟩ | ⟨left, without, staging, recorded⟩ |
        ⟨failure, staging⟩
      · rw [Action.ending_of_ok staging, Action.after_of_ok staging]
        exact ⟨.stages rfl rfl stages (Frame.workspace_of_recording recorded), fun _ => trivial⟩
      · rw [Action.ending_of_ok staging, Action.after_of_ok staging]
        exact ⟨.rests rfl (Frame.workspace_of_recording recorded), fun _ => without⟩
      · rw [Action.ending_of_error staging, Action.after_of_error staging]
        exact ⟨.rests rfl rfl, fun _ => trivial⟩
  | staged sideFile =>
      refine ⟨_, _, tool.advance_staged request site sideFile, .works rfl ?_, ?_⟩
      · cases (tool.prepare request sideFile).ending site <;> rfl
      · intro due
        cases (tool.prepare request sideFile).ending site with
        | error failure => trivial
        | ok command => cases sideFile <;> exact due
  | prepared sideFile command =>
      refine ⟨_, _, tool.advance_prepared request site sideFile command, .rests rfl rfl, ?_⟩
      intro due
      cases sideFile <;> exact due
  | running sideFile command =>
      exact ⟨_, _, tool.advance_running request site sideFile command, .works rfl rfl,
        fun _ => trivial⟩
  | ran sideFile ended =>
      exact ⟨_, _, tool.advance_ran request site sideFile ended, .works rfl rfl, fun _ => trivial⟩
  | told sideFile ended hooked =>
      refine ⟨_, _, tool.advance_told request site sideFile ended hooked, ?_, fun _ => trivial⟩
      cases sideFile with
      | none => exact .rests rfl rfl
      | some path => exact .removes rfl rfl rfl
  | removed ended concluded =>
      refine ⟨_, _, tool.advance_removed request site ended concluded, .rests rfl ?_,
        fun _ => trivial⟩
      rw [after_settle]
  | ended result => exact ⟨_, _, rfl, .rests rfl rfl, id⟩

end Tool

/-! ### Pools -/

/-- Conversions at one site, each in a phase of its own. -/
structure ConversionPool (ι : Type) where
  site : Site
  phases : ι → ConversionPhase := fun _ => .ready

namespace ConversionPool

variable {ι : Type}

/-- What hooks and runners may make of the files: they neither delete nor overwrite the side file of
a live conversion, nor change anything at the places that they spare. -/
structure Allows (spared : Place → Prop) (pool : ConversionPool ι) (changed : Workspace) :
    Prop where
  kept : ∀ index path, (pool.phases index).live? = some path →
    ∀ octets, pool.site.workspace.read path = .ok octets → changed.read path = .ok octets
  untouched : ∀ place, spared place →
    changed.entryAt? place = pool.site.workspace.entryAt? place

/-! ### The invariant -/

/-- Each live conversion reads its own text at the path of its side file, no two have side files at
one place, and none goes without for no reason. -/
structure Sound (tool : ι → Tool) (request : ι → Request) (pool : ConversionPool ι) : Prop where
  held : ∀ index path, (pool.phases index).live? = some path →
    path.isAbsolute = true ∧ ".." ∉ path.parts ∧
      ∃ octets, (tool index).IsSideFileContent (request index) octets ∧
        pool.site.workspace.read path = .ok octets
  distinct : ∀ index other path further, (pool.phases index).live? = some path →
    (pool.phases other).live? = some further → path.parts = further.parts → index = other
  due : ∀ index, (tool index).IsDue (request index) (pool.phases index)

variable {tool : ι → Tool} {request : ι → Request} {pool : ConversionPool ι} {spared : Place → Prop}
  {index other : ι} {path : Path} {next : ConversionPhase} {left : Site}

theorem sound_ready (tool : ι → Tool) (request : ι → Request) (site : Site) :
    Sound tool request { site } where
  held _ _ live := nomatch live
  distinct _ _ _ _ live := nomatch live
  due _ := trivial

/-- At the place of the side file of a live conversion there is a file. -/
theorem Sound.entered (sound : Sound tool request pool)
    (live : (pool.phases index).live? = some path) :
    ∃ octets, pool.site.workspace.locate path = .ok path.parts ∧
      pool.site.workspace.entryAt? path.parts = some (.file octets) := by
  obtain ⟨rooted, straight, octets, -, read⟩ := sound.held index path live
  exact ⟨octets, Workspace.entered_of_read rooted straight read⟩

/-- While the command of a conversion runs, its side file is there with its own text. -/
theorem Sound.reads_of_running (sound : Sound tool request pool) {sideFile : Option Path}
    {command : List String} {crs : Crs} {flag : String}
    (running : pool.phases index = .running sideFile command)
    (asked : (request index).crs = some crs) (takes : (tool index).profile.crsFlag = some flag) :
    ∃ path text octets, sideFile = some path ∧
      crs.wellKnownTextIn (tool index).systems = .ok text ∧
      Crs.sideFileContent text = .ok octets ∧ pool.site.workspace.read path = .ok octets := by
  cases sideFile with
  | none =>
      have due := sound.due index
      rw [running] at due
      rcases due with nothing | untaken
      · rw [asked] at nothing
        cases nothing
      · rw [takes] at untaken
        cases untaken
  | some path =>
      obtain ⟨-, -, octets, ⟨own, text, askedAgain, described, content⟩, read⟩ :=
        sound.held index path (by rw [running]; rfl)
      obtain rfl : crs = own := Option.some.inj (asked.symm.trans askedAgain)
      exact ⟨path, text, octets, rfl, described, content, read⟩

/-- A free place is that of no live conversion. -/
theorem Sound.parts_ne_of_free (sound : Sound tool request pool) {place : Place}
    (free : pool.site.workspace.entryAt? place = none)
    (live : (pool.phases index).live? = some path) : path.parts ≠ place := by
  rintro rfl
  obtain ⟨octets, -, entered⟩ := sound.entered live
  rw [free] at entered
  cases entered

/-- The removal of a side file takes away what is at its place, and nothing else. -/
theorem Sound.after_discard (sound : Sound tool request pool)
    (live : (pool.phases index).live? = some path) :
    ((Tool.discard (some path)).after pool.site).workspace =
      pool.site.workspace.remove path.parts := by
  obtain ⟨octets, located, entered⟩ := sound.entered live
  have removed := Workspace.unlink_of_file located entered
  rw [Tool.discard, Action.after_of_ok (Action.removeFile_of_ok removed)]

/-! ### Steps -/

variable [DecidableEq ι]

/-- The pool once one of its conversions has come to another phase. -/
def moved (pool : ConversionPool ι) (index : ι) (next : ConversionPhase) (left : Site) :
    ConversionPool ι where
  site := left
  phases := Function.update pool.phases index next

/-- One of the conversions makes a step. -/
def advanced (tool : ι → Tool) (request : ι → Request) (pool : ConversionPool ι) (index : ι) :
    ConversionPool ι :=
  match (tool index).advance (request index) (pool.phases index) pool.site with
  | .ok next left => pool.moved index next left
  | .error _ _ => pool

/-- A step of a pool: one of the conversions makes a step, or a hook or a runner that is at work
does a part of it. -/
inductive Step (tool : ι → Tool) (request : ι → Request) (spared : Place → Prop)
    (pool : ConversionPool ι) : ConversionPool ι → Prop
  | advance (index : ι) :
      ((pool.phases index).isAtWork = true →
        pool.Allows spared (pool.advanced tool request index).site.workspace) →
      Step tool request spared pool (pool.advanced tool request index)
  | work (index : ι) (workspace : Workspace) :
      (pool.phases index).isAtWork = true → pool.Allows spared workspace →
      Step tool request spared pool { pool with site := { pool.site with workspace } }

/-- What comes of a pool by any number of steps in any order. -/
def Reaches (tool : ι → Tool) (request : ι → Request) (spared : Place → Prop) :
    ConversionPool ι → ConversionPool ι → Prop :=
  ReflTransGen (Step tool request spared)

/-! ### Moves -/

@[simp] theorem moved_site : (pool.moved index next left).site = left := rfl

theorem phases_moved_self : (pool.moved index next left).phases index = next :=
  Function.update_self _ _ _

theorem phases_moved_of_ne (differs : other ≠ index) :
    (pool.moved index next left).phases other = pool.phases other :=
  Function.update_of_ne differs _ _

/-- A conversion is live in the pool after a move if it has moved there, or has not moved. -/
theorem live?_moved :
    ((pool.moved index next left).phases other).live? = some path ↔
      other = index ∧ next.live? = some path ∨
        other ≠ index ∧ (pool.phases other).live? = some path := by
  by_cases same : other = index
  · subst same
    rw [phases_moved_self]
    simp
  · rw [phases_moved_of_ne same]
    simp [same]

theorem live?_moved_of_same (sameLive : next.live? = (pool.phases index).live?) :
    ((pool.moved index next left).phases other).live? = (pool.phases other).live? := by
  by_cases same : other = index
  · subst same
    rw [phases_moved_self, sameLive]
  · rw [phases_moved_of_ne same]

theorem advanced_eq
    (advanced : (tool index).advance (request index) (pool.phases index) pool.site =
      .ok next left) :
    pool.advanced tool request index = pool.moved index next left := by
  rw [ConversionPool.advanced, advanced]

/-! ### What every step keeps -/

theorem Sound.due_moved (sound : Sound tool request pool)
    (due : (tool index).IsDue (request index) next) (other : ι) :
    (tool other).IsDue (request other) ((pool.moved index next left).phases other) := by
  by_cases same : other = index
  · subst same
    rwa [phases_moved_self]
  · rw [phases_moved_of_ne same]
    exact sound.due other

/-- Where the side files stay the same and can still be read, the invariant holds on. -/
theorem Sound.of_kept (sound : Sound tool request pool)
    (sameLive : next.live? = (pool.phases index).live?)
    (due : (tool index).IsDue (request index) next)
    (kept : ∀ index path, (pool.phases index).live? = some path →
      ∀ octets, pool.site.workspace.read path = .ok octets →
        left.workspace.read path = .ok octets) :
    Sound tool request (pool.moved index next left) := by
  refine ⟨fun other path held => ?_, fun one other path further first second => ?_,
    sound.due_moved due⟩
  · rw [live?_moved_of_same sameLive] at held
    obtain ⟨rooted, straight, octets, content, read⟩ := sound.held other path held
    exact ⟨rooted, straight, octets, content, kept other path held octets read⟩
  · rw [live?_moved_of_same sameLive] at first second
    exact sound.distinct one other path further first second

/-- A conversion that stages takes a place that no live conversion has. -/
theorem Sound.of_stages (sound : Sound tool request pool) {octets : List UInt8}
    (live : next.live? = some path)
    (stages : (tool index).Stages (request index) pool.site path octets)
    (due : (tool index).IsDue (request index) next)
    (reached : left.workspace = pool.site.workspace.put path.parts (.file octets)) :
    Sound tool request (pool.moved index next left) := by
  have free := stages.isNew.free
  refine ⟨fun other found held => ?_, fun one other first second oneLive otherLive samePlace => ?_,
    sound.due_moved due⟩
  · rcases live?_moved.mp held with ⟨rfl, staged⟩ | ⟨-, earlier⟩
    · obtain rfl : path = found := Option.some.inj (live.symm.trans staged)
      refine ⟨stages.isNew.isAbsolute, stages.isNew.straight, octets, stages.content, ?_⟩
      rw [moved_site, reached, Workspace.read_eq_ok]
      refine ⟨path.parts, Workspace.locate_put free stages.isNew.located, ?_⟩
      rw [Workspace.entryAt?_put (Workspace.place_ne_nil free), if_pos rfl]
    · obtain ⟨rooted, straight, text, content, read⟩ := sound.held other found earlier
      refine ⟨rooted, straight, text, content, ?_⟩
      rw [moved_site, reached]
      exact Workspace.read_put_of_free free read
  · rcases live?_moved.mp oneLive with ⟨isOne, staged⟩ | ⟨-, oneEarlier⟩
    · obtain rfl : path = first := Option.some.inj (live.symm.trans staged)
      rcases live?_moved.mp otherLive with ⟨isOther, -⟩ | ⟨-, otherEarlier⟩
      · rw [isOne, isOther]
      · exact absurd samePlace.symm (sound.parts_ne_of_free free otherEarlier)
    · rcases live?_moved.mp otherLive with ⟨-, staged⟩ | ⟨-, otherEarlier⟩
      · obtain rfl : path = second := Option.some.inj (live.symm.trans staged)
        exact absurd samePlace (sound.parts_ne_of_free free oneEarlier)
      · exact sound.distinct one other first second oneEarlier otherEarlier samePlace

/-- A conversion that removes its side file leaves those of the others. -/
theorem Sound.of_removes (sound : Sound tool request pool)
    (live : (pool.phases index).live? = some path) (gone : next.live? = none)
    (due : (tool index).IsDue (request index) next)
    (reached : left.workspace = pool.site.workspace.remove path.parts) :
    Sound tool request (pool.moved index next left) := by
  have others {other : ι} {found : Path}
      (held : ((pool.moved index next left).phases other).live? = some found) :
      other ≠ index ∧ (pool.phases other).live? = some found := by
    refine (live?_moved.mp held).resolve_left fun here => ?_
    have nothing := here.2
    rw [gone] at nothing
    cases nothing
  obtain ⟨removed, -, file⟩ := sound.entered live
  refine ⟨fun other found held => ?_, fun one other first second oneLive otherLive samePlace => ?_,
    sound.due_moved due⟩
  · obtain ⟨differs, earlier⟩ := others held
    obtain ⟨rooted, straight, text, content, read⟩ := sound.held other found earlier
    obtain ⟨located, entered⟩ := Workspace.entered_of_read rooted straight read
    have elsewhere : found.parts ≠ path.parts := fun same =>
      differs (sound.distinct other index found path earlier live same)
    refine ⟨rooted, straight, text, content, ?_⟩
    rw [moved_site, reached]
    exact Workspace.read_remove_of_file file located entered elsewhere
  · exact sound.distinct one other first second (others oneLive).2 (others otherLive).2 samePlace

/-- The invariant is kept by every step, whichever conversion makes it. -/
theorem Sound.step
    (encodable : ∀ index crs, (request index).crs = some crs →
      crs.IsEncodable (tool index).systems)
    (sound : Sound tool request pool) {after : ConversionPool ι}
    (step : Step tool request spared pool after) : Sound tool request after := by
  cases step with
  | work index workspace atWork allows =>
      refine ⟨fun other found live => ?_, sound.distinct, sound.due⟩
      obtain ⟨rooted, straight, octets, content, read⟩ := sound.held other found live
      exact ⟨rooted, straight, octets, content, allows.kept other found live octets read⟩
  | advance index allows =>
      obtain ⟨next, left, advanced, changes, due⟩ :=
        Tool.advance_cases (encodable index) (pool.phases index) pool.site
      rw [advanced_eq advanced] at allows ⊢
      have nextDue := due (sound.due index)
      cases changes with
      | stages idle live stages reached => exact sound.of_stages live stages nextDue reached
      | rests sameLive reached =>
          exact sound.of_kept sameLive nextDue fun _ _ _ _ read => reached.symm ▸ read
      | works atWork sameLive => exact sound.of_kept sameLive nextDue (allows atWork).kept
      | removes live gone reached =>
          rw [sound.after_discard live] at reached
          exact sound.of_removes live gone nextDue reached

theorem Reaches.sound
    (encodable : ∀ index crs, (request index).crs = some crs →
      crs.IsEncodable (tool index).systems)
    (sound : Sound tool request pool) {after : ConversionPool ι}
    (reached : Reaches tool request spared pool after) : Sound tool request after := by
  induction reached with
  | refl => exact sound
  | tail _ last inductionHypothesis => exact inductionHypothesis.step encodable last

/-! ### What is there apart from side files -/

/-- A place is held if it is that of the side file of a live conversion. -/
def Holds (pool : ConversionPool ι) (place : Place) : Prop :=
  ∃ index path, (pool.phases index).live? = some path ∧ path.parts = place

/-- What is at a place apart from side files: nothing, if the place is held. -/
structure HasApart (pool : ConversionPool ι) (place : Place) (entry : Option Entry) : Prop where
  held : pool.Holds place → entry = none
  free : ¬ pool.Holds place → pool.site.workspace.entryAt? place = entry

variable {place : Place} {entry : Option Entry}

theorem holds_moved_of_same (sameLive : next.live? = (pool.phases index).live?) :
    (pool.moved index next left).Holds place ↔ pool.Holds place := by
  simp only [Holds, live?_moved_of_same sameLive]

theorem HasApart.of_same (apart : pool.HasApart place entry)
    (sameLive : next.live? = (pool.phases index).live?)
    (sameEntry : left.workspace.entryAt? place = pool.site.workspace.entryAt? place) :
    (pool.moved index next left).HasApart place entry := by
  refine ⟨fun held => ?_, fun free => ?_⟩
  · exact apart.held ((holds_moved_of_same sameLive).mp held)
  · rw [holds_moved_of_same sameLive] at free
    exact sameEntry.trans (apart.free free)

theorem HasApart.of_stages (sound : Sound tool request pool) {octets : List UInt8}
    (apart : pool.HasApart place entry) (idle : (pool.phases index).live? = none)
    (live : next.live? = some path) (free : pool.site.workspace.entryAt? path.parts = none)
    (reached : left.workspace = pool.site.workspace.put path.parts (.file octets)) :
    (pool.moved index next left).HasApart place entry := by
  by_cases here : path.parts = place
  · subst here
    have notHeld : ¬ pool.Holds path.parts := by
      rintro ⟨other, found, held, same⟩
      exact sound.parts_ne_of_free free held same
    refine ⟨fun _ => (apart.free notHeld).symm.trans free, fun freed => absurd ?_ freed⟩
    exact ⟨index, path, live?_moved.mpr (.inl ⟨rfl, live⟩), rfl⟩
  · refine ⟨fun held => apart.held ?_, fun freed => ?_⟩
    · obtain ⟨other, found, held, same⟩ := held
      rcases live?_moved.mp held with ⟨-, staged⟩ | ⟨-, earlier⟩
      · obtain rfl : path = found := Option.some.inj (live.symm.trans staged)
        exact absurd same here
      · exact ⟨other, found, earlier, same⟩
    · have notHeld : ¬ pool.Holds place := by
        rintro ⟨other, found, earlier, same⟩
        have differs : other ≠ index := by
          rintro rfl
          rw [idle] at earlier
          cases earlier
        exact freed ⟨other, found, live?_moved.mpr (.inr ⟨differs, earlier⟩), same⟩
      rw [moved_site, reached, Workspace.entryAt?_put (Workspace.place_ne_nil free),
        if_neg (Ne.symm here)]
      exact apart.free notHeld

theorem HasApart.of_removes (sound : Sound tool request pool)
    (apart : pool.HasApart place entry) (live : (pool.phases index).live? = some path)
    (gone : next.live? = none)
    (reached : left.workspace = pool.site.workspace.remove path.parts) :
    (pool.moved index next left).HasApart place entry := by
  obtain ⟨octets, -, file⟩ := sound.entered live
  have proper := Workspace.place_ne_nil_of_file file
  refine ⟨fun held => apart.held ?_, fun freed => ?_⟩
  · obtain ⟨other, found, held, same⟩ := held
    rcases live?_moved.mp held with ⟨-, staged⟩ | ⟨-, earlier⟩
    · rw [gone] at staged
      cases staged
    · exact ⟨other, found, earlier, same⟩
  · rw [moved_site, reached, Workspace.entryAt?_remove proper]
    by_cases here : place = path.parts
    · rw [if_pos here]
      exact (apart.held ⟨index, path, live, here.symm⟩).symm
    · rw [if_neg here]
      refine apart.free ?_
      rintro ⟨other, found, earlier, same⟩
      have differs : other ≠ index := by
        rintro rfl
        obtain rfl : path = found := Option.some.inj (live.symm.trans earlier)
        exact here same.symm
      exact freed ⟨other, found, live?_moved.mpr (.inr ⟨differs, earlier⟩), same⟩

/-- No step changes what is at a spared place apart from side files. -/
theorem HasApart.step
    (encodable : ∀ index crs, (request index).crs = some crs →
      crs.IsEncodable (tool index).systems)
    (sound : Sound tool request pool) (apart : pool.HasApart place entry) (spares : spared place)
    {after : ConversionPool ι} (step : Step tool request spared pool after) :
    after.HasApart place entry := by
  cases step with
  | work index workspace atWork allows =>
      exact ⟨apart.held, fun free => (allows.untouched place spares).trans (apart.free free)⟩
  | advance index allows =>
      obtain ⟨next, left, advanced, changes, -⟩ :=
        Tool.advance_cases (encodable index) (pool.phases index) pool.site
      rw [advanced_eq advanced] at allows ⊢
      cases changes with
      | stages idle live stages reached =>
          exact apart.of_stages sound idle live stages.isNew.free reached
      | rests sameLive reached => exact apart.of_same sameLive (by rw [reached])
      | works atWork sameLive =>
          exact apart.of_same sameLive ((allows atWork).untouched place spares)
      | removes live gone reached =>
          rw [sound.after_discard live] at reached
          exact apart.of_removes sound live gone reached

theorem Reaches.hasApart
    (encodable : ∀ index crs, (request index).crs = some crs →
      crs.IsEncodable (tool index).systems)
    (sound : Sound tool request pool) (apart : pool.HasApart place entry) (spares : spared place)
    {after : ConversionPool ι} (reached : Reaches tool request spared pool after) :
    after.HasApart place entry := by
  induction reached with
  | refl => exact apart
  | tail before last inductionHypothesis =>
      exact inductionHypothesis.step encodable (Reaches.sound encodable sound before) spares last

/-- Once all conversions are over, what is at a spared place is what was there apart from side
files. -/
theorem entryAt?_of_ended
    (encodable : ∀ index crs, (request index).crs = some crs →
      crs.IsEncodable (tool index).systems)
    (sound : Sound tool request pool) (apart : pool.HasApart place entry) (spares : spared place)
    {after : ConversionPool ι} (reached : Reaches tool request spared pool after)
    (allEnded : ∀ index, (after.phases index).isEnded = true) :
    after.site.workspace.entryAt? place = entry := by
  refine (reached.hasApart encodable sound apart spares).free ?_
  rintro ⟨index, path, live, -⟩
  rw [ConversionPhase.live?_of_isEnded (allEnded index)] at live
  cases live

/-- Conversions whose steps come in any order. The steps of each of them, when nothing comes between
them, are its run. No two conversions are live with one side file. While the command of one of them
runs, its side file is there with the text of its own coordinate system. And once all are over, from
whatever pool on: the side files that were live then are gone, unless a hook or a runner put
something else into their place, and every other place that hooks and runners spared is as it was,
which holds of the beginning too. -/
theorem side_files_stay_apart
    (encodable : ∀ index crs, (request index).crs = some crs →
      crs.IsEncodable (tool index).systems)
    {site : Site} (reached : Reaches tool request (fun _ => False) { site } pool) :
    (∀ index begun, Action.iterate ((tool index).advance (request index)) 7 .ready begun =
      .ok (.ended (((tool index).run (request index)).ending begun))
        (((tool index).run (request index)).after begun)) ∧
    (∀ index other path, (pool.phases index).live? = some path →
      (pool.phases other).live? = some path → index = other) ∧
    (∀ index sideFile command crs flag, pool.phases index = .running sideFile command →
      (request index).crs = some crs → (tool index).profile.crsFlag = some flag →
      ∃ path text octets, sideFile = some path ∧
        crs.wellKnownTextIn (tool index).systems = .ok text ∧
        Crs.sideFileContent text = .ok octets ∧ pool.site.workspace.read path = .ok octets) ∧
    ∀ spared later, Reaches tool request spared pool later →
      (∀ index, (later.phases index).isEnded = true) →
      (∀ index path, (pool.phases index).live? = some path → spared path.parts →
        later.site.workspace.entryAt? path.parts = none) ∧
      ∀ place, spared place → ¬ pool.Holds place →
        later.site.workspace.entryAt? place = pool.site.workspace.entryAt? place := by
  have sound := reached.sound encodable (sound_ready tool request site)
  refine ⟨fun index begun => Tool.iterate_ready _ _ begun,
    fun index other path one two => sound.distinct index other path path one two rfl, ?_,
    fun spared later further allEnded =>
      ⟨fun index path live spares => ?_, fun place spares free => ?_⟩⟩
  · exact fun _ _ _ _ _ => sound.reads_of_running
  · have apart : pool.HasApart path.parts none :=
      ⟨fun _ => rfl, fun free => absurd ⟨index, path, live, rfl⟩ free⟩
    exact entryAt?_of_ended encodable sound apart spares further allEnded
  · have apart : pool.HasApart place (pool.site.workspace.entryAt? place) :=
      ⟨fun held => absurd held free, fun _ => rfl⟩
    exact entryAt?_of_ended encodable sound apart spares further allEnded

/-! ### Two conversions of one input -/

/-- The pool once its conversions have made steps in the order of a schedule. -/
def scheduled (tool : ι → Tool) (request : ι → Request) (pool : ConversionPool ι)
    (schedule : List ι) : ConversionPool ι :=
  schedule.foldl (advanced tool request) pool

/-- Any schedule will do, if hooks and runners leave the files alone. -/
theorem reaches_scheduled
    (quiet : ∀ index phase site, ConversionPhase.isAtWork phase = true →
      (((tool index).advance (request index) phase).after site).workspace = site.workspace)
    (pool : ConversionPool ι) (schedule : List ι) :
    Reaches tool request spared pool (scheduled tool request pool schedule) := by
  induction schedule generalizing pool with
  | nil => exact .refl
  | cons index rest inductionHypothesis =>
      refine .head (.advance index fun atWork => ?_) (inductionHypothesis _)
      have same : (pool.advanced tool request index).site.workspace = pool.site.workspace := by
        have still := quiet index (pool.phases index) pool.site atWork
        rw [advanced]
        cases stepped : (tool index).advance (request index) (pool.phases index) pool.site with
        | ok next left => rwa [Action.after_of_ok stepped] at still
        | error failure left => rfl
      rw [same]
      exact ⟨fun _ _ _ _ read => read, fun _ _ => rfl⟩

end ConversionPool

theorem hookedTool_quiet (before : CommandContext → List String) (request : Request)
    (phase : ConversionPhase) (site : Site) (atWork : phase.isAtWork = true) :
    (((hookedTool before).advance request phase).after site).workspace = site.workspace := by
  cases phase with
  | staged | running | ran => rfl
  | ready | prepared | told | removed | ended => cases atWork

/-- Two conversions of one input with one coordinate system, after some steps. -/
def twins (schedule : List Bool) : ConversionPool Bool :=
  ConversionPool.scheduled (fun _ => hookedTool (·.command)) (fun _ => heightRequest)
    { site := inputSite } schedule

/-- Step by step in turn: both run at the same time, and then come to their ends. -/
def middleOfTwins : List Bool := [false, true, false, true, false, true]

def endOfTwins : List Bool := [true, false, true, false, false, false, true, true]

/-- While both run they have a side file each, and at the end both files are gone. -/
theorem twins_stay_apart :
    let tool : Bool → Tool := fun _ => hookedTool (·.command)
    let request : Bool → Request := fun _ => heightRequest
    let middle := twins middleOfTwins
    let later := middle.scheduled tool request endOfTwins
    (∀ index crs, (request index).crs = some crs → crs.IsEncodable (tool index).systems) ∧
      ConversionPool.Reaches tool request (fun _ => False) { site := inputSite } middle ∧
      ConversionPool.Reaches tool request (fun _ => True) middle later ∧
      (∀ index, (later.phases index).isEnded = true) ∧
      (middle.phases false).live? = some ⟨.single, ["srs00000000.wkt"]⟩ ∧
      (middle.phases true).live? = some ⟨.single, ["srs00000001.wkt"]⟩ ∧
      later.site.workspace.entryAt? ["srs00000000.wkt"] = none ∧
      later.site.workspace.entryAt? ["srs00000001.wkt"] = none ∧
      ∀ place, ¬ middle.Holds place →
        later.site.workspace.entryAt? place = middle.site.workspace.entryAt? place := by
  intro tool request middle later
  have encodable : ∀ index crs, (request index).crs = some crs →
      crs.IsEncodable (tool index).systems := fun _ => heightRequest_isEncodable
  have quiet : ∀ index phase site, ConversionPhase.isAtWork phase = true →
      (((tool index).advance (request index) phase).after site).workspace = site.workspace :=
    fun _ => hookedTool_quiet (·.command) heightRequest
  have reached : ConversionPool.Reaches tool request (fun _ => False) { site := inputSite }
      middle := ConversionPool.reaches_scheduled quiet { site := inputSite } middleOfTwins
  have further : ConversionPool.Reaches tool request (fun _ => True) middle later :=
    ConversionPool.reaches_scheduled quiet middle endOfTwins
  obtain ⟨allEnded, first, second⟩ :
      (∀ index, (later.phases index).isEnded = true) ∧
        (middle.phases false).live? = some ⟨.single, ["srs00000000.wkt"]⟩ ∧
        (middle.phases true).live? = some ⟨.single, ["srs00000001.wkt"]⟩ := by
    decide +kernel
  have ended :=
    (ConversionPool.side_files_stay_apart encodable reached).2.2.2 _ later further allEnded
  have firstGone := ended.1 false ⟨.single, ["srs00000000.wkt"]⟩ first trivial
  have secondGone := ended.1 true ⟨.single, ["srs00000001.wkt"]⟩ second trivial
  exact ⟨encodable, reached, further, allEnded, first, second, firstGone, secondGone,
    fun place free => ended.2 place trivial free⟩

end GeoBridge
