import Mathlib.Logic.Relation
import GeoBridge.Crs.Geodesy
import GeoBridge.Proofs.Conversions
import GeoBridge.Proofs.SideFiles

/-!
Owns what a run of a tool does to the files.

Owns:
- the staging of a request: a new side file with the whole text, no side file, or nothing at all;
- what the hooks and the runner make of the files, as the reflexive and transitive closure of their
  work;
- the run as a whole: the files are what the hooks and the runner made of them, without the side
  file, and the side file is there when the command runs.
-/

namespace GeoBridge

open Relation (ReflTransGen)

namespace Crs.IsNewSideFile

variable {workspace : Workspace} {directory path : Path}

theorem isAbsolute (isNew : IsNewSideFile workspace directory path) : path.isAbsolute = true := by
  obtain ⟨name, -, rfl⟩ := isNew.named
  exact directory.isAbsolute_resolveLexically workspace

theorem straight (isNew : IsNewSideFile workspace directory path) : ".." ∉ path.parts := by
  obtain ⟨name, named, rfl⟩ := isNew.named
  rw [List.mem_append, List.mem_singleton, not_or]
  exact ⟨Path.doubleDot_notMem _, (ne_doubleDot named).symm⟩

end Crs.IsNewSideFile

namespace Tool

variable {tool : Tool} {request : Request} {sideFile : Option Path} {site left : Site}
  {path : Path} {octets : List UInt8}

/-! ### Staging -/

/-- A side file for a request at a site: a new file in the parent directory of the absolute input,
and the octets of the whole text of the coordinate system that is asked for. -/
structure Stages (tool : Tool) (request : Request) (site : Site) (path : Path)
    (octets : List UInt8) : Prop where
  isNew : Crs.IsNewSideFile site.workspace
    (request.input.absolute site.workspace.herePath).parent path
  content : ∃ crs text, request.crs = some crs ∧ crs.wellKnownTextIn tool.systems = .ok text ∧
    Crs.sideFileContent text = .ok octets
  flagged : ∃ flag, tool.profile.crsFlag = some flag

/-- Staging writes a side file, or none where none is asked for or taken, or it fails and changes
nothing. -/
theorem stage_cases (encodable : ∀ crs, request.crs = some crs → crs.IsEncodable tool.systems)
    (site : Site) :
    (∃ path octets left, tool.Stages request site path octets ∧
      tool.stage request site = .ok (some path) left ∧
      Frame.recording.allows
        { site with workspace := site.workspace.put path.parts (.file octets) } left) ∨
    (∃ left, (request.crs = none ∨ tool.profile.crsFlag = none) ∧
      tool.stage request site = .ok none left ∧ Frame.recording.allows site left) ∨
    ∃ failure, tool.stage request site = .error failure site := by
  rcases takes_or_not tool request with without | ⟨crs, flag, given, taken⟩
  · obtain ⟨left, nothing, recorded⟩ := stage_of_untaken without site
    exact .inr (.inl ⟨left, without, nothing, recorded⟩)
  · rw [stage_of_taken given taken]
    rcases Crs.stage_cases (encodable crs given) tool.naming (stagingDirectory request site) site
      with ⟨path, text, octets, left, isNew, described, content, staged, recorded⟩ |
        ⟨failure, unstaged⟩
    · rw [staged]
      exact .inl ⟨path, octets, left, ⟨isNew, ⟨crs, text, given, described, content⟩,
        ⟨flag, taken⟩⟩, rfl, recorded⟩
    · rw [unstaged]
      exact .inr (.inr ⟨_, rfl⟩)

/-! ### Work of the hooks and the runner -/

/-- One of the hooks, or the runner, at work in a run that begins at a site: what it makes of the
files that it finds. -/
inductive Works (tool : Tool) (request : Request) (site : Site) : Workspace → Workspace → Prop
  | before {sideFile : Option Path} {staged : Site} :
      tool.stage request site = .ok sideFile staged →
      Works tool request site staged.workspace
        ((tool.hooks.before (tool.contextOf request sideFile)).after
          (tool.atHook request sideFile staged)).workspace
  | runs {sideFile : Option Path} {staged hooked : Site} {adjusted : List String} :
      tool.stage request site = .ok sideFile staged →
      tool.hooks.before (tool.contextOf request sideFile) (tool.atHook request sideFile staged) =
        .ok adjusted hooked →
      Works tool request site hooked.workspace
        ((tool.runner (tool.callOf request adjusted hooked)).after
          (hooked.entered
            (.called (tool.callOf request adjusted hooked) hooked.workspace))).workspace
  | afterwards {sideFile : Option Path} {attempted : Site}
      {ended : Except Failure (List String × CommandOutcome)} :
      tool.stageAndAttempt request site = .ok (sideFile, ended) attempted →
      Works tool request site attempted.workspace
        ((tool.hooks.after (reportedExitCode ended)).after
          (attempted.entered (.afterRun (reportedExitCode ended)))).workspace

/-- Between staging and the hook after the run only the hook before it and the runner work on the
files. -/
theorem works_attempt (staging : tool.stage request site = .ok sideFile left) :
    ReflTransGen (tool.Works request site) left.workspace
      ((tool.attempt request sideFile).after left).workspace := by
  have toHook := Works.before staging
  cases hooked : tool.hooks.before (tool.contextOf request sideFile)
      (tool.atHook request sideFile left) with
  | error failure refused =>
      rw [after_attempt_of_refused hooked]
      rw [Action.after_of_error hooked] at toHook
      exact .single toHook
  | ok adjusted prepared =>
      rw [after_attempt_of_adjusted hooked]
      rw [Action.after_of_ok hooked] at toHook
      exact .tail (.single toHook) (.runs staging hooked)

/-- A place that the hooks and the runner do not change in a run that begins at a site. -/
def Spares (tool : Tool) (request : Request) (site : Site) (place : Place) : Prop :=
  ∀ workspace changed, tool.Works request site workspace changed →
    changed.entryAt? place = workspace.entryAt? place

/-- The hooks and the runner neither remove nor replace what is at a path, nor the directories on
the way to it, in a run that begins at a site. -/
def Keeps (tool : Tool) (request : Request) (site : Site) (path : Path) : Prop :=
  ∀ workspace changed, tool.Works request site workspace changed →
    ∀ octets, workspace.read path = .ok octets → changed.read path = .ok octets

theorem entryAt?_of_spared {place : Place} (spared : tool.Spares request site place)
    {workspace changed : Workspace}
    (works : ReflTransGen (tool.Works request site) workspace changed) :
    changed.entryAt? place = workspace.entryAt? place := by
  induction works with
  | refl => rfl
  | tail _ last inductionHypothesis => rw [spared _ _ last, inductionHypothesis]

theorem read_of_kept (kept : tool.Keeps request site path) {workspace changed : Workspace}
    (works : ReflTransGen (tool.Works request site) workspace changed)
    (read : workspace.read path = .ok octets) : changed.read path = .ok octets := by
  induction works with
  | refl => exact read
  | tail _ last inductionHypothesis => exact kept _ _ last octets inductionHypothesis

/-! ### Runs -/

/-- The files that a run leaves: what the hooks and the runner made of the files that were there. If
a side file was staged, they found it besides at a free place, and it is gone. -/
def LeavesFiles (tool : Tool) (request : Request) (site left : Site) : Prop :=
  match tool.stage request site with
  | .ok (some path) _ => ∃ octets made, tool.Stages request site path octets ∧
      ReflTransGen (tool.Works request site) (site.workspace.put path.parts (.file octets)) made ∧
      left.workspace = made.remove path.parts
  | _ => ReflTransGen (tool.Works request site) site.workspace left.workspace

/-- Where the content of a side file is still read at its path, the file is removed. -/
theorem workspace_after_discard {directory : Path} {workspace : Workspace}
    (isNew : Crs.IsNewSideFile workspace directory path)
    (kept : site.workspace.read path = .ok octets) :
    ((discard (some path)).after site).workspace = site.workspace.remove path.parts := by
  obtain ⟨place, located, entered⟩ := Workspace.read_eq_ok.mp kept
  obtain ⟨-, rfl⟩ := Workspace.locate_eq isNew.isAbsolute isNew.straight located
  have removed := Workspace.unlink_of_file located entered
  rw [discard, Action.after_of_ok (Action.removeFile_of_ok removed)]

theorem read_of_staged (stages : tool.Stages request site path octets)
    (recorded : Frame.recording.allows
      { site with workspace := site.workspace.put path.parts (.file octets) } left) :
    left.workspace.read path = .ok octets := by
  have proper := Workspace.place_ne_nil stages.isNew.free
  rw [Frame.workspace_of_recording recorded, Workspace.read_eq_ok]
  refine ⟨path.parts, Workspace.locate_put stages.isNew.free stages.isNew.located, ?_⟩
  rw [Workspace.entryAt?_put proper, if_pos rfl]

theorem leavesFiles_after_run
    (encodable : ∀ crs, request.crs = some crs → crs.IsEncodable tool.systems)
    (keeps : ∀ path staged, tool.stage request site = .ok (some path) staged →
      tool.Keeps request site path) :
    tool.LeavesFiles request site ((tool.run request).after site) := by
  rcases stage_cases encodable site with
    ⟨path, octets, staged, stages, staging, recorded⟩ | ⟨staged, -, staging, recorded⟩ |
    ⟨failure, staging⟩
  · have begun := stageAndAttempt_of_ok staging
    have worked := (works_attempt staging).tail (.afterwards begun)
    have kept := read_of_kept (keeps path staged staging) worked (read_of_staged stages recorded)
    rw [Frame.workspace_of_recording recorded] at worked
    rw [LeavesFiles, staging, after_run begun]
    exact ⟨octets, _, stages, worked, workspace_after_discard stages.isNew kept⟩
  · have begun := stageAndAttempt_of_ok staging
    have worked := (works_attempt staging).tail (.afterwards begun)
    rw [Frame.workspace_of_recording recorded] at worked
    rw [LeavesFiles, staging, after_run begun]
    exact worked
  · have begun := stageAndAttempt_of_error staging
    rw [LeavesFiles, staging, after_run begun]
    exact .single (.afterwards begun)

theorem entryAt?_of_leavesFiles (leaves : tool.LeavesFiles request site left) {place : Place}
    (spared : tool.Spares request site place) :
    left.workspace.entryAt? place = site.workspace.entryAt? place := by
  unfold LeavesFiles at leaves
  split at leaves
  · next path _ _ =>
      obtain ⟨octets, made, stages, worked, removed⟩ := leaves
      have proper := Workspace.place_ne_nil stages.isNew.free
      have sparedInMade := entryAt?_of_spared spared worked
      rw [Workspace.entryAt?_put proper] at sparedInMade
      rw [removed, Workspace.entryAt?_remove proper]
      by_cases staged : place = path.parts
      · rw [if_pos staged, staged, stages.isNew.free]
      · rw [if_neg staged, sparedInMade, if_neg staged]
  · exact entryAt?_of_spared spared leaves

/-- A call hands a side file over: the file is there with the whole text when the call is made, and
the command that the hook was given names it after the flag. -/
structure HandsOver (tool : Tool) (request : Request) (site : Site) (call : CommandCall)
    (found : Workspace) (flag : String) (path : Path) (octets : List UInt8) : Prop where
  stages : tool.Stages request site path octets
  readable : found.read path = .ok octets
  argv : ∃ told adjusted hooked,
    tool.hooks.before
      { command := tool.baseCommand request ++ [flag, path.text], request, sideFile := some path }
      told = .ok adjusted hooked ∧
    call.argv = adjusted ++ tool.pathArguments request found.herePath
  flagged : tool.hooks.KeepCommand → [flag, path.text] <:+: call.argv

theorem handsOver_of_reaches {call : CommandCall} {found : Workspace} {crs : Crs} {flag : String}
    (encodable : ∀ crs, request.crs = some crs → crs.IsEncodable tool.systems)
    (keeps : ∀ path staged, tool.stage request site = .ok (some path) staged →
      tool.Keeps request site path)
    (reaches : tool.Reaches request site call found) (asked : request.crs = some crs)
    (takes : tool.profile.crsFlag = some flag) :
    ∃ path octets, tool.HandsOver request site call found flag path octets := by
  obtain @⟨sideFile, staged, hookedSite, adjusted, staging, hooked⟩ := reaches
  rcases stage_cases encodable site with
    ⟨path, octets, _, stages, again, recorded⟩ | ⟨_, without, again, -⟩ | ⟨_, again⟩
  · rw [staging] at again
    cases again
    have context : tool.contextOf request (some path) =
        { command := tool.baseCommand request ++ [flag, path.text], request,
          sideFile := some path } := by
      simp only [contextOf, crsArguments, takes]
    have toHook := Works.before staging
    rw [Action.after_of_ok hooked] at toHook
    have readStaged := read_of_staged stages recorded
    have readHooked := keeps path staged staging _ _ toHook octets readStaged
    refine ⟨path, octets, stages, readHooked, ⟨_, adjusted, hookedSite, context ▸ hooked, rfl⟩, ?_⟩
    intro keepsCommand
    have kept : tool.baseCommand request ++ [flag, path.text] <+: adjusted := by
      have kept := keepsCommand _ _ _ _ hooked
      rwa [context] at kept
    obtain ⟨added, rfl⟩ := kept
    refine ⟨tool.baseCommand request,
      added ++ tool.pathArguments request hookedSite.workspace.herePath, ?_⟩
    simp [callOf]
  · rcases without with nothing | untaken
    · rw [asked] at nothing
      cases nothing
    · rw [takes] at untaken
      cases untaken
  · rw [staging] at again
    cases again

/-- A run, whether it returns or fails, leaves the files as the hooks and the runner made them,
without the side file, and places that these spare as they were. Its call, if it comes to one, is
made while the side file is there, and none is made if staging fails. -/
theorem run_leaves_no_side_file (tool : Tool) (request : Request) (site : Site)
    (encodable : ∀ crs, request.crs = some crs → crs.IsEncodable tool.systems)
    (keeps : ∀ path staged, tool.stage request site = .ok (some path) staged →
      tool.Keeps request site path)
    (callsNothing : tool.Within .sameCalls) :
    let left := (tool.run request).after site
    tool.LeavesFiles request site left ∧
    (∀ place, tool.Spares request site place →
      left.workspace.entryAt? place = site.workspace.entryAt? place) ∧
    (left.calls = site.calls ∨ ∃ call found, left.calls = site.calls ++ [(call, found)] ∧
      ∀ crs flag, request.crs = some crs → tool.profile.crsFlag = some flag →
        ∃ path octets, tool.HandsOver request site call found flag path octets) ∧
    (∀ failure unstaged, tool.stage request site = .error failure unstaged →
      left.calls = site.calls) := by
  have leaves := leavesFiles_after_run encodable keeps
  refine ⟨leaves, fun place spared => entryAt?_of_leavesFiles leaves spared, ?_, ?_⟩
  · rcases calls_after_run callsNothing request site with none_ | ⟨call, found, reaches, one⟩
    · exact .inl none_
    · refine .inr ⟨call, found, one, fun crs flag asked takes => ?_⟩
      exact handsOver_of_reaches encodable keeps reaches asked takes
  · intro failure unstaged staging
    rcases calls_after_run callsNothing request site with none_ | ⟨call, found, reaches, -⟩
    · exact none_
    · obtain ⟨again, -⟩ := reaches
      rw [staging] at again
      cases again

end Tool

/-! ### A run with a side file, and one whose hook drops it -/

/-- The library of the systems that are compiled in. Its texts are long, and nothing but the kernel
is to compute with them. -/
@[irreducible]
def compiledSystems : CrsLibrary := (Geodesy.builtin "unknown").library

/-- A tool whose hook before a run is the given one. Its runner always succeeds. -/
def hookedTool (before : CommandContext → List String) : Tool where
  executable := "gdal_translate"
  environment := []
  profile := .gdalTranslate
  hooks := { before := fun context => pure (before context) }
  runner := fun _ => pure ⟨0, ""⟩
  systems := compiledSystems

/-- A request for a coordinate system. -/
def heightRequest : Request where
  input := ⟨.single, ["in.tif"]⟩
  directory := ⟨.single, ["out"]⟩
  typeName := "t"
  format := { toolCode := "PDF", publicName := "GDAL-PDF", extension := some ".pdf" }
  crs := some (.text "EPSG:5773")

/-- A site with the input of the request. -/
def inputSite : Site where
  workspace := { here := [], entries := [(["in.tif"], .file [])] }

theorem heightRequest_isEncodable (crs : Crs) (asked : heightRequest.crs = some crs) :
    crs.IsEncodable compiledSystems := by
  cases asked
  intro text described
  have written : (match (Crs.text "EPSG:5773").wellKnownTextIn compiledSystems with
      | .ok text => (Crs.sideFileContent text).isOk
      | .error _ => true) = true := by decide +kernel
  rw [described] at written
  cases content : Crs.sideFileContent text with
  | ok octets => exact ⟨octets, rfl⟩
  | error failure => simp [content, Except.isOk, Except.toBool] at written

theorem hookedTool_keeps (before : CommandContext → List String) (path : Path) :
    (hookedTool before).Keeps heightRequest inputSite path := by
  intro workspace changed works octets read
  cases works with
  | before staging => exact read
  | runs staging hooked => exact read
  | afterwards begun => exact read

theorem hookedTool_within (before : CommandContext → List String) :
    (hookedTool before).Within .sameCalls where
  before _ := Action.respects_pure _
  runs _ := Action.respects_pure _
  afterwards _ := Action.respects_pure _

/-- With a hook that leaves the command alone the file is named after the flag, and gone at the
end. -/
theorem run_leaves_no_height_file :
    let tool := hookedTool (·.command)
    let left := (tool.run heightRequest).after inputSite
    (∀ crs, heightRequest.crs = some crs → crs.IsEncodable tool.systems) ∧
    (∀ path, tool.Keeps heightRequest inputSite path) ∧
    tool.Within .sameCalls ∧
    left.calls.map (·.1.argv) = [["gdal_translate", "-of", "PDF", "-a_srs", "/srs00000000.wkt",
      "/in.tif", "/out/t.pdf"]] ∧
    tool.LeavesFiles heightRequest inputSite left ∧
    left.workspace.entries = inputSite.workspace.entries := by
  have keeps := hookedTool_keeps (·.command)
  have within := hookedTool_within (·.command)
  have evaluated :
      let left := ((hookedTool (·.command)).run heightRequest).after inputSite
      left.calls.map (·.1.argv) = [["gdal_translate", "-of", "PDF", "-a_srs", "/srs00000000.wkt",
        "/in.tif", "/out/t.pdf"]] ∧
      left.workspace.entries = inputSite.workspace.entries := by
    decide +kernel
  obtain ⟨leaves, -⟩ := Tool.run_leaves_no_side_file (hookedTool (·.command)) heightRequest
    inputSite heightRequest_isEncodable (fun path _ _ => keeps path) within
  exact ⟨heightRequest_isEncodable, keeps, within, evaluated.1, leaves, evaluated.2⟩

/-- With a hook that replaces the command the flag is dropped, though the file is staged. -/
theorem replacing_hook_drops_flag :
    let tool := hookedTool fun _ => ["gdal_translate"]
    let left := (tool.run heightRequest).after inputSite
    heightRequest.crs.isSome ∧ tool.profile.crsFlag = some "-a_srs" ∧
    left.calls.map (·.1.argv) = [["gdal_translate", "/in.tif", "/out/t.pdf"]] ∧
    ∀ call ∈ left.calls, "-a_srs" ∉ call.1.argv := by
  decide +kernel

end GeoBridge
