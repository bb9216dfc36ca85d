import GeoBridge.Proofs.ConversionEndings
import GeoBridge.Proofs.ConversionFiles

/-!
Owns how the command of a run is laid out, and where it is told of again.

Owns:
- hooks as functions on commands, with those of the families that are built in;
- the segments of a command: what the hook before the run is given, and the paths after it;
- the call of a run, whose words the conversion and the failures of the run repeat.
-/

namespace GeoBridge

/-! ### Hooks as functions -/

/-- The hook before a run, wherever it returns, returns what a function makes of its context. -/
def Hooks.Apply (hooks : Hooks) (hook : CommandContext → List String) : Prop :=
  ∀ context site adjusted left, hooks.before context site = .ok adjusted left →
    adjusted = hook context

/-- The hook of the vector tool names the layer exactly if the options of the format do not. -/
theorem Family.ogr_hooks_apply :
    Family.ogr.hooks.hooks.Apply fun context =>
      if "-nln" ∈ context.request.format.options then context.command
      else context.command ++ ["-nln", context.request.typeName] := by
  intro context site adjusted left hooked
  cases hooked
  simp only [namedLayer, List.contains_iff_mem]

theorem Family.gdal_hooks_apply : Family.gdal.hooks.hooks.Apply (·.command) := by
  intro context site adjusted left hooked
  cases hooked
  rfl

/-! ### Side files -/

theorem Crs.isNewSideFile_of_stage {library : CrsLibrary} {directory path : Path} {crs : Crs}
    {naming : Naming} {site left : Site}
    (staged : stage library directory crs naming site = .ok path left) :
    IsNewSideFile site.workspace directory path := by
  cases stagingEnd library .plain directory crs naming site with
  | staged described isNew content ended recorded =>
      rw [stage, ended] at staged
      cases staged
      exact isNew
  | refused _ ended | uncreated _ _ ended | removed _ ended | abandoned _ _ _ _ _ ended =>
      rw [stage, ended] at staged
      cases staged

namespace Tool

variable {tool : Tool} {request : Request} {sideFile : Option Path} {site left begun : Site}

/-- A side file is staged if a coordinate system is given and the tool takes one, at an absolute
path. -/
theorem sideFile_of_stage (staging : tool.stage request site = .ok sideFile left) :
    (sideFile = none ∧ (request.crs = none ∨ tool.profile.crsFlag = none)) ∨
      ∃ path, sideFile = some path ∧ path.isAbsolute = true ∧ request.crs.isSome ∧
        tool.profile.crsFlag.isSome := by
  rcases takes_or_not tool request with without | ⟨crs, flag, given, taken⟩
  · obtain ⟨left, nothing, -⟩ := @stage_of_untaken tool request without site
    rw [staging] at nothing
    cases nothing
    exact .inl ⟨rfl, without⟩
  · rw [stage_of_taken given taken] at staging
    cases staged : crs.stage tool.systems (stagingDirectory request site) tool.naming site with
    | ok path middle =>
        rw [staged] at staging
        cases staging
        exact .inr ⟨path, rfl, (Crs.isNewSideFile_of_stage staged).isAbsolute, by simp [given],
          by simp [taken]⟩
    | error failure middle =>
        rw [staged] at staging
        cases staging

/-! ### Segments -/

/-- The segments of a command. The front is the executable, the flag and the code of the format if
the tool takes such a flag, the options of the format as they are declared, and the flag and the
path of the side file if a coordinate system is given and the tool takes one. The paths are those of
the input and of the output, both absolute, in the order that the tool expects. -/
structure Lays (tool : Tool) (request : Request) (sideFile : Option Path) (here : Path)
    (front paths : List String) : Prop where
  front : ∃ choice side, front = tool.executable :: choice ++ request.format.options ++ side ∧
    (tool.profile.formatFlag = none → choice = []) ∧
    (∀ flag, tool.profile.formatFlag = some flag → choice = [flag, request.format.toolCode]) ∧
    (request.crs = none ∨ tool.profile.crsFlag = none → sideFile = none ∧ side = []) ∧
    ∀ crs flag, request.crs = some crs → tool.profile.crsFlag = some flag →
      ∃ path, sideFile = some path ∧ path.isAbsolute = true ∧ side = [flag, path.text]
  paths : ∃ input output, input = request.input.absolute here ∧
    output = (request.directory.joinText
      (request.typeName ++ request.format.extension.getD "")).absolute here ∧
    input.isAbsolute = true ∧ output.isAbsolute = true ∧
    paths = if tool.profile.inputFirst then [input.text, output.text]
      else [output.text, input.text]

theorem isAbsolute_absolute (path : Path) (workspace : Workspace) :
    (path.absolute workspace.herePath).isAbsolute = true := by
  unfold Path.absolute Path.join
  split
  · next rooted => exact rooted
  · rfl

theorem lays_of_stage (staging : tool.stage request site = .ok sideFile left)
    (workspace : Workspace) :
    tool.Lays request sideFile workspace.herePath (tool.contextOf request sideFile).command
      (tool.pathArguments request workspace.herePath) where
  front := by
    refine ⟨_, tool.crsArguments sideFile, rfl, ?_, ?_, ?_, ?_⟩
    · intro unflagged
      simp only [unflagged]
    · intro flag flagged
      simp only [flagged]
    · intro without
      rcases sideFile_of_stage staging with ⟨rfl, -⟩ | ⟨path, -, -, given, taken⟩
      · exact ⟨rfl, rfl⟩
      · rcases without with ungiven | untaken
        · simp [ungiven] at given
        · simp [untaken] at taken
    · intro crs flag given taken
      rcases sideFile_of_stage staging with ⟨-, ungiven | untaken⟩ | ⟨path, rfl, rooted, -, -⟩
      · simp [given] at ungiven
      · simp [taken] at untaken
      · exact ⟨path, rfl, rooted, by simp only [crsArguments, taken]⟩
  paths := ⟨_, _, rfl, rfl, isAbsolute_absolute _ _, isAbsolute_absolute _ _, rfl⟩

/-! ### Calls -/

namespace Calling

/-- The call of a run is laid out in segments, of which a function has changed the front. The
conversion repeats the words of the call, and so does the failure of a conversion, unless it is one
of the runner's own or comes of what is done after the call. -/
structure IsLaidOut (calling : tool.Calling request begun)
    (hook : CommandContext → List String) : Prop where
  argv : ∃ front paths,
    tool.Lays request calling.sideFile calling.found.herePath front paths ∧
    calling.call.argv = hook { command := front, request, sideFile := calling.sideFile } ++ paths
  environment : calling.call.environment = some tool.environment
  converted : ∀ conversion, (tool.run request).ending begun = .ok conversion →
    conversion.command = calling.call.argv ∧ conversion.formatName = request.format.publicName
  failed : ∀ fault, (tool.run request).ending begun = .error (.conversion fault) →
    fault.command = calling.call.argv ∨ calling.ended = .error (.conversion fault) ∨
      calling.concluding.ending calling.left = .error (.conversion fault)

/-- The judgement of a command that has ended repeats the command. -/
theorem command_of_judge (command : List String) (outcome : CommandOutcome) (site : Site) :
    let judged := (tool.judge request command outcome).ending site
    (∀ conversion, judged = .ok conversion →
      conversion.command = command ∧ conversion.formatName = request.format.publicName) ∧
    ∀ fault, judged = .error (.conversion fault) → fault.command = command := by
  intro judged
  refine ⟨fun conversion converted => ?_, ?_⟩
  · obtain ⟨-, rfl⟩ := conversion_of_judge converted
    exact ⟨rfl, rfl⟩
  · by_cases succeeded : outcome.exitCode = 0
    · cases probed : site.workspace.probe (request.outputPath site.workspace.herePath) with
      | ok found =>
          have whole : judged = .ok _ := Action.ending_of_ok (judge_of_probed succeeded probed)
          rw [whole]
          exact nofun
      | error obstacle =>
          have whole : judged = .error _ :=
            Action.ending_of_error (judge_of_blocked succeeded probed)
          rw [whole]
          intro fault same
          cases obstacle <;> cases same
    · have whole : judged = .error _ := Action.ending_of_error (judge_of_unsuccessful succeeded)
      rw [whole]
      intro fault same
      cases same
      rfl

theorem isLaidOut (calling : tool.Calling request begun) {hook : CommandContext → List String}
    (applies : tool.hooks.Apply hook) : calling.IsLaidOut hook := by
  obtain ⟨adjusted, hooked, laid⟩ := prepare_eq_ok.mp calling.preparing
  obtain rfl := applies _ _ _ _ hooked
  have lays := lays_of_stage calling.staging calling.found
  refine ⟨⟨_, _, lays, laid⟩, rfl, ?_, ?_⟩
  · intro conversion succeeded
    rcases calling.ending_run_cases with
      ⟨_, -, failed⟩ | ⟨_, -, -, failed⟩ | ⟨outcome, -, -, judged⟩
    · rw [succeeded] at failed
      cases failed
    · rw [succeeded] at failed
      cases failed
    · rw [judged] at succeeded
      exact (command_of_judge calling.command outcome calling.rest).1 conversion succeeded
  · intro fault failed
    rcases calling.ending_run_cases with
      ⟨failure, hindered, again⟩ | ⟨failure, -, ended, again⟩ | ⟨outcome, -, -, judged⟩
    · rw [failed] at again
      cases again
      exact .inr (.inr hindered)
    · rw [failed] at again
      -- What is not translated stays the failure that the runner ended with.
      unfold conversionFailure at again
      split at again
      · cases again
        exact .inl rfl
      · cases again
        exact .inl rfl
      · cases again
        exact .inr (.inl ended)
    · rw [judged] at failed
      exact .inl ((command_of_judge calling.command outcome calling.rest).2 fault failed)

end Calling

/-- Whenever a run calls the runner, it does so once, and the call is laid out with the front that
the hook makes of the segments before the paths. The hooks of the families that are built in are
such functions: that of the vector tool names the layer exactly if no option does, and that of the
raster tool adds nothing. -/
theorem calls_are_laid_out (tool : Tool) (request : Request) (begun : Site)
    (hook : CommandContext → List String) (applies : tool.hooks.Apply hook)
    (within : tool.Within .sameCalls) :
    (((tool.run request).after begun).calls = begun.calls ∨
      ∃ calling : tool.Calling request begun,
        ((tool.run request).after begun).calls =
          begun.calls ++ [(calling.call, calling.found)]) ∧
    (∀ calling : tool.Calling request begun, calling.IsLaidOut hook) ∧
    Family.ogr.hooks.hooks.Apply (fun context =>
      if "-nln" ∈ context.request.format.options then context.command
      else context.command ++ ["-nln", context.request.typeName]) ∧
    Family.gdal.hooks.hooks.Apply (·.command) := by
  refine ⟨?_, fun calling => calling.isLaidOut applies, Family.ogr_hooks_apply,
    Family.gdal_hooks_apply⟩
  by_cases called : Nonempty (tool.Calling request begun)
  · obtain ⟨calling⟩ := called
    exact .inr ⟨calling, calling.calls_after_run within⟩
  · exact .inl (calls_of_uncalled within called)

end Tool

/-! ### A command with an option in front of its paths -/

/-- The options that a hook adds stand between the side file and the paths. -/
theorem call_with_option_is_laid_out :
    let hook (context : CommandContext) := context.command ++ ["-q"]
    let tool := hookedTool hook
    tool.hooks.Apply hook ∧ tool.Within .sameCalls ∧
    ∃ calling : tool.Calling heightRequest inputSite, calling.IsLaidOut hook ∧
      calling.call.argv = ["gdal_translate", "-of", "PDF", "-a_srs", "/srs00000000.wkt", "-q",
        "/in.tif", "/out/t.pdf"] := by
  intro hook tool
  have applies : tool.hooks.Apply hook := by
    intro context site adjusted left hooked
    cases hooked
    rfl
  have within : tool.Within .sameCalls := hookedTool_within hook
  obtain ⟨called, laid, -⟩ :=
    Tool.calls_are_laid_out tool heightRequest inputSite hook applies within
  have argv : ((tool.run heightRequest).after inputSite).calls.map (·.1.argv) =
      [["gdal_translate", "-of", "PDF", "-a_srs", "/srs00000000.wkt", "-q", "/in.tif",
        "/out/t.pdf"]] := by
    decide +kernel
  rcases called with none_ | ⟨calling, one⟩
  · rw [none_] at argv
    cases argv
  · rw [one] at argv
    exact ⟨applies, within, calling, laid calling, (List.cons.inj argv).1⟩

end GeoBridge
