import GeoBridge.Proofs.CommandLayout

/-!
Owns where the output of a conversion is: the path that the tool is told, and the one that is told
afterwards.

Owns:
- direct children of directories, by their paths and by the places that these lead to;
- the path of an output: what its name spells, followed from the absolute directory;
- the names for which the path is a direct child of the directory, and what a run makes of the path
  for any name.
-/

namespace GeoBridge

/-! ### Children -/

namespace Path

/-- A path is the direct child of a directory under a name: it goes on from the directory by this
name alone, which does not lead back. -/
structure IsChild (path directory : Path) (name : String) : Prop where
  root : path.root = directory.root
  parts : path.parts = directory.parts ++ [name]
  onward : name ≠ ".."

/-- What a name leads to from a directory is the direct child of that name exactly if the name is
one part of a path and does not lead back. -/
theorem isChild_joinText_iff (directory : Path) (name : String) :
    (directory.joinText name).IsChild directory name ↔ IsPart name ∧ name ≠ ".." := by
  constructor
  · intro child
    refine ⟨?_, child.onward⟩
    have parts := child.parts
    by_cases rooted : (ofString name).isAbsolute
    · rw [joinText, join, if_pos rooted] at parts
      exact isPart_of_mem (parts ▸ List.mem_append_right directory.parts List.mem_cons_self)
    · rw [joinText, join, if_neg rooted] at parts
      exact isPart_of_mem (List.append_cancel_left parts ▸ List.mem_cons_self)
  · rintro ⟨isPart, onward⟩
    rw [joinText_of_isPart directory isPart]
    exact ⟨rfl, rfl, onward⟩

/-- The text of the child of an absolute directory goes on from that of the directory. -/
theorem text_of_isChild {path directory : Path} {name : String}
    (child : path.IsChild directory name) (rooted : directory.isAbsolute = true) :
    ∃ further, path.text = directory.text ++ further := by
  obtain ⟨root, names⟩ := directory
  obtain rfl : path = ⟨root, names ++ [name]⟩ :=
    (Path.mk.injEq _ _ _ _).mpr ⟨child.root, child.parts⟩
  obtain ⟨further, joined⟩ : ∃ further,
      "/".intercalate (names ++ [name]) = "/".intercalate names ++ further := by
    cases names with
    | nil => exact ⟨name, by simp⟩
    | cons first rest =>
        exact ⟨"/" ++ name, by
          rw [String.intercalate_append_of_ne_nil (by simp) (by simp), String.append_assoc,
            String.intercalate_singleton]⟩
  cases root with
  | relative => cases rooted
  | single => exact ⟨further, by rw [text, text, joined, String.append_assoc]⟩
  | double => exact ⟨further, by rw [text, text, joined, String.append_assoc]⟩

end Path

namespace Workspace

variable {workspace : Workspace}

/-- The child of an absolute directory leads to a place directly inside that of the directory. -/
theorem locate_of_isChild {path directory : Path} {name : String} {place : Place}
    (child : path.IsChild directory name) (rooted : directory.isAbsolute = true)
    (located : workspace.locate path = .ok place) :
    ∃ above, workspace.locate directory = .ok above ∧ place = above ++ [name] := by
  obtain ⟨further, text⟩ := Path.text_of_isChild child rooted
  have alsoRooted : path.isAbsolute = true := by
    rwa [Path.isAbsolute, child.root]
  unfold locate at located
  rw [text, alsoRooted, child.parts] at located
  split at located
  · cases located
  · next noNull =>
      split at located
      · cases located
      · next short =>
          obtain ⟨above, followed, step⟩ := follow_of_append located
          have straight : ".." ∉ [name] := by simpa using child.onward.symm
          refine ⟨above, ?_, follow_eq straight step⟩
          -- The path of the directory begins that of its child, and so passes the same checks.
          have alsoNoNull : ¬ directory.text.toList.contains '\x00' = true := by
            intro null
            exact noNull (by simp_all)
          have alsoShort : ¬ 4095 < directory.text.utf8ByteSize := by
            rw [String.utf8ByteSize_append] at short
            omega
          rw [locate, if_neg alsoNoNull, if_neg alsoShort, rooted]
          exact followed

end Workspace

/-! ### Outputs -/

namespace Request

variable (request : Request)

/-- The path of an output is what its name spells, followed from the absolute directory. -/
theorem outputPath_eq (here : Path) :
    request.outputPath here = (request.directory.absolute here).joinText request.filename := by
  -- The path is made absolute only after the name was followed, which may have been absolute.
  unfold outputPath Path.joinText Path.absolute Path.join
  by_cases named : (Path.ofString request.filename).isAbsolute
  · rw [if_pos named, if_pos named, if_pos named]
  · by_cases rooted : request.directory.isAbsolute
    · have kept : (⟨request.directory.root, request.directory.parts ++
          (Path.ofString request.filename).parts⟩ : Path).isAbsolute = true := rooted
      rw [if_neg named, if_pos kept, if_neg named, if_pos rooted]
    · have kept : ¬ (⟨request.directory.root, request.directory.parts ++
          (Path.ofString request.filename).parts⟩ : Path).isAbsolute = true := rooted
      rw [if_neg named, if_neg kept, if_neg named, if_neg rooted, List.append_assoc]

/-- How the output of a request lies in its directory, for a name and the files as they stand. The
path is what the name spells, followed from the absolute directory, so an absolute name leads away
from it. The path is the direct child of the directory exactly if the name is one part of a path
and does not lead back; the same holds of what the name leads to from the path. A direct child
leads to a place directly inside that of the directory. -/
structure Lies (request : Request) (name : String) (workspace : Workspace) : Prop where
  path : request.outputPath workspace.herePath =
    (request.directory.absolute workspace.herePath).joinText name
  away : (Path.ofString name).isAbsolute = true →
    request.outputPath workspace.herePath = Path.ofString name
  child : (request.outputPath workspace.herePath).IsChild
    (request.directory.absolute workspace.herePath) name ↔ Path.IsPart name ∧ name ≠ ".."
  inner : ((request.outputPath workspace.herePath).joinText name).IsChild
    (request.outputPath workspace.herePath) name ↔ Path.IsPart name ∧ name ≠ ".."
  inside : Path.IsPart name → name ≠ ".." → ∀ place,
    workspace.locate (request.outputPath workspace.herePath) = .ok place →
      ∃ above, workspace.locate (request.directory.absolute workspace.herePath) = .ok above ∧
        place = above ++ [name]

theorem lies (workspace : Workspace) : request.Lies request.filename workspace := by
  have path := request.outputPath_eq workspace.herePath
  have child := Path.isChild_joinText_iff (request.directory.absolute workspace.herePath)
    request.filename
  refine ⟨path, ?_, path ▸ child, Path.isChild_joinText_iff _ _, ?_⟩
  · intro named
    rw [path, Path.joinText, Path.join, if_pos named]
  · intro isPart onward place located
    rw [path] at located
    exact Workspace.locate_of_isChild (child.mpr ⟨isPart, onward⟩)
      (Tool.isAbsolute_absolute request.directory workspace) located

end Request

namespace Tool

variable {tool : Tool} {request : Request} {begun : Site}

/-- What a run makes of the path of its output. The command ends in the paths, of which it is one. A
conversion tells the path again, as it is or, where it is a directory, followed by the name. The two
paths are the same unless the working directory has changed and the directory is relative to it. -/
structure Calling.UsesPath (calling : tool.Calling request begun) (name : String) : Prop where
  told : ∃ front, calling.call.argv =
    front ++ if tool.profile.inputFirst
      then [(request.input.absolute calling.found.herePath).text,
        (request.outputPath calling.found.herePath).text]
      else [(request.outputPath calling.found.herePath).text,
        (request.input.absolute calling.found.herePath).text]
  returned : ∀ conversion, (tool.run request).ending begun = .ok conversion →
    let path := request.outputPath calling.rest.workspace.herePath
    (calling.rest.workspace.probe path = .ok (some .directory) ∧
      conversion.outputPath = path.joinText name) ∨
    (calling.rest.workspace.probe path ≠ .ok (some .directory) ∧ conversion.outputPath = path)
  same : calling.rest.workspace.here = calling.found.here ∨ request.directory.isAbsolute = true →
    request.outputPath calling.rest.workspace.herePath =
      request.outputPath calling.found.herePath

/-- A conversion tells the path of the output, or what its name leads to from it. -/
theorem outputPath_of_judge {command : List String} {outcome : CommandOutcome} {site : Site}
    {conversion : Conversion}
    (judged : (tool.judge request command outcome).ending site = .ok conversion) :
    let path := request.outputPath site.workspace.herePath
    (site.workspace.probe path = .ok (some .directory) ∧
      conversion.outputPath = path.joinText request.filename) ∨
    (site.workspace.probe path ≠ .ok (some .directory) ∧ conversion.outputPath = path) := by
  intro path
  obtain ⟨-, rfl⟩ := conversion_of_judge judged
  unfold producedIn
  dsimp only
  split
  · next probed => exact .inl ⟨probed, rfl⟩
  · next other => exact .inr ⟨other, rfl⟩

theorem Calling.usesPath (calling : tool.Calling request begun) :
    calling.UsesPath request.filename where
  told := by
    obtain ⟨adjusted, -, laid⟩ := prepare_eq_ok.mp calling.preparing
    exact ⟨adjusted, laid⟩
  returned := by
    intro conversion succeeded
    rcases calling.ending_run_cases with
      ⟨failure, -, failed⟩ | ⟨failure, -, -, failed⟩ | ⟨outcome, -, -, judged⟩
    · rw [succeeded] at failed
      cases failed
    · rw [succeeded] at failed
      cases failed
    · rw [judged] at succeeded
      exact outputPath_of_judge succeeded
  same := by
    rintro (unmoved | rooted)
    · rw [Workspace.herePath, unmoved, ← Workspace.herePath]
    · have fixed (here : Path) : request.directory.absolute here = request.directory := by
        rw [Path.absolute, Path.join, if_pos rooted]
      rw [request.outputPath_eq, request.outputPath_eq, fixed, fixed]

/-- A run that ends with a conversion has come to its call. -/
theorem nonempty_calling_of_ok {conversion : Conversion}
    (succeeded : (tool.run request).ending begun = .ok conversion) :
    Nonempty (tool.Calling request begun) := by
  by_contra uncalled
  have positive := (statusOf_run_of_uncalled uncalled).1
  rw [succeeded] at positive
  exact Int.lt_irrefl 0 positive

/-- The output of every request is the direct child of the absolute output directory, under the type
name with the extension of the format, exactly if these make one part of a path that does not lead
back. Whatever they make, a run tells its tool the path of the output, and a conversion tells it
again, or what the same name leads to from it if it is a directory. -/
theorem outputs_are_children_iff (tool : Tool) (request : Request) (begun : Site) :
    let name := request.typeName ++ request.format.extension.getD ""
    (∀ workspace, request.Lies name workspace) ∧
    (∀ calling : tool.Calling request begun, calling.UsesPath name) ∧
    ∀ conversion, (tool.run request).ending begun = .ok conversion →
      Nonempty (tool.Calling request begun) :=
  ⟨request.lies, fun calling => calling.usesPath, fun _ => nonempty_calling_of_ok⟩

end Tool

/-! ### A name that leads away -/

/-- A request whose type name is absolute. -/
def absoluteRequest : Request := { heightRequest with typeName := "/t", crs := none }

/-- The tool is told to write outside of the output directory, and the conversion tells so. -/
theorem absolute_name_leads_away :
    let tool := hookedTool (·.command)
    let outside : Path := ⟨.single, ["t.pdf"]⟩
    ∃ calling : tool.Calling absoluteRequest inputSite, calling.UsesPath "/t.pdf" ∧
      absoluteRequest.Lies "/t.pdf" calling.found ∧
      ¬ (Path.IsPart "/t.pdf" ∧ "/t.pdf" ≠ "..") ∧
      (tool.run absoluteRequest).ending inputSite = .ok
        { outputPath := outside, formatName := "GDAL-PDF"
          command := ["gdal_translate", "-of", "PDF", "/in.tif", outside.text], output := "" } := by
  intro tool outside
  have converted : (tool.run absoluteRequest).ending inputSite = .ok
      { outputPath := outside, formatName := "GDAL-PDF"
        command := ["gdal_translate", "-of", "PDF", "/in.tif", outside.text], output := "" } := by
    decide +kernel
  obtain ⟨lies, uses, called⟩ := Tool.outputs_are_children_iff tool absoluteRequest inputSite
  obtain ⟨calling⟩ := called _ converted
  have divided : ¬ Path.IsPart "/t.pdf" := fun isPart => isPart.undivided (by decide)
  exact ⟨calling, uses calling, lies calling.found, fun both => divided both.1, converted⟩

end GeoBridge
