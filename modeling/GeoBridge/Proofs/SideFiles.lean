import GeoBridge.Crs.SideFile
import GeoBridge.Proofs.Frame
import GeoBridge.Proofs.Paths
import GeoBridge.Proofs.Places

/-!
Owns what the staging of a coordinate system does to the files.

Owns:
- the path of a side file: one name in the directory, which is in lexical normal form;
- new side files, whose place is free and can be reached;
- the filling of a new file, which a device can interrupt, and whether the file is removed then;
- the staging: it leaves one new file with the whole text, or everything as it was, or a file that
  was abandoned.
-/

namespace GeoBridge

/-! ### Names -/

namespace Crs

theorem isPart_of_isSideFileName {name : String} (named : IsSideFileName name) :
    Path.IsPart name := by
  obtain ⟨drawn, noSlash, characters⟩ := named
  refine ⟨?_, ?_, ?_⟩
  · rintro rfl
    cases characters
  · rintro rfl
    cases characters
  · rw [characters]
    simp [noSlash]

/-- The path of a side file that is still to be written: one name in the directory in its normal
form, a free place, and a way to it. -/
structure IsNewSideFile (workspace : Workspace) (directory path : Path) : Prop where
  named : ∃ name, IsSideFileName name ∧
    path = ⟨(directory.resolveLexically workspace.herePath).root,
      (directory.resolveLexically workspace.herePath).parts ++ [name]⟩
  free : workspace.entryAt? path.parts = none
  located : workspace.locate path = .ok path.parts

theorem ne_doubleDot {name : String} (named : IsSideFileName name) : name ≠ ".." := by
  obtain ⟨drawn, -, characters⟩ := named
  rintro rfl
  rw [String.toList] at characters
  cases characters

/-! ### Creation -/

variable {device : Device} {naming : Naming} {directory path : Path} {site : Site}

theorem isSideFileName_nameIn (naming : Naming) (workspace : Workspace) (absolute : Path) :
    IsSideFileName (nameIn naming workspace absolute) := by
  unfold nameIn
  split
  · exact naming.isSideFileName _ _
  · exact isSideFileName_sideFileName 0

theorem createSideFile_eq (takes : device.creating site.workspace = none)
    (joined : (directory.resolveLexically site.workspace.herePath).joinText
      (nameIn naming site.workspace (directory.resolveLexically site.workspace.herePath)) = path) :
    createSideFile device naming directory site =
      (Action.writeFile path [] >>= fun _ => pure path) site := by
  subst joined
  unfold createSideFile
  rw [Action.get_bind, takes]

/-- A place that can be written in a directory is free if the name was chosen for the directory. -/
theorem isNewSideFile_of_writable {name : String} {place : Place}
    (chosen : name = nameIn naming site.workspace
      (directory.resolveLexically site.workspace.herePath))
    (writes : site.workspace.writable
      ⟨(directory.resolveLexically site.workspace.herePath).root,
        (directory.resolveLexically site.workspace.herePath).parts ++ [name]⟩ = .ok place) :
    IsNewSideFile site.workspace directory
        ⟨(directory.resolveLexically site.workspace.herePath).root,
          (directory.resolveLexically site.workspace.herePath).parts ++ [name]⟩ ∧
      place = (directory.resolveLexically site.workspace.herePath).parts ++ [name] := by
  have named : IsSideFileName name := chosen ▸ isSideFileName_nameIn _ _ _
  have rooted := directory.isAbsolute_resolveLexically site.workspace
  have straight : ".." ∉ (directory.resolveLexically site.workspace.herePath).parts :=
    Path.doubleDot_notMem _
  generalize absoluteIs : directory.resolveLexically site.workspace.herePath = absolute at *
  have rootedOn : (⟨absolute.root, absolute.parts ++ [name]⟩ : Path).isAbsolute = true := rooted
  have straightOn : ".." ∉ absolute.parts ++ [name] := by
    simpa using ⟨straight, (ne_doubleDot named).symm⟩
  have located := Workspace.locate_of_writable writes
  obtain ⟨followed, rfl⟩ := Workspace.locate_eq rootedOn straightOn located
  obtain ⟨found, toDirectory, -⟩ := Workspace.follow_of_append followed
  have foundHere := Workspace.follow_eq straight toDirectory
  rw [foundHere, List.nil_append] at toDirectory
  have free : site.workspace.entryAt? (absolute.parts ++ [name]) = none := by
    rw [chosen, nameIn, toDirectory]
    exact naming.isFree site.workspace absolute.parts
  refine ⟨⟨⟨name, named, ?_⟩, free, located⟩, rfl⟩
  rw [absoluteIs]

/-- A side file is created empty at a new path, or nothing changes. -/
theorem createSideFile_cases (device : Device) (naming : Naming) (directory : Path) (site : Site) :
    (∃ path, IsNewSideFile site.workspace directory path ∧
      createSideFile device naming directory site =
        .ok path { site with workspace := site.workspace.put path.parts (.file []) }) ∨
    ∃ failure, createSideFile device naming directory site = .error failure site := by
  cases takes : device.creating site.workspace with
  | some fault =>
      refine .inr ⟨.outside fault, ?_⟩
      rw [createSideFile, Action.get_bind, takes]
      rfl
  | none =>
      have named := isSideFileName_nameIn naming site.workspace
        (directory.resolveLexically site.workspace.herePath)
      rw [createSideFile_eq takes (Path.joinText_of_isPart _ (isPart_of_isSideFileName named))]
      cases written : site.workspace.write _ [] with
      | error obstacle => exact .inr ⟨_, Action.bind_of_error (Action.writeFile_of_error written)⟩
      | ok changed =>
          obtain ⟨place, writes, rfl⟩ := Workspace.write_eq_ok.mp written
          obtain ⟨isNew, rfl⟩ := isNewSideFile_of_writable rfl writes
          exact .inl ⟨_, isNew, Action.bind_of_ok (Action.writeFile_of_ok written)⟩

/-! ### Filling -/

namespace Device

variable {workspace : Workspace} {text : Text.WideText}

/-- Whatever is not interrupted is written as a whole. -/
theorem write_whole (whole : (device.write workspace text).2 = none) :
    sideFileContent text = .ok (device.write workspace text).1 := by
  unfold write at whole ⊢
  split at whole
  · cases whole
  · next opened =>
      have closes := (Option.or_eq_none_iff.mp whole).2
      unfold transfer at closes ⊢
      split at closes
      · cases closes
      · next octets content =>
          split at closes
          · cases closes
          · exact content

/-- A device that can only be full interrupts texts with a UTF-8 form by that alone. -/
theorem plain_write {octets : List UInt8} {failure : Failure}
    (content : sideFileContent text = .ok octets)
    (interrupted : (plain.write workspace text).2 = some failure) :
    failure = .system .deviceFull := by
  have transferred : (plain.write workspace text).2 = (plain.transfer workspace text).2 := rfl
  rw [transferred, transfer, content] at interrupted
  simp only [plain] at interrupted
  split at interrupted
  · next taken fault stopped =>
      split at stopped <;> cases stopped
      exact (Option.some.inj interrupted).symm
  · cases interrupted

end Device

section Filling

variable {workspace : Workspace} {text : Text.WideText} {taken : List UInt8}
  (isNew : IsNewSideFile workspace directory path)
  (created : site.workspace = workspace.put path.parts (.file []))

include isNew created

/-- What the device takes of a text gets into a file that was created for it. -/
theorem writeSideFile_eq :
    writeSideFile device path text site =
      match device.write site.workspace text with
      | (taken, some failure) =>
          .error failure { site with workspace := workspace.put path.parts (.file taken) }
      | (taken, none) =>
          .ok () { site with workspace := workspace.put path.parts (.file taken) } := by
  have proper := Workspace.place_ne_nil isNew.free
  have located : site.workspace.locate path = .ok path.parts := by
    rw [created]
    exact Workspace.locate_put isNew.free isNew.located
  have entered : site.workspace.entryAt? path.parts = some (.file []) := by
    rw [created, Workspace.entryAt?_put proper, if_pos rfl]
  unfold writeSideFile
  rw [Action.get_bind]
  obtain ⟨taken, interruption⟩ := device.write site.workspace text
  have written := Workspace.write_of_file taken located entered
  rw [created, Workspace.put_put, ← created] at written
  simp only
  rw [Action.bind_of_ok (Action.writeFile_of_ok written)]
  cases interruption <;> rfl

theorem fillSideFile_of_whole (whole : device.write site.workspace text = (taken, none)) :
    fillSideFile device path text site =
      .ok () { site with workspace := workspace.put path.parts (.file taken) } := by
  have written : writeSideFile device path text site =
      .ok () { site with workspace := workspace.put path.parts (.file taken) } := by
    rw [writeSideFile_eq isNew created, whole]
  unfold fillSideFile
  rw [Action.bind_of_ok (Action.outcome_of_ok written)]
  rfl

/-- The file is removed again if a fault of the system interrupts its filling. -/
theorem fillSideFile_of_fault {fault : SystemFault}
    (interrupted : device.write site.workspace text = (taken, some (.system fault))) :
    fillSideFile device path text site = .error (.system fault) { site with workspace } := by
  have written : writeSideFile device path text site =
      .error (.system fault) { site with workspace := workspace.put path.parts (.file taken) } := by
    rw [writeSideFile_eq isNew created, interrupted]
  have proper := Workspace.place_ne_nil isNew.free
  have located : (workspace.put path.parts (.file taken)).locate path = .ok path.parts :=
    Workspace.locate_put isNew.free isNew.located
  have entered :
      (workspace.put path.parts (.file taken)).entryAt? path.parts = some (.file taken) := by
    rw [Workspace.entryAt?_put proper, if_pos rfl]
  have removed := Workspace.unlink_of_file located entered
  rw [Workspace.remove_put_of_free isNew.free] at removed
  unfold fillSideFile
  rw [Action.bind_of_ok (Action.outcome_of_error written)]
  exact Action.bind_of_ok (Action.removeFile_of_ok removed)

/-- The file is left behind if anything else interrupts its filling. -/
theorem fillSideFile_of_failure {failure : Failure}
    (foreign : ∀ fault, failure ≠ .system fault)
    (interrupted : device.write site.workspace text = (taken, some failure)) :
    fillSideFile device path text site =
      .error failure { site with workspace := workspace.put path.parts (.file taken) } := by
  have written : writeSideFile device path text site =
      .error failure { site with workspace := workspace.put path.parts (.file taken) } := by
    rw [writeSideFile_eq isNew created, interrupted]
  unfold fillSideFile
  rw [Action.bind_of_ok (Action.outcome_of_error written)]
  cases failure with
  | outside fault =>
      cases fault with
      | system fault => exact absurd rfl (foreign fault)
      | _ => rfl
  | _ => rfl

end Filling

/-! ### Ends of staging -/

/-- How the staging of a coordinate system ends: there is no text or no file for it; the file is
removed again or left behind; or the file holds the whole text. -/
inductive StagingEnd (library : CrsLibrary) (device : Device) (directory : Path) (crs : Crs)
    (naming : Naming) (site : Site) : Prop
  | refused {failure : Failure} (described : crs.wellKnownTextIn library = .error failure)
      (ended : stageIn library device directory crs naming site = .error failure site)
  | uncreated {text : Text.WideText} {failure : Failure}
      (described : crs.wellKnownTextIn library = .ok text)
      (uncreated : createSideFile device naming directory site = .error failure site)
      (ended : stageIn library device directory crs naming site = .error failure site)
  | removed {path : Path} {fault : SystemFault}
      (isNew : IsNewSideFile site.workspace directory path)
      (ended : stageIn library device directory crs naming site = .error (.system fault) site)
  | abandoned {text : Text.WideText} {path : Path} {begun : Site} {taken : List UInt8}
      {failure : Failure} (described : crs.wellKnownTextIn library = .ok text)
      (isNew : IsNewSideFile site.workspace directory path)
      (created : createSideFile device naming directory site = .ok path begun)
      (interrupted : device.write begun.workspace text = (taken, some failure))
      (foreign : ∀ fault, failure ≠ .system fault)
      (ended : stageIn library device directory crs naming site =
        .error failure { site with workspace := site.workspace.put path.parts (.file taken) })
  | staged {text : Text.WideText} {path : Path} {octets : List UInt8} {left : Site}
      (described : crs.wellKnownTextIn library = .ok text)
      (isNew : IsNewSideFile site.workspace directory path)
      (content : sideFileContent text = .ok octets)
      (ended : stageIn library device directory crs naming site = .ok path left)
      (recorded : Frame.recording.allows
        { site with workspace := site.workspace.put path.parts (.file octets) } left)

theorem stagingEnd (library : CrsLibrary) (device : Device) (directory : Path) (crs : Crs)
    (naming : Naming) (site : Site) : StagingEnd library device directory crs naming site := by
  have begins (path : Path) :
      ({ site with workspace := site.workspace.put path.parts (.file []) } : Site).workspace =
        site.workspace.put path.parts (.file []) := rfl
  have whole : stageIn library device directory crs naming site =
      (Action.ofExcept (crs.wellKnownTextIn library) >>= fun text => do
        let path ← createSideFile device naming directory
        fillSideFile device path text
        Action.record .debug .crs ("staged CRS definition in " ++ path.text)
        pure path) site := rfl
  cases described : crs.wellKnownTextIn library with
  | error failure =>
      rw [described] at whole
      exact .refused described whole
  | ok text =>
      have asked : Action.ofExcept (.ok text) site = .ok text site := rfl
      rw [described, Action.bind_of_ok asked] at whole
      rcases createSideFile_cases device naming directory site with
        ⟨path, isNew, created⟩ | ⟨failure, uncreated⟩
      · rw [Action.bind_of_ok created] at whole
        rcases written : device.write (site.workspace.put path.parts (.file [])) text with
          ⟨taken, _ | failure⟩
        · have filled := fillSideFile_of_whole isNew (begins path) written
          rw [Action.bind_of_ok filled] at whole
          have content : sideFileContent text = .ok taken := by
            have complete := Device.write_whole (congrArg Prod.snd written)
            rwa [written] at complete
          exact .staged described isNew content whole (Frame.recording_entered _ _)
        · by_cases system : ∃ fault, failure = .system fault
          · obtain ⟨fault, rfl⟩ := system
            have unfilled := fillSideFile_of_fault isNew (begins path) written
            rw [Action.bind_of_error unfilled] at whole
            exact .removed isNew whole
          · have foreign : ∀ fault, failure ≠ .system fault := not_exists.mp system
            have unfilled := fillSideFile_of_failure isNew (begins path) foreign written
            rw [Action.bind_of_error unfilled] at whole
            exact .abandoned described isNew created written foreign whole
      · rw [Action.bind_of_error uncreated] at whole
        exact .uncreated described uncreated whole

/-- The text of a coordinate system, if it has one, can be written as octets. -/
def IsEncodable (library : CrsLibrary) (crs : Crs) : Prop :=
  ∀ text, crs.wellKnownTextIn library = .ok text → ∃ octets, sideFileContent text = .ok octets

/-- Staging leaves a new file with the whole text of the coordinate system, or nothing changes. -/
theorem stage_cases {library : CrsLibrary} {crs : Crs} (encodable : crs.IsEncodable library)
    (naming : Naming) (directory : Path) (site : Site) :
    (∃ path text octets left, IsNewSideFile site.workspace directory path ∧
      crs.wellKnownTextIn library = .ok text ∧ sideFileContent text = .ok octets ∧
      stage library directory crs naming site = .ok path left ∧
      Frame.recording.allows
        { site with workspace := site.workspace.put path.parts (.file octets) } left) ∨
    ∃ failure, stage library directory crs naming site = .error failure site := by
  cases stagingEnd library .plain directory crs naming site with
  | refused _ ended | uncreated _ _ ended | removed _ ended => exact .inr ⟨_, ended⟩
  | abandoned described isNew created interrupted foreign ended =>
      obtain ⟨octets, content⟩ := encodable _ described
      exact absurd (Device.plain_write content (congrArg Prod.snd interrupted)) (foreign _)
  | staged described isNew content ended recorded =>
      exact .inl ⟨_, _, _, _, isNew, described, content, ended, recorded⟩

/-- A side file is abandoned if it was created for a text and anything but a fault of the system
interrupted its filling. -/
def IsAbandoned (library : CrsLibrary) (device : Device) (directory : Path) (crs : Crs)
    (naming : Naming) (site : Site) (failure : Failure) : Prop :=
  ∃ text path begun, crs.wellKnownTextIn library = .ok text ∧
    createSideFile device naming directory site = .ok path begun ∧
    (device.write begun.workspace text).2 = some failure ∧ ∀ fault, failure ≠ .system fault

/-- A text without a UTF-8 form interrupts the filling, and its file is abandoned. -/
theorem isAbandoned_of_unencodable {library : CrsLibrary} {crs : Crs} {text : Text.WideText}
    {begun : Site} (described : crs.wellKnownTextIn library = .ok text)
    (unencodable : text.toCharacters? = none)
    (created : createSideFile .plain naming directory site = .ok path begun) :
    crs.IsAbandoned library .plain directory naming site .unencodable := by
  refine ⟨text, path, begun, described, created, ?_, nofun⟩
  have interrupted : (Device.plain.write begun.workspace text).2 =
      (Device.plain.transfer begun.workspace text).2 := rfl
  rw [interrupted, Device.transfer, sideFileContent, unencodable]

/-- What is staged is one new file in the directory, which holds the UTF-8 form of the normalized
text. A failure leaves everything as it was, unless a file is abandoned, which stays. -/
theorem staging_leaves (library : CrsLibrary) (device : Device) (directory : Path) (crs : Crs)
    (naming : Naming) (site : Site) :
    match stageIn library device directory crs naming site with
    | .ok path left => ∃ text octets, crs.wellKnownTextIn library = .ok text ∧
        sideFileContent text = .ok octets ∧ IsNewSideFile site.workspace directory path ∧
        ∀ place, left.workspace.entryAt? place =
          if place = path.parts then some (.file octets) else site.workspace.entryAt? place
    | .error failure left =>
        (¬ crs.IsAbandoned library device directory naming site failure → left = site) ∧
        (crs.IsAbandoned library device directory naming site failure →
          ∃ path octets, IsNewSideFile site.workspace directory path ∧
            ∀ place, left.workspace.entryAt? place =
              if place = path.parts then some (.file octets)
              else site.workspace.entryAt? place) := by
  cases stagingEnd library device directory crs naming site with
  | refused described ended =>
      rw [ended]
      refine ⟨fun _ => rfl, ?_⟩
      rintro ⟨text, path, begun, again, -⟩
      rw [described] at again
      cases again
  | uncreated described uncreated ended =>
      rw [ended]
      refine ⟨fun _ => rfl, ?_⟩
      rintro ⟨text, path, begun, -, created, -⟩
      rw [uncreated] at created
      cases created
  | removed isNew ended =>
      rw [ended]
      refine ⟨fun _ => rfl, ?_⟩
      rintro ⟨text, path, begun, -, -, -, foreign⟩
      exact absurd rfl (foreign _)
  | @abandoned _ path _ taken _ described isNew created interrupted foreign ended =>
      rw [ended]
      refine ⟨fun kept => absurd ?_ kept, fun _ => ⟨path, taken, isNew, fun place => ?_⟩⟩
      · exact ⟨_, _, _, described, created, congrArg Prod.snd interrupted, foreign⟩
      · exact Workspace.entryAt?_put (Workspace.place_ne_nil isNew.free)
  | staged described isNew content ended recorded =>
      rw [ended]
      refine ⟨_, _, described, content, isNew, fun place => ?_⟩
      rw [Frame.workspace_of_recording recorded]
      exact Workspace.entryAt?_put (Workspace.place_ne_nil isNew.free)

end Crs

end GeoBridge
