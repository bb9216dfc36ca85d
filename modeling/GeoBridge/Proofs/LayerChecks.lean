import GeoBridge.Layering
import GeoBridge.Proofs.OutputPlaces

/-!
Owns what the check of the layers of a source tree tells of its files.

Owns:
- the occurrence of texts, and the files that hold none of the texts that their layer bans;
- the files that are checked, and the two outcomes of a check that ends;
- absolute imports at the beginning of a line, of which a check that passes leaves one form in one
  layer.
-/

namespace GeoBridge.Layering

variable {site : Site} {file directory package : Path} {bans : List String} {ban name : String}
  {part content : List Char} {listing : Listing}

/-! ### Occurrences -/

theorem occursIn_iff : occursIn part content = true ↔ part <:+: content := by
  induction content with
  | nil => simp [occursIn]
  | cons character rest inductionHypothesis =>
      rw [occursIn, Bool.or_eq_true, inductionHypothesis, List.isPrefixOf_iff_prefix,
        List.infix_cons_iff]

theorem firstBanned?_eq_none_iff :
    firstBanned? bans content = none ↔ ∀ ban ∈ bans, ¬ ban.toList <:+: content := by
  simp [firstBanned?, occursIn_iff]

theorem occurs_of_firstBanned? (found : firstBanned? bans content = some ban) :
    ban ∈ bans ∧ ban.toList <:+: content := by
  have first : bans.find? (fun ban => occursIn ban.toList content) = some ban := found
  have occurs : occursIn ban.toList content = true := by simpa using List.find?_some first
  exact ⟨List.mem_of_find?_eq_some first, occursIn_iff.mp occurs⟩

/-! ### Files -/

/-- A path leads to a file that holds the UTF-8 form of some characters, which are these but for
their line ends. -/
def Holds (site : Site) (file : Path) (content : List Char) : Prop :=
  ∃ octets characters, site.workspace.read file = .ok octets ∧
    Text.Utf8.decodeExactly? octets = some characters ∧ Text.unifyLineEnds characters = content

/-- A path leads to a file in which none of some texts occurs. -/
def Keeps (site : Site) (file : Path) (bans : List String) : Prop :=
  ∃ content, Holds site file content ∧ ∀ ban ∈ bans, ¬ ban.toList <:+: content

/-- A path leads to a file that keeps its bans, to one that does not, or to none with a text. -/
theorem keeps_or_breaks (site : Site) (file : Path) (bans : List String) :
    Keeps site file bans ∨
      (∃ content ban, Holds site file content ∧ firstBanned? bans content = some ban) ∨
      ∀ content, ¬ Holds site file content := by
  by_cases holds : ∃ content, Holds site file content
  · obtain ⟨content, holds⟩ := holds
    cases found : firstBanned? bans content with
    | none => exact .inl ⟨content, holds, firstBanned?_eq_none_iff.mp found⟩
    | some ban => exact .inr (.inl ⟨content, ban, holds, found⟩)
  · exact .inr (.inr fun content holdsIt => holds ⟨content, holdsIt⟩)

theorem holds_unique {other : List Char} (holds : Holds site file content)
    (holdsOther : Holds site file other) : content = other := by
  obtain ⟨octets, characters, read, decoded, rfl⟩ := holds
  obtain ⟨otherOctets, otherCharacters, readOther, decodedOther, rfl⟩ := holdsOther
  cases read.symm.trans readOther
  cases decoded.symm.trans decodedOther
  rfl

theorem checkFile_of_holds (holds : Holds site file content) (bans : List String) :
    checkFile file bans site =
      .ok ((firstBanned? bans content).map (Verdict.violation file.text)) site := by
  obtain ⟨octets, characters, read, decoded, rfl⟩ := holds
  unfold checkFile Action.readFile
  rw [Action.bind_of_ok (Action.inspecting_of_ok read)]
  simp only [decoded]
  rfl

theorem checkFile_of_unheld (unheld : ∀ content, ¬ Holds site file content)
    (bans : List String) : ∃ failure, checkFile file bans site = .error failure site := by
  unfold checkFile Action.readFile
  cases read : site.workspace.read file with
  | error obstacle => exact ⟨_, Action.bind_of_error (Action.inspecting_of_error read)⟩
  | ok octets =>
      rw [Action.bind_of_ok (Action.inspecting_of_ok read)]
      cases decoded : Text.Utf8.decodeExactly? octets with
      | none => exact ⟨.undecodable, rfl⟩
      | some characters => exact (unheld _ ⟨octets, characters, read, decoded, rfl⟩).elim

/-! ### Several files -/

variable {rest : List (Path × List String)}

theorem checkFiles_of_keeps (keeps : Keeps site file bans) :
    checkFiles ((file, bans) :: rest) site = checkFiles rest site := by
  obtain ⟨content, holds, absent⟩ := keeps
  have checked := checkFile_of_holds holds bans
  rw [firstBanned?_eq_none_iff.mpr absent] at checked
  rw [checkFiles, Action.bind_of_ok checked]
  rfl

theorem checkFiles_of_breaks (holds : Holds site file content)
    (found : firstBanned? bans content = some ban) :
    checkFiles ((file, bans) :: rest) site = .ok (.violation file.text ban) site := by
  have checked := checkFile_of_holds holds bans
  rw [found] at checked
  rw [checkFiles, Action.bind_of_ok checked]
  rfl

theorem checkFiles_of_unheld (unheld : ∀ content, ¬ Holds site file content) :
    ∃ failure, checkFiles ((file, bans) :: rest) site = .error failure site := by
  obtain ⟨failure, checked⟩ := checkFile_of_unheld unheld bans
  exact ⟨failure, by rw [checkFiles, Action.bind_of_error checked]⟩

/-- A check passes exactly if every file keeps its bans. -/
theorem checkFiles_passed_iff {files : List (Path × List String)} :
    (checkFiles files).ending site = .ok .passed ↔
      ∀ file bans, (file, bans) ∈ files → Keeps site file bans := by
  induction files with
  | nil => simp [checkFiles, Action.ending, pure, EStateM.pure]
  | cons first rest inductionHypothesis =>
      obtain ⟨file, bans⟩ := first
      have split : (∀ other otherBans, (other, otherBans) ∈ (file, bans) :: rest →
          Keeps site other otherBans) ↔ Keeps site file bans ∧
            ∀ other otherBans, (other, otherBans) ∈ rest → Keeps site other otherBans := by
        simp [or_imp, forall_and]
      rw [split]
      rcases keeps_or_breaks site file bans with keeps | ⟨content, ban, holds, found⟩ | unheld
      · rw [Action.ending_congr (checkFiles_of_keeps keeps), inductionHypothesis]
        exact (and_iff_right keeps).symm
      · rw [Action.ending_of_ok (checkFiles_of_breaks holds found)]
        refine iff_of_false (by simp) fun both => ?_
        obtain ⟨other, holdsOther, absent⟩ := both.1
        obtain ⟨member, occurs⟩ := occurs_of_firstBanned? found
        exact absent ban member (holds_unique holds holdsOther ▸ occurs)
      · obtain ⟨failure, failed⟩ := checkFiles_of_unheld unheld
        rw [Action.ending_of_error failed]
        refine iff_of_false (by simp) fun both => ?_
        obtain ⟨content, holds, -⟩ := both.1
        exact unheld content holds

/-- A violation names a file and a text that is banned from it and that it holds. -/
theorem checkFiles_violation {files : List (Path × List String)} {told text : String}
    (ended : (checkFiles files).ending site = .ok (.violation told text)) :
    ∃ file bans content, (file, bans) ∈ files ∧ file.text = told ∧ text ∈ bans ∧
      Holds site file content ∧ text.toList <:+: content := by
  induction files with
  | nil => cases ended
  | cons first rest inductionHypothesis =>
      obtain ⟨file, bans⟩ := first
      rcases keeps_or_breaks site file bans with keeps | ⟨content, ban, holds, found⟩ | unheld
      · rw [Action.ending_congr (checkFiles_of_keeps keeps)] at ended
        obtain ⟨other, otherBans, content, member, further⟩ := inductionHypothesis ended
        exact ⟨other, otherBans, content, List.mem_cons_of_mem _ member, further⟩
      · rw [Action.ending_of_ok (checkFiles_of_breaks holds found)] at ended
        cases ended
        obtain ⟨member, occurs⟩ := occurs_of_firstBanned? found
        exact ⟨file, bans, content, List.mem_cons_self, rfl, member, holds, occurs⟩
      · obtain ⟨failure, failed⟩ := checkFiles_of_unheld unheld
        rw [Action.ending_of_error failed] at ended
        cases ended

/-! ### The files of a package -/

/-- There is something directly inside a directory under the name of a module. -/
def IsModuleOf (site : Site) (directory : Path) (name : String) : Prop :=
  name.endsWith ".py" = true ∧ ∃ place, site.workspace.locate directory = .ok place ∧
    (site.workspace.entryAt? (place ++ [name])).isSome = true

theorem moduleNames_eq (listing : Listing) (directory : Path) (site : Site) :
    ∃ names, moduleNames listing directory site = .ok names site ∧
      ∀ name, name ∈ names ↔ IsModuleOf site directory name := by
  unfold moduleNames IsModuleOf
  rw [Action.get_bind]
  cases located : site.workspace.locate directory with
  | error obstacle => exact ⟨[], rfl, by simp⟩
  | ok place =>
      refine ⟨_, rfl, fun name => ?_⟩
      rw [(listing.perm _ _).mem_iff, List.mem_filter, Workspace.mem_children_iff]
      simp [and_comm]

/-- What is found at the child of a directory under the name of a module is a module. -/
theorem isModuleOf_of_read {octets : List UInt8} (rooted : directory.isAbsolute = true)
    (isPart : Path.IsPart name) (isModule : name.endsWith ".py" = true)
    (read : site.workspace.read (directory.joinText name) = .ok octets) :
    IsModuleOf site directory name := by
  have onward : name ≠ ".." := by
    rintro rfl
    revert isModule
    decide +kernel
  have child := (Path.isChild_joinText_iff directory name).mpr ⟨isPart, onward⟩
  obtain ⟨place, located, entered⟩ := Workspace.read_eq_ok.mp read
  obtain ⟨above, there, rfl⟩ := Workspace.locate_of_isChild child rooted located
  exact ⟨isModule, above, there, by rw [entered]; rfl⟩

/-- The files of a package that are checked, and the texts that they must not hold. -/
inductive Checks (site : Site) (package : Path) : Path → List String → Prop
  | application {name : String} (isModule : IsModuleOf site (package.joinText "application") name) :
      Checks site package ((package.joinText "application").joinText name) (applicationBansOf name)
  | core {name : String} (isCore : name ∈ coreFiles) :
      Checks site package (package.joinText name) [applicationPackage, infrastructurePackage]
  | infrastructure {name : String}
      (isModule : IsModuleOf site (package.joinText "infrastructure") name) :
      Checks site package ((package.joinText "infrastructure").joinText name)
        ["import typer", "from typer"]

theorem check_eq (package : Path) (listing : Listing) (site : Site) :
    ∃ files, check package listing site = checkFiles files site ∧
      ∀ file bans, (file, bans) ∈ files ↔ Checks site package file bans := by
  obtain ⟨inner, innerNamed, isInner⟩ :=
    moduleNames_eq listing (package.joinText "application") site
  obtain ⟨outer, outerNamed, isOuter⟩ :=
    moduleNames_eq listing (package.joinText "infrastructure") site
  refine ⟨_, (Action.bind_of_ok innerNamed).trans (Action.bind_of_ok outerNamed), ?_⟩
  intro file bans
  constructor
  · intro member
    rcases List.mem_append.mp member with member | member
    · rcases List.mem_append.mp member with member | member
      · obtain ⟨name, named, same⟩ := List.mem_map.mp member
        cases same
        exact .application ((isInner name).mp named)
      · obtain ⟨name, isCore, same⟩ := List.mem_map.mp member
        cases same
        exact .core isCore
    · obtain ⟨name, named, same⟩ := List.mem_map.mp member
      cases same
      exact .infrastructure ((isOuter name).mp named)
  · intro checks
    cases checks with
    | application isModule =>
        exact List.mem_append_left _ (List.mem_append_left _
          (List.mem_map.mpr ⟨_, (isInner _).mpr isModule, rfl⟩))
    | core isCore =>
        exact List.mem_append_left _ (List.mem_append_right _ (List.mem_map.mpr ⟨_, isCore, rfl⟩))
    | infrastructure isModule =>
        exact List.mem_append_right _ (List.mem_map.mpr ⟨_, (isOuter _).mpr isModule, rfl⟩)

theorem check_passed_iff : (check package listing).ending site = .ok .passed ↔
    ∀ file bans, Checks site package file bans → Keeps site file bans := by
  obtain ⟨files, whole, checked⟩ := check_eq package listing site
  rw [Action.ending_congr whole, checkFiles_passed_iff]
  simp only [checked]

/-! ### Imports -/

/-- The two forms of an absolute import. -/
inductive ImportForm where
  | whole
  | selective
deriving DecidableEq

/-- How an absolute import begins. -/
def ImportForm.text (module : String) : ImportForm → String
  | .whole => "import " ++ module
  | .selective => "from " ++ module

/-- A line of the text begins, after leading blanks, as the import of a module or of what is inside
it. -/
def Imports (content : List Char) (form : ImportForm) (module : String) : Prop :=
  ∃ before blanks after, content = before ++ blanks ++ (form.text module).toList ++ after ∧
    (before = [] ∨ before.getLast? = some '\n') ∧
    ∀ character ∈ blanks, Text.isBlank character = true

variable {form : ImportForm} {module : String}

theorem Imports.occurs (imports : Imports content form module) :
    (form.text module).toList <:+: content := by
  obtain ⟨before, blanks, after, rfl, -⟩ := imports
  exact ⟨before ++ blanks, after, rfl⟩

/-- The name of the module occurs in both forms. -/
theorem infix_text (form : ImportForm) (module : String) :
    module.toList <:+: (form.text module).toList := by
  cases form with
  | whole => exact ⟨"import ".toList, [], by simp [ImportForm.text]⟩
  | selective => exact ⟨"from ".toList, [], by simp [ImportForm.text]⟩

/-- A ban on a text that occurs in the beginning of an import bans the import. -/
theorem not_imports_of_ban (absent : ∀ ban ∈ bans, ¬ ban.toList <:+: content) (banned : ban ∈ bans)
    (within : ban.toList <:+: (form.text module).toList) : ¬ Imports content form module :=
  fun imports => absent ban banned (within.trans imports.occurs)

/-- A file directly inside a directory has the name of a module, and holds a text. -/
structure HoldsModule (site : Site) (directory : Path) (name : String) (content : List Char) :
    Prop where
  isPart : Path.IsPart name
  isModule : name.endsWith ".py" = true
  holds : Holds site (directory.joinText name) content

/-- The layers of a package keep apart, as far as they are checked. Of the imports of processes in
the application layer, the selective ones are not. -/
structure KeepsLayers (site : Site) (package : Path) : Prop where
  application : ∀ name content, HoldsModule site (package.joinText "application") name content →
    ∀ module ∈ ["typer", "watchdog", "subprocess"], ∀ form, Imports content form module →
      form = .selective ∧ module = "subprocess"
  wiring : ∀ name content, HoldsModule site (package.joinText "application") name content →
    name ≠ wiringFile → ∀ form, ¬ Imports content form infrastructurePackage
  core : ∀ name ∈ coreFiles, ∀ content, Holds site (package.joinText name) content →
    ∀ module ∈ [applicationPackage, infrastructurePackage], ∀ form, ¬ Imports content form module
  infrastructure : ∀ name content,
    HoldsModule site (package.joinText "infrastructure") name content →
    ∀ form, ¬ Imports content form "typer"

theorem mem_applicationBansOf (banned : ban ∈ applicationBans) : ban ∈ applicationBansOf name := by
  unfold applicationBansOf
  split
  · exact banned
  · exact List.mem_append_left _ banned

theorem infrastructurePackage_mem (other : name ≠ wiringFile) :
    infrastructurePackage ∈ applicationBansOf name := by
  have differs : (name == wiringFile) = false := by simpa using other
  simp [applicationBansOf, differs]

theorem HoldsModule.isModuleOf (holds : HoldsModule site directory name content)
    (rooted : directory.isAbsolute = true) : IsModuleOf site directory name := by
  obtain ⟨octets, characters, read, -⟩ := holds.holds
  exact isModuleOf_of_read rooted holds.isPart holds.isModule read

theorem isAbsolute_joinText (rooted : package.isAbsolute = true) (isPart : Path.IsPart name) :
    (package.joinText name).isAbsolute = true := by
  rw [Path.joinText_of_isPart package isPart]
  exact rooted

/-- What every checked file keeps, it keeps in all of its content. -/
theorem absent_of_keeps (keeps : Keeps site file bans) (holds : Holds site file content) :
    ∀ ban ∈ bans, ¬ ban.toList <:+: content := by
  obtain ⟨other, holdsOther, absent⟩ := keeps
  rwa [holds_unique holds holdsOther]

/-- The beginnings of imports that the application layer bans: all but one. -/
theorem banned_or_selective (form : ImportForm)
    (listed : module ∈ ["typer", "watchdog", "subprocess"]) :
    form.text module ∈ applicationBans ∨ form = .selective ∧ module = "subprocess" := by
  simp only [List.mem_cons, List.not_mem_nil, or_false] at listed
  rcases listed with rfl | rfl | rfl <;> cases form <;> decide +kernel

theorem keepsLayers_of_keeps (rooted : package.isAbsolute = true)
    (keeps : ∀ file bans, Checks site package file bans → Keeps site file bans) :
    KeepsLayers site package := by
  have inner : (package.joinText "application").isAbsolute = true :=
    isAbsolute_joinText rooted ⟨by decide, by decide, by decide⟩
  have outer : (package.joinText "infrastructure").isAbsolute = true :=
    isAbsolute_joinText rooted ⟨by decide, by decide, by decide⟩
  constructor
  case application =>
    intro name content inside module listed form imports
    have absent := absent_of_keeps (keeps _ _ (.application (inside.isModuleOf inner))) inside.holds
    rcases banned_or_selective form listed with banned | selective
    · exact (not_imports_of_ban absent (mem_applicationBansOf banned) (List.infix_refl _)
        imports).elim
    · exact selective
  case wiring =>
    intro name content inside other form
    have absent := absent_of_keeps (keeps _ _ (.application (inside.isModuleOf inner))) inside.holds
    exact not_imports_of_ban absent (infrastructurePackage_mem other) (infix_text _ _)
  case core =>
    intro name isCore content holds module listed form
    exact not_imports_of_ban (absent_of_keeps (keeps _ _ (.core isCore)) holds) listed
      (infix_text _ _)
  case infrastructure =>
    intro name content inside form
    have absent := absent_of_keeps (keeps _ _ (.infrastructure (inside.isModuleOf outer)))
      inside.holds
    have banned : form.text "typer" ∈ ["import typer", "from typer"] := by
      cases form <;> decide +kernel
    exact not_imports_of_ban absent banned (List.infix_refl _)

/-- What a check of the layers of a package tells, in whatever order the directories list their
names. It passes exactly if every file that is checked can be read and holds none of the texts that
are banned from it, and then the layers keep apart, but for the selective imports of processes. If
it tells of a violation, the file that it names is checked and holds the text that it names, which
is banned from it. -/
theorem check_keeps_layers (rooted : package.isAbsolute = true) (listing : Listing)
    (site : Site) :
    ((check package listing).ending site = .ok .passed ↔
      ∀ file bans, Checks site package file bans → Keeps site file bans) ∧
    ((check package listing).ending site = .ok .passed → KeepsLayers site package) ∧
    ∀ told text, (check package listing).ending site = .ok (.violation told text) →
      ∃ file bans content, Checks site package file bans ∧ file.text = told ∧ text ∈ bans ∧
        Holds site file content ∧ text.toList <:+: content := by
  refine ⟨check_passed_iff, ?_, ?_⟩
  · intro passed
    exact keepsLayers_of_keeps rooted (check_passed_iff.mp passed)
  · intro told text ended
    obtain ⟨files, whole, checked⟩ := check_eq package listing site
    rw [Action.ending_congr whole] at ended
    obtain ⟨file, bans, content, member, further⟩ := checkFiles_violation ended
    exact ⟨file, bans, content, (checked file bans).mp member, further⟩

/-- The text of a module that imports from the module of processes. -/
def processModule : String := "x = 1\nfrom subprocess import run\n"

/-- A package with this module in the application layer. -/
def processSite : Site where
  workspace :=
    { here := []
      entries := (["application"], .directory) ::
        (["application", "m.py"], .file (Text.Utf8.encode processModule)) ::
        coreFiles.map fun name => ([name], .file []) }

/-- The selective import goes unnoticed. -/
theorem selective_import_passes :
    let package : Path := ⟨.single, []⟩
    package.isAbsolute = true ∧ (check package).ending processSite = .ok .passed ∧
      KeepsLayers processSite package ∧
      HoldsModule processSite (package.joinText "application") "m.py" processModule.toList ∧
      Imports processModule.toList .selective "subprocess" := by
  intro package
  have rooted : package.isAbsolute = true := rfl
  have passed : (check package).ending processSite = .ok .passed := by decide +kernel
  have keeps := (check_keeps_layers rooted .ascending processSite).2.1 passed
  have read : processSite.workspace.read ((package.joinText "application").joinText "m.py") =
      .ok (Text.Utf8.encode processModule) := by
    decide +kernel
  refine ⟨rooted, passed, keeps, ⟨⟨by decide, by decide, by decide⟩, by decide +kernel, ?_⟩, ?_⟩
  · exact ⟨_, processModule.toList, read, by decide +kernel, by decide +kernel⟩
  · exact ⟨"x = 1\n".toList, [], " import run\n".toList, by decide +kernel,
      .inr (by decide +kernel), by simp⟩

end GeoBridge.Layering
