import GeoBridge.Workspace

/-!
Owns what operations on files do to the places of a workspace.

Owns:
- what is at each place once an entry is put somewhere or removed;
- the way along names without double dots, which a new file at a free place does not bar;
- files that are created at a free place, written and removed again.
-/

namespace GeoBridge.Workspace

variable {workspace : Workspace} {place other : Place} {entry : Entry}

/-! ### Entries -/

theorem place_ne_nil (free : workspace.entryAt? place = none) : place ≠ [] := by
  rintro rfl
  cases free

theorem place_ne_nil_of_file {octets : List UInt8}
    (entered : workspace.entryAt? place = some (.file octets)) : place ≠ [] := by
  rintro rfl
  cases entered

theorem lookup_filter_ne (entries : List (Place × Entry)) (place other : Place) :
    (entries.filter fun entered => entered.1 ≠ place).lookup other =
      if other = place then none else entries.lookup other := by
  induction entries with
  | nil => simp
  | cons first rest inductionHypothesis =>
      obtain ⟨at_, entry⟩ := first
      by_cases kept : at_ = place
      · subst kept
        by_cases asked : other = at_
        · subst asked
          simpa using inductionHypothesis
        · have differs : (other == at_) = false := by simpa using asked
          simp only [ne_eq, not_true_eq_false, decide_false, Bool.false_eq_true, not_false_eq_true,
            List.filter_cons_of_neg, List.lookup_cons, differs]
          exact inductionHypothesis
      · rw [List.filter_cons_of_pos (by simpa using kept), List.lookup_cons, List.lookup_cons,
          inductionHypothesis]
        by_cases asked : other = at_
        · subst asked
          simp [kept]
        · have differs : (other == at_) = false := by simpa using asked
          rw [differs]

theorem entryAt?_put (proper : place ≠ []) :
    (workspace.put place entry).entryAt? other =
      if other = place then some entry else workspace.entryAt? other := by
  by_cases root : other = []
  · subst root
    rw [if_neg (Ne.symm proper)]
    rfl
  · have named : other.isEmpty = false := by simpa using root
    simp only [entryAt?, named, put, List.lookup_cons, lookup_filter_ne, Bool.false_eq_true,
      if_false]
    by_cases same : other = place
    · simp [same]
    · have differs : (other == place) = false := by simpa using same
      rw [differs, if_neg same, if_neg same]

theorem entryAt?_remove (proper : place ≠ []) :
    (workspace.remove place).entryAt? other =
      if other = place then none else workspace.entryAt? other := by
  by_cases root : other = []
  · subst root
    rw [if_neg (Ne.symm proper)]
    rfl
  · have named : other.isEmpty = false := by simpa using root
    simp only [entryAt?, named, remove, lookup_filter_ne, Bool.false_eq_true, if_false]

theorem put_put (workspace : Workspace) (place : Place) (entry later : Entry) :
    (workspace.put place entry).put place later = workspace.put place later := by
  simp [put]

theorem remove_put (workspace : Workspace) (place : Place) (entry : Entry) :
    (workspace.put place entry).remove place = workspace.remove place := by
  simp [put, remove]

/-- Where nothing is, nothing is removed. -/
theorem remove_of_free (free : workspace.entryAt? place = none) :
    workspace.remove place = workspace := by
  have named : place.isEmpty = false := by simpa using place_ne_nil free
  have absent : ∀ entered ∈ workspace.entries, entered.1 ≠ place := by
    simp only [entryAt?, named, Bool.false_eq_true, if_false, List.lookup_eq_none_iff] at free
    intro entered member same
    simpa [same] using free entered member
  have kept : workspace.entries.filter (fun entered => entered.1 ≠ place) = workspace.entries :=
    List.filter_eq_self.mpr fun entered member => by simpa using absent entered member
  rw [remove, kept]

/-- What is put where nothing was, and removed again, leaves no trace. -/
theorem remove_put_of_free (free : workspace.entryAt? place = none) :
    (workspace.put place entry).remove place = workspace := by
  rw [remove_put, remove_of_free free]

/-- The names directly inside a directory are those under which there is anything. -/
theorem mem_children_iff {name : String} :
    name ∈ workspace.children place ↔ (workspace.entryAt? (place ++ [name])).isSome = true := by
  have named : (place ++ [name]).isEmpty = false := by simp
  simp only [children, entryAt?, named, List.mem_filterMap, List.lookup_isSome_iff,
    Bool.false_eq_true, if_false, beq_iff_eq]
  refine exists_congr fun entered => and_congr_right fun _ => ?_
  constructor
  · intro told
    split at told
    next inside =>
      obtain ⟨above, whole⟩ := List.getLast?_eq_some_iff.mp told
      rw [whole, List.dropLast_concat] at inside
      rw [whole, inside]
    · cases told
  · intro same
    simp [← same]

/-! ### Ways -/

/-- Without double dots the names on the way are the place. -/
theorem follow_eq {start found : Place} {names : List String} (straight : ".." ∉ names)
    (followed : workspace.follow start names = .ok found) : found = start ++ names := by
  induction names generalizing start with
  | nil =>
      rw [follow] at followed
      cases followed
      rw [List.append_nil]
  | cons name rest inductionHypothesis =>
      rw [List.mem_cons, not_or] at straight
      have onward : (name == "..") = false := by simpa using Ne.symm straight.1
      rw [follow] at followed
      split at followed
      · cases followed
      · cases followed
      · rw [onward] at followed
        simp only [Bool.false_eq_true, if_false] at followed
        split at followed
        · cases followed
        · rw [inductionHypothesis straight.2 followed, List.append_assoc, List.singleton_append]

/-- A way leads through directories only, so it stays while these are kept. -/
theorem follow_of_directories {changed : Workspace} {start found : Place} {names : List String}
    (directories : ∀ other, workspace.entryAt? other = some .directory →
      changed.entryAt? other = some .directory)
    (followed : workspace.follow start names = .ok found) :
    changed.follow start names = .ok found := by
  induction names generalizing start with
  | nil => rwa [follow] at followed ⊢
  | cons name rest inductionHypothesis =>
      rw [follow] at followed ⊢
      split at followed
      · cases followed
      · cases followed
      · next directory =>
          rw [directories start directory]
          simp only
          split at followed
          · next back => 
              rw [if_pos back]
              exact inductionHypothesis followed
          · next onward =>
              split at followed
              · cases followed
              · next short =>
                  rw [if_neg onward, if_neg short]
                  exact inductionHypothesis followed

/-- A new file stands in nobody's way. -/
theorem directories_put (free : workspace.entryAt? place = none) (other : Place)
    (directory : workspace.entryAt? other = some .directory) :
    (workspace.put place entry).entryAt? other = some .directory := by
  have elsewhere : other ≠ place := by
    rintro rfl
    rw [free] at directory
    cases directory
  rw [entryAt?_put (place_ne_nil free), if_neg elsewhere, directory]

/-- No way leads through a file. -/
theorem directories_remove {octets : List UInt8}
    (entered : workspace.entryAt? place = some (.file octets)) (other : Place)
    (directory : workspace.entryAt? other = some .directory) :
    (workspace.remove place).entryAt? other = some .directory := by
  have elsewhere : other ≠ place := by
    rintro rfl
    rw [entered] at directory
    cases directory
  rw [entryAt?_remove (place_ne_nil_of_file entered), if_neg elsewhere, directory]

/-- A way can be followed in two parts. -/
theorem follow_append (start : Place) (names further : List String) :
    workspace.follow start (names ++ further) =
      (workspace.follow start names).bind fun place => workspace.follow place further := by
  induction names generalizing start with
  | nil => rw [List.nil_append, follow, Except.bind]
  | cons first rest inductionHypothesis =>
      rw [List.cons_append, follow, follow]
      split
      · rfl
      · rfl
      · split
        · exact inductionHypothesis start.dropLast
        · split
          · rfl
          · exact inductionHypothesis (start ++ [first])

/-- The way to a name in a directory is the way to the directory, and one step. -/
theorem follow_of_append {start found : Place} {names : List String} {name : String}
    (followed : workspace.follow start (names ++ [name]) = .ok found) :
    ∃ directory, workspace.follow start names = .ok directory ∧
      workspace.follow directory [name] = .ok found := by
  rw [follow_append] at followed
  cases reached : workspace.follow start names with
  | error obstacle =>
      rw [reached] at followed
      cases followed
  | ok directory =>
      rw [reached] at followed
      exact ⟨directory, rfl, followed⟩

theorem locate_eq {path : Path} (rooted : path.isAbsolute = true) (straight : ".." ∉ path.parts)
    (located : workspace.locate path = .ok place) :
    workspace.follow [] path.parts = .ok place ∧ place = path.parts := by
  unfold locate at located
  split at located
  · cases located
  · split at located
    · cases located
    · exact ⟨located, follow_eq straight located⟩

theorem locate_of_directories {changed : Workspace} {path : Path}
    (directories : ∀ other, workspace.entryAt? other = some .directory →
      changed.entryAt? other = some .directory)
    (sameHere : changed.here = workspace.here)
    (located : workspace.locate path = .ok other) : changed.locate path = .ok other := by
  unfold locate at located ⊢
  split at located
  · cases located
  · next noNull =>
      rw [if_neg noNull]
      split at located
      · cases located
      · next short =>
          rw [if_neg short, sameHere]
          exact follow_of_directories directories located

theorem locate_put {path : Path} (free : workspace.entryAt? place = none)
    (located : workspace.locate path = .ok other) :
    (workspace.put place entry).locate path = .ok other :=
  locate_of_directories (directories_put free) rfl located

/-! ### Files -/

variable {path : Path} {octets : List UInt8}

theorem locate_of_writable (writes : workspace.writable path = .ok place) :
    workspace.locate path = .ok place := by
  unfold writable at writes
  split at writes
  · cases writes
  · next found located =>
      split at writes <;> cases writes
      · exact located
      · exact located

/-- The content that is read at a path is that of the file at its place. -/
theorem read_eq_ok :
    workspace.read path = .ok octets ↔
      ∃ place, workspace.locate path = .ok place ∧
        workspace.entryAt? place = some (.file octets) := by
  unfold read inspect
  cases workspace.locate path with
  | error obstacle => simp
  | ok place =>
      cases entered : workspace.entryAt? place with
      | none => simp [entered]
      | some entry => cases entry <;> simp [entered]

/-- A new file does not change what is read elsewhere. -/
theorem read_put_of_free {entry : Entry} (free : workspace.entryAt? place = none)
    (read : workspace.read path = .ok octets) :
    (workspace.put place entry).read path = .ok octets := by
  obtain ⟨found, located, entered⟩ := read_eq_ok.mp read
  have elsewhere : found ≠ place := by
    rintro rfl
    rw [free] at entered
    cases entered
  refine read_eq_ok.mpr ⟨found, locate_put free located, ?_⟩
  rw [entryAt?_put (place_ne_nil free), if_neg elsewhere, entered]

/-- The removal of a file does not change what is read at other places. -/
theorem read_remove_of_file {removed : List UInt8} {found : Place}
    (file : workspace.entryAt? place = some (.file removed))
    (located : workspace.locate path = .ok found)
    (entered : workspace.entryAt? found = some (.file octets)) (elsewhere : found ≠ place) :
    (workspace.remove place).read path = .ok octets := by
  have stillLocated := locate_of_directories (directories_remove file) rfl located
  refine read_eq_ok.mpr ⟨found, stillLocated, ?_⟩
  rw [entryAt?_remove (place_ne_nil_of_file file), if_neg elsewhere, entered]

/-- What is read at an absolute path without double dots is the file at the place of its parts. -/
theorem entered_of_read (rooted : path.isAbsolute = true) (straight : ".." ∉ path.parts)
    (read : workspace.read path = .ok octets) :
    workspace.locate path = .ok path.parts ∧
      workspace.entryAt? path.parts = some (.file octets) := by
  obtain ⟨place, located, entered⟩ := read_eq_ok.mp read
  obtain ⟨-, rfl⟩ := locate_eq rooted straight located
  exact ⟨located, entered⟩

theorem write_eq_ok {changed : Workspace} :
    workspace.write path octets = .ok changed ↔
      ∃ place, workspace.writable path = .ok place ∧
        workspace.put place (.file octets) = changed := by
  unfold write
  cases workspace.writable path <;> simp [Except.map]

theorem write_of_file {old : List UInt8} (octets : List UInt8)
    (located : workspace.locate path = .ok place)
    (entered : workspace.entryAt? place = some (.file old)) :
    workspace.write path octets = .ok (workspace.put place (.file octets)) := by
  unfold write writable
  simp only [located, entered]
  rfl

theorem unlink_of_file (located : workspace.locate path = .ok place)
    (entered : workspace.entryAt? place = some (.file octets)) :
    workspace.unlink path = .ok (workspace.remove place) := by
  unfold unlink
  simp only [located, entered]

end GeoBridge.Workspace
