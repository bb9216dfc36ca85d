import GeoBridge.Configuration.Document
import GeoBridge.Registry

/-!
Owns what a snapshot of a validated configuration holds.

Owns:
- the environment a tool runs in, as the environment of a configuration with one variable bound;
- the uniqueness of public names, which validation grants and selection keeps;
- the formats of a snapshot: under unique names all of them in their order, and never others.
-/

namespace GeoBridge

/-! ### The environment of a tool -/

/-- An environment with one variable bound. A variable that is there keeps its place, a new one
comes last, and all others are as they were. -/
structure Environment.IsBinding (environment : Environment) (name value : String)
    (bound : Environment) : Prop where
  placed : ∀ before old after, environment = before ++ (name, old) :: after →
    name ∉ Association.keys before → bound = before ++ (name, value) :: after
  added : name ∉ Association.keys environment → bound = environment ++ [(name, value)]

/-- The environment in which the tool of a configuration runs: the data path is bound under the
data variable where there are both, and neither is empty. -/
structure Configuration.RunsIn (configuration : Configuration) (dataVariable : Option String)
    (environment : Environment) : Prop where
  bound : ∀ name path, dataVariable = some name → configuration.dataPath = some path →
    name ≠ "" → path ≠ "" → configuration.environment.IsBinding name path environment
  plain : (∀ name path, dataVariable = some name → configuration.dataPath = some path →
    name = "" ∨ path = "") → environment = configuration.environment

theorem Environment.isBinding_put (environment : Environment) (name value : String) :
    environment.IsBinding name value (environment.put name value) where
  placed before old after parts first := by
    rw [parts, Association.put_of_present value first]
  added absent := Association.put_of_absent value absent

theorem Configuration.runsIn_effectiveEnvironment (configuration : Configuration)
    (dataVariable : Option String) :
    configuration.RunsIn dataVariable (configuration.effectiveEnvironment dataVariable) where
  bound name path variable_ hasPath named given := by
    have takes : (path.isEmpty || name.isEmpty) = false := by simp [named, given]
    have binds : configuration.effectiveEnvironment dataVariable =
        configuration.environment.put name path := by
      simp only [effectiveEnvironment, variable_, hasPath, takes, Bool.false_eq_true, if_false]
    rw [binds]
    exact Environment.isBinding_put _ _ _
  plain lacking := by
    unfold effectiveEnvironment
    split
    · next path name hasPath =>
        rcases lacking name path rfl hasPath with empty | empty <;> simp [empty]
    · rfl

/-! ### Unique names -/

/-- No two formats have the same public name. -/
def HaveDistinctNames (formats : List Format) : Prop := (formats.map (·.publicName)).Nodup

instance (formats : List Format) : Decidable (HaveDistinctNames formats) :=
  inferInstanceAs (Decidable (formats.map (·.publicName)).Nodup)

theorem HaveDistinctNames.filter {formats : List Format} (distinct : HaveDistinctNames formats)
    (keeps : Format → Bool) : HaveDistinctNames (formats.filter keeps) :=
  List.Nodup.sublist (List.Sublist.map _ List.filter_sublist) distinct

namespace Schema

theorem firstRepeated?_eq_none {seen names : List String}
    (none_ : firstRepeated? seen names = none) :
    names.Nodup ∧ ∀ name ∈ names, name ∉ seen := by
  induction names generalizing seen with
  | nil => exact ⟨List.nodup_nil, fun _ member => absurd member List.not_mem_nil⟩
  | cons name rest inductionHypothesis =>
      rw [firstRepeated?] at none_
      by_cases known : seen.contains name
      · rw [if_pos known] at none_
        cases none_
      · rw [if_neg known] at none_
        obtain ⟨distinct, fresh⟩ := inductionHypothesis none_
        refine ⟨List.nodup_cons.mpr ⟨fun again => ?_, distinct⟩, fun other member => ?_⟩
        · exact fresh name again List.mem_cons_self
        · rcases List.mem_cons.mp member with rfl | later
          · simpa using known
          · exact fun seenBefore => fresh other later (List.mem_cons_of_mem _ seenBefore)

theorem haveDistinctNames_of_valid {payload : Payload} {accepted : Configuration}
    (valid : configuration payload = .valid accepted) : HaveDistinctNames accepted.formats := by
  unfold configuration at valid
  split at valid
  · split at valid
    · next value _ =>
        unfold uniquelyNamed at valid
        split at valid
        · next unique =>
            cases valid
            exact (firstRepeated?_eq_none unique).1
        · cases valid
    · cases valid
  · cases valid

end Schema

namespace Configuration

theorem haveDistinctNames_of_ofElement {root : Xml.Element} {accepted : Configuration}
    (valid : ofElement root = .ok accepted) : HaveDistinctNames accepted.formats := by
  unfold ofElement at valid
  split at valid
  · cases valid
  · split at valid
    · next found =>
        cases valid
        exact Schema.haveDistinctNames_of_valid found
    · cases valid

/-- Every configuration that is read from a document has unique public names. -/
theorem haveDistinctNames_of_read {document : Xml.Document} {accepted : Configuration}
    (readable : read document = .ok accepted) : HaveDistinctNames accepted.formats := by
  unfold read at readable
  split at readable
  case h_4 root _ =>
    split at readable
    · next found =>
        cases readable
        exact haveDistinctNames_of_ofElement found
    · cases readable
  all_goals cases readable

end Configuration

/-! ### The formats of a snapshot -/

/-- Under unique names a format is found by its name. -/
theorem find?_of_distinct {formats : List Format} (distinct : HaveDistinctNames formats)
    {name : String} {format : Format} :
    Association.find? (formats.map fun format => (format.publicName, format)) name = some format ↔
      format ∈ formats ∧ format.publicName = name := by
  induction formats with
  | nil => simp [Association.find?]
  | cons first rest inductionHypothesis =>
      have split := List.nodup_cons.mp distinct
      rw [List.map_cons, Association.find?]
      by_cases named : first.publicName = name
      · rw [if_pos named, Option.some.injEq, List.mem_cons]
        constructor
        · rintro rfl
          exact ⟨.inl rfl, named⟩
        · rintro ⟨rfl | later, same⟩
          · rfl
          · have again := List.mem_map_of_mem (f := Format.publicName) later
            rw [same, ← named] at again
            exact absurd again split.1
      · rw [if_neg named, inductionHypothesis split.2, List.mem_cons]
        constructor
        · rintro ⟨member, same⟩
          exact ⟨.inr member, same⟩
        · rintro ⟨rfl | member, same⟩
          · exact absurd same named
          · exact ⟨member, same⟩

namespace Snapshot

variable {executable : String} {environment : Environment} {formats : List Format}

/-- Under unique names nothing is lost and nothing is moved. -/
theorem build_of_distinct (distinct : HaveDistinctNames formats) :
    build executable environment formats =
      ⟨executable, environment, formats.map fun format => (format.publicName, format)⟩ := by
  have keysDistinct :
      (Association.keys (formats.map fun format => (format.publicName, format))).Nodup := by
    simpa [HaveDistinctNames, Association.keys, Function.comp_def] using distinct
  rw [build, Association.ofEntries_of_distinct keysDistinct]

theorem active_of_formats {snapshot : Snapshot}
    (held : snapshot.formats = formats.map fun format => (format.publicName, format)) :
    snapshot.active = formats := by
  rw [active, held, List.map_map]
  exact List.map_id formats

theorem names_of_formats {snapshot : Snapshot}
    (held : snapshot.formats = formats.map fun format => (format.publicName, format)) :
    snapshot.names = formats.map (·.publicName) := by
  rw [names, held, Association.keys, List.map_map]
  rfl

/-- Whatever the names, a snapshot holds no format that it was not built from. -/
theorem mem_of_mem_build_active {format : Format}
    (member : format ∈ (build executable environment formats).active) : format ∈ formats := by
  obtain ⟨entry, inside, rfl⟩ := List.mem_map.mp member
  rcases Association.mem_putAll inside with earlier | given
  · exact absurd earlier List.not_mem_nil
  · obtain ⟨format, among, rfl⟩ := List.mem_map.mp given
    exact among

end Snapshot

end GeoBridge
