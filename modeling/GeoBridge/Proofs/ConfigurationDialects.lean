import GeoBridge.Proofs.ConfigurationGrammar
import GeoBridge.Proofs.WrittenDocuments
import Mathlib.Logic.Function.Basic

/-!
Owns the dialects of configuration documents, all of which mean the same.

Owns:
- entries under other keys, and renamings that keep every key within the names of its field;
- the rewritings of documents from one dialect to another;
- what is read of a rewritten document, which is what is read of the document itself.
-/

namespace GeoBridge

/-! ### Entries under other keys -/

namespace Association

variable {κ α : Type} {rename : κ → κ}

/-- The entries with their keys renamed. -/
def rekeyed (rename : κ → κ) (entries : Association κ α) : Association κ α :=
  entries.map fun entry => (rename entry.1, entry.2)

theorem keys_rekeyed (rename : κ → κ) (entries : Association κ α) :
    keys (rekeyed rename entries) = (keys entries).map rename := by
  simp [keys, rekeyed]

variable [DecidableEq κ]

theorem rekeyed_put {entries : Association κ α} {key : κ} (value : α)
    (apart : ∀ other ∈ keys entries, rename other = rename key → other = key) :
    rekeyed rename (put entries key value) = put (rekeyed rename entries) (rename key) value := by
  induction entries with
  | nil => rfl
  | cons entry rest inductionHypothesis =>
      obtain ⟨first, kept⟩ := entry
      obtain ⟨firstApart, restApart⟩ := List.forall_mem_cons.mp apart
      have tail := inductionHypothesis restApart
      by_cases same : first = key
      · subst same
        simp [put, rekeyed]
      · have differs : ¬rename first = rename key := mt firstApart same
        simp only [put, rekeyed, List.map_cons, if_neg same, if_neg differs] at tail ⊢
        rw [tail]

/-- Under a renaming that keeps keys apart, it does not matter whether entries are renamed before or
after they are gathered. -/
theorem rekeyed_ofEntries {entries : List (κ × α)}
    (apart : ∀ first ∈ keys entries, ∀ second ∈ keys entries,
      rename first = rename second → first = second) :
    rekeyed rename (ofEntries entries) = ofEntries (rekeyed rename entries) := by
  have step (further : List (κ × α)) (gathered : Association κ α)
      (within : ∀ key ∈ keys gathered, key ∈ keys entries)
      (among : ∀ key ∈ keys further, key ∈ keys entries) :
      rekeyed rename (putAll gathered further) =
        putAll (rekeyed rename gathered) (rekeyed rename further) := by
    induction further generalizing gathered with
    | nil => rfl
    | cons entry rest inductionHypothesis =>
        obtain ⟨firstAmong, restAmong⟩ := List.forall_mem_cons.mp among
        have put_ := rekeyed_put entry.2 fun other member same =>
          apart other (within other member) entry.1 firstAmong same
        have stays : ∀ key ∈ keys (put gathered entry.1 entry.2), key ∈ keys entries := by
          intro key member
          rcases (mem_keys_put gathered entry.1 entry.2 key).mp member with rfl | before
          · exact firstAmong
          · exact within key before
        have tail := inductionHypothesis (put gathered entry.1 entry.2) stays restAmong
        rw [put_] at tail
        exact tail
  exact step entries [] (by simp [keys]) fun _ member => member

end Association

theorem Payload.Entries.lookup_rekeyed {entries : Entries} {rename : String → String} {key : String}
    (apart : ∀ other ∈ Association.keys entries, rename other = rename key → other = key) :
    (Association.rekeyed rename entries).lookup (rename key) = entries.lookup key := by
  induction entries with
  | nil => rfl
  | cons entry rest inductionHypothesis =>
      obtain ⟨first, value⟩ := entry
      obtain ⟨firstApart, restApart⟩ := List.forall_mem_cons.mp apart
      have tail := inductionHypothesis restApart
      rw [Association.rekeyed, List.map_cons]
      by_cases same : key = first
      · rw [same, List.lookup_cons_self, List.lookup_cons_self]
      · have differs : rename key ≠ rename first := fun again => same (firstApart again.symm).symm
        rw [lookup_cons_of_ne same, lookup_cons_of_ne differs]
        exact tail

/-! ### Renamings within fields -/

/-- A renaming that leaves a key as it is or gives it another name of its field, and keeps different
keys different. -/
structure KeepsFields (fields : List FieldNames) (keys : List String)
    (rename : String → String) : Prop where
  within : ∀ key ∈ keys, rename key = key ∨ ∃ names ∈ fields, key ∈ names ∧ rename key ∈ names
  apart : ∀ first ∈ keys, ∀ second ∈ keys, rename first = rename second → first = second

/-- No two fields share a name. -/
def AreDisjoint (fields : List FieldNames) : Prop :=
  ∀ names ∈ fields, ∀ others ∈ fields, ∀ key ∈ names, key ∈ others → names = others

theorem Format.areDisjoint_fields : AreDisjoint Format.fields := by
  unfold AreDisjoint
  decide

theorem Configuration.areDisjoint_fields : AreDisjoint Configuration.fields := by
  unfold AreDisjoint
  decide

namespace KeepsFields

variable {fields : List FieldNames} {names : FieldNames} {keys : List String}
  {rename : String → String} {key : String}

theorem mem_iff (keeps : KeepsFields fields keys rename) (disjoint : AreDisjoint fields)
    (field : names ∈ fields) (member : key ∈ keys) : rename key ∈ names ↔ key ∈ names := by
  rcases keeps.within key member with same | ⟨others, other, before, after⟩
  · rw [same]
  · constructor
    · intro renamed
      rw [disjoint names field others other _ renamed after]
      exact before
    · intro named
      rw [disjoint names field others other _ named before]
      exact after

theorem mono {further : List String} (keeps : KeepsFields fields keys rename)
    (fewer : ∀ key ∈ further, key ∈ keys) : KeepsFields fields further rename where
  within key member := keeps.within key (fewer key member)
  apart first firstMember second secondMember :=
    keeps.apart first (fewer first firstMember) second (fewer second secondMember)

/-- A key that is the only name of its field may be added, under itself. -/
theorem fixing (keeps : KeepsFields fields keys rename) (field : [key] ∈ fields)
    (disjoint : AreDisjoint fields) :
    KeepsFields fields (key :: keys) (Function.update rename key key) := by
  have fixed : Function.update rename key key key = key := Function.update_self key key rename
  have elsewhere (other : String) (differs : other ≠ key) (member : other ∈ key :: keys) :
      Function.update rename key key other = rename other ∧ other ∈ keys ∧ rename other ≠ key := by
    have among := (List.mem_cons.mp member).resolve_left differs
    refine ⟨Function.update_of_ne differs key rename, among, fun same => differs ?_⟩
    have renamed : rename other ∈ [key] := List.mem_singleton.mpr same
    exact List.mem_singleton.mp ((keeps.mem_iff disjoint field among).mp renamed)
  constructor
  · intro other member
    by_cases same : other = key
    · rw [same]
      exact .inl fixed
    · obtain ⟨renamed, among, -⟩ := elsewhere other same member
      rw [renamed]
      exact keeps.within other among
  · intro first firstMember second secondMember same
    by_cases firstKey : first = key
    · by_cases secondKey : second = key
      · rw [firstKey, secondKey]
      · obtain ⟨renamed, -, never⟩ := elsewhere second secondKey secondMember
        rw [firstKey, fixed, renamed] at same
        exact (never same.symm).elim
    · obtain ⟨renamed, among, never⟩ := elsewhere first firstKey firstMember
      by_cases secondKey : second = key
      · rw [secondKey, fixed, renamed] at same
        exact (never same).elim
      · obtain ⟨otherRenamed, otherAmong, -⟩ := elsewhere second secondKey secondMember
        rw [renamed, otherRenamed] at same
        exact keeps.apart first among second otherAmong same

end KeepsFields

namespace Payload.Entries

variable {entries : Entries} {fields : List FieldNames} {names : FieldNames}
  {rename : String → String}

theorem has_rekeyed {key : String} :
    Has (Association.rekeyed rename entries) key ↔ ∃ source, entries.Has source ∧
      rename source = key := by
  unfold Has
  rw [show (Association.rekeyed rename entries).map Prod.fst =
    (entries.map Prod.fst).map rename from Association.keys_rekeyed rename entries]
  exact List.mem_map

/-- Under other names of their fields, entries give the fields the same values. -/
theorem gives_rekeyed (keeps : KeepsFields fields (Association.keys entries) rename)
    (disjoint : AreDisjoint fields) (field : names ∈ fields) (given : Payload) :
    Gives (Association.rekeyed rename entries) names given ↔ entries.Gives names given := by
  have lookup (key : String) (member : key ∈ Association.keys entries) :
      (Association.rekeyed rename entries).lookup (rename key) = entries.lookup key :=
    lookup_rekeyed fun other otherMember => keeps.apart other otherMember key member
  constructor
  · rintro ⟨name, named, there⟩
    obtain ⟨source, has, rfl⟩ := has_rekeyed.mp (has_iff.mpr ⟨given, there⟩)
    rw [lookup source has] at there
    exact ⟨source, (keeps.mem_iff disjoint field has).mp named, there⟩
  · rintro ⟨name, named, there⟩
    have has : entries.Has name := has_iff.mpr ⟨given, there⟩
    exact ⟨rename name, (keeps.mem_iff disjoint field has).mpr named, (lookup name has).trans there⟩

theorem fits_rekeyed (keeps : KeepsFields fields (Association.keys entries) rename)
    (disjoint : AreDisjoint fields) :
    Fits (Association.rekeyed rename entries) fields ↔ entries.Fits fields := by
  constructor
  · intro fits
    constructor
    · intro key has
      obtain ⟨names, field, named⟩ := fits.known (rename key) (has_rekeyed.mpr ⟨key, has, rfl⟩)
      exact ⟨names, field, (keeps.mem_iff disjoint field has).mp named⟩
    · intro names field first firstNamed second secondNamed hasFirst hasSecond
      exact keeps.apart first hasFirst second hasSecond <|
        fits.once names field _ ((keeps.mem_iff disjoint field hasFirst).mpr firstNamed) _
          ((keeps.mem_iff disjoint field hasSecond).mpr secondNamed)
          (has_rekeyed.mpr ⟨first, hasFirst, rfl⟩) (has_rekeyed.mpr ⟨second, hasSecond, rfl⟩)
  · intro fits
    constructor
    · intro key has
      obtain ⟨source, hasSource, rfl⟩ := has_rekeyed.mp has
      obtain ⟨names, field, named⟩ := fits.known source hasSource
      exact ⟨names, field, (keeps.mem_iff disjoint field hasSource).mpr named⟩
    · intro names field first firstNamed second secondNamed hasFirst hasSecond
      obtain ⟨firstSource, hasFirstSource, rfl⟩ := has_rekeyed.mp hasFirst
      obtain ⟨secondSource, hasSecondSource, rfl⟩ := has_rekeyed.mp hasSecond
      rw [fits.once names field firstSource ((keeps.mem_iff disjoint field hasFirstSource).mp
        firstNamed) secondSource ((keeps.mem_iff disjoint field hasSecondSource).mp secondNamed)
        hasFirstSource hasSecondSource]

theorem Requires.congr {α : Type} {others : Entries} {reads : Payload → α → Prop} {value : α}
    (same : ∀ given, entries.Gives names given → others.Gives names given)
    (requires : entries.Requires names reads value) : others.Requires names reads value := by
  obtain ⟨given, gives, means⟩ := requires
  exact ⟨given, same given gives, means⟩

theorem Allows.congr {α : Type} {others : Entries} {reads : Payload → α → Prop} {absent value : α}
    (same : ∀ given, entries.Gives names given ↔ others.Gives names given)
    (allows : entries.Allows names reads absent value) :
    others.Allows names reads absent value := by
  rcases allows with requires | ⟨missing, default_⟩
  · exact .inl (requires.congr fun given => (same given).mp)
  · exact .inr ⟨fun given gives => missing given ((same given).mpr gives), default_⟩

theorem Fits.of_fewer {others : Entries} (fewer : ∀ key, others.Has key → entries.Has key)
    (fits : entries.Fits fields) : others.Fits fields where
  known key has := fits.known key (fewer key has)
  once names field first firstNamed second secondNamed hasFirst hasSecond :=
    fits.once names field first firstNamed second secondNamed (fewer first hasFirst)
      (fewer second hasSecond)

section Put

variable {key : String} {value given : Payload}

theorem lookup_put (entries : Entries) (key other : String) (value : Payload) :
    (Association.put entries key value).lookup other =
      if other = key then some value else entries.lookup other := by
  induction entries with
  | nil =>
      by_cases asked : other = key
      · simp [Association.put, asked]
      · rw [Association.put, lookup_cons_of_ne asked, if_neg asked]
  | cons entry rest inductionHypothesis =>
      obtain ⟨first, kept⟩ := entry
      rw [Association.put]
      by_cases same : first = key
      · subst same
        by_cases asked : other = first
        · simp [asked]
        · rw [if_pos rfl, if_neg asked, lookup_cons_of_ne asked, lookup_cons_of_ne asked]
      · rw [if_neg same]
        by_cases asked : other = first
        · simp [asked, same]
        · rw [lookup_cons_of_ne asked, lookup_cons_of_ne asked, inductionHypothesis]

theorem has_put {other : String} :
    Has (Association.put entries key value) other ↔ other = key ∨ entries.Has other :=
  Association.mem_keys_put entries key value other

theorem gives_put_of_notMem (elsewhere : key ∉ names) :
    Gives (Association.put entries key value) names given ↔ entries.Gives names given := by
  have same (name : String) (named : name ∈ names) :
      (Association.put entries key value).lookup name = entries.lookup name := by
    have differs : name ≠ key := fun again => elsewhere (again ▸ named)
    rw [lookup_put, if_neg differs]
  constructor
  · rintro ⟨name, named, there⟩
    exact ⟨name, named, (same name named).symm.trans there⟩
  · rintro ⟨name, named, there⟩
    exact ⟨name, named, (same name named).trans there⟩

theorem gives_put_self : Gives (Association.put entries key value) [key] given ↔ given = value := by
  simp [Gives, lookup_put, eq_comm]

end Put

end Payload.Entries

/-! ### What is read under other names -/

theorem Format.IsReadFrom.congr {format : Format} {entries others : Payload.Entries}
    (same : ∀ names ∈ Format.fields, ∀ given,
      entries.Gives names given ↔ others.Gives names given)
    (reads : format.IsReadFrom entries) : format.IsReadFrom others where
  toolCode := reads.toolCode.congr fun given => (same _ (by decide) given).mp
  publicName := reads.publicName.congr fun given => (same _ (by decide) given).mp
  extension := reads.extension.congr (same _ (by decide))
  singleFile := reads.singleFile.congr (same _ (by decide))
  mimeType := reads.mimeType.congr (same _ (by decide))
  kind := reads.kind.congr (same _ (by decide))
  options := reads.options.congr (same _ (by decide))

theorem Configuration.IsReadFrom.congr {configuration : Configuration}
    {entries others : Payload.Entries}
    (same : ∀ names ∈ Configuration.fields, ∀ given,
      entries.Gives names given ↔ others.Gives names given)
    (reads : configuration.IsReadFrom entries) : configuration.IsReadFrom others where
  executable := reads.executable.congr fun given => (same _ (by decide) given).mp
  dataPath := reads.dataPath.congr (same _ (by decide))
  environment := reads.environment.congr (same _ (by decide))
  formats := reads.formats.congr (same _ (by decide))

namespace Payload

variable {entries : Entries} {rename : String → String}

theorem readsAsFormat_rekeyed {format : Format}
    (keeps : KeepsFields Format.fields (Association.keys entries) rename) :
    (Payload.mapping (Association.rekeyed rename entries)).ReadsAsFormat format ↔
      (Payload.mapping entries).ReadsAsFormat format := by
  have same (names : FieldNames) (field : names ∈ Format.fields) (given : Payload) :=
    Entries.gives_rekeyed keeps Format.areDisjoint_fields field given
  have fit := Entries.fits_rekeyed keeps Format.areDisjoint_fields
  constructor
  · rintro ⟨fits, reads⟩
    exact .mapping (fit.mp fits) (reads.congr same)
  · rintro ⟨fits, reads⟩
    exact .mapping (fit.mpr fits)
      (reads.congr fun names field given => (same names field given).symm)

theorem readsAsConfiguration_rekeyed {configuration : Configuration}
    (keeps : KeepsFields Configuration.fields (Association.keys entries) rename) :
    (Payload.mapping (Association.rekeyed rename entries)).ReadsAsConfiguration configuration ↔
      (Payload.mapping entries).ReadsAsConfiguration configuration := by
  have same (names : FieldNames) (field : names ∈ Configuration.fields) (given : Payload) :=
    Entries.gives_rekeyed keeps Configuration.areDisjoint_fields field given
  have fit := Entries.fits_rekeyed keeps Configuration.areDisjoint_fields
  constructor
  · rintro ⟨fits, reads, distinct⟩
    exact .mapping (fit.mp fits) (reads.congr same) distinct
  · rintro ⟨fits, reads, distinct⟩
    exact .mapping (fit.mpr fits)
      (reads.congr fun names field given => (same names field given).symm) distinct

/-- Two values are read as the same format, or neither as any. -/
def IsAlike (one other : Payload) : Prop :=
  ∀ format, one.ReadsAsFormat format ↔ other.ReadsAsFormat format

theorem readsAsListOf_of_alike {items others : List Payload} {formats : List Format}
    (alike : List.Forall₂ IsAlike items others)
    (reads : (Payload.list items).ReadsAsListOf ReadsAsFormat formats) :
    (Payload.list others).ReadsAsListOf ReadsAsFormat formats := by
  obtain ⟨each⟩ := reads
  refine .list ?_
  induction alike generalizing formats with
  | nil => exact each
  | cons one _ inductionHypothesis =>
      obtain ⟨format, rest, first, further, rfl⟩ := List.forall₂_cons_left_iff.mp each
      exact .cons ((one format).mp first) (inductionHypothesis further)

/-- Formats that are read alike may take each other's place in a configuration. -/
theorem readsAsConfiguration_of_alike {items others : List Payload} {configuration : Configuration}
    (alike : List.Forall₂ IsAlike items others)
    (reads : (Payload.mapping
      (Association.put entries "formats" (.list items))).ReadsAsConfiguration configuration) :
    (Payload.mapping
      (Association.put entries "formats" (.list others))).ReadsAsConfiguration configuration := by
  obtain ⟨fits, fields, distinct⟩ := reads
  have same (names : FieldNames) (elsewhere : "formats" ∉ names) (given : Payload) :
      Entries.Gives (Association.put entries "formats" (.list items)) names given ↔
        Entries.Gives (Association.put entries "formats" (.list others)) names given :=
    (Entries.gives_put_of_notMem elsewhere).trans (Entries.gives_put_of_notMem elsewhere).symm
  refine .mapping (fits.of_fewer fun key has => Entries.has_put.mpr (Entries.has_put.mp has)) ?_
    distinct
  constructor
  · exact fields.executable.congr fun given => (same _ (by decide) given).mp
  · exact fields.dataPath.congr (same _ (by decide))
  · exact fields.environment.congr (same _ (by decide))
  · have there : Entries.Gives (Association.put entries "formats" (.list items))
        Configuration.formatsNames (.list items) := Entries.gives_put_self.mpr rfl
    have once := fits.once Configuration.formatsNames (by decide)
    have listed := fields.formats.reads_of_gives once there
    exact .inl ⟨_, Entries.gives_put_self.mpr rfl, readsAsListOf_of_alike alike listed⟩

end Payload

/-! ### Rewritings -/

namespace Xml.Element

/-- The element under another tag. -/
def retagged (element : Element) (tag : String) : Element :=
  .node tag element.attributes element.text element.children

/-- The children that are no options. -/
def fieldElements (element : Element) : List Element :=
  element.children.filter (!Configuration.givesOptions ·)

/-- A tag is kept, or replaced by another one of some tags. -/
def IsRetagging (among : List String) (tag other : String) : Prop :=
  other = tag ∨ tag ∈ among ∧ other ∈ among

/-- A format is rewritten: its own tag may be that of another dialect, the tags of its fields may be
renamed within their fields, and the texts of its options stay the same in their order, whether they
are wrapped or not. -/
structure IsRewrittenFormat (element rewritten : Element) : Prop where
  tag : IsRetagging Configuration.formatTags element.tag rewritten.tag
  fields : ∃ rename, KeepsFields Format.fields (element.fieldElements.map (·.tag)) rename ∧
    rewritten.fieldElements =
      element.fieldElements.map fun child => child.retagged (rename child.tag)
  options : rewritten.children.flatMap Configuration.optionsOf =
    element.children.flatMap Configuration.optionsOf

/-- A child of the outermost element is rewritten: its tag is renamed, or the formats that it holds
are rewritten one by one. -/
inductive IsRewrittenChild (rename : String → String) : Element → Element → Prop
  | field {child : Element} : child.tag ≠ "formats" →
      IsRewrittenChild rename child (child.retagged (rename child.tag))
  | formats {child rewritten : Element} : child.tag = "formats" → rewritten.tag = "formats" →
      List.Forall₂ IsRewrittenFormat child.children rewritten.children →
        IsRewrittenChild rename child rewritten

/-- A configuration is rewritten from one dialect to another. -/
structure IsRewritten (root rewritten : Element) : Prop where
  tag : IsRetagging Configuration.rootTags root.tag rewritten.tag
  children : ∃ rename, KeepsFields Configuration.fields (root.children.map (·.tag)) rename ∧
    List.Forall₂ (IsRewrittenChild rename) root.children rewritten.children

theorem IsRetagging.contains_eq {among : List String} {tag other : String}
    (retagging : IsRetagging among tag other) : among.contains other = among.contains tag := by
  rcases retagging with rfl | ⟨one, another⟩
  · rfl
  · rw [List.contains_iff_mem.mpr one, List.contains_iff_mem.mpr another]

end Xml.Element

/-- A document is rewritten: both are well-formed, and the element of the one is rewritten to that
of the other. -/
def Xml.Document.IsRewritten (document rewritten : Xml.Document) : Prop :=
  ∃ root other, document.read = .ok root ∧ rewritten.read = .ok other ∧ root.IsRewritten other

namespace Configuration

open Xml.Element

/-- A rewritten format is read as the same format, or neither is read as any. -/
theorem formatPayload_of_rewritten {element rewritten : Xml.Element}
    (rewriting : IsRewrittenFormat element rewritten) :
    (formatPayload element).IsAlike (formatPayload rewritten) := by
  obtain ⟨rename, keeps, renamed⟩ := rewriting.fields
  -- The options are put beside the fields under a key of their own, which has to be kept as well.
  let keeping := Function.update rename "options" "options"
  have keeps : KeepsFields Format.fields
      ("options" :: element.fieldElements.map (·.tag)) keeping :=
    keeps.fixing (by decide) Format.areDisjoint_fields
  let entryOf (child : Xml.Element) : String × Payload := (child.tag, textPayload child)
  let given := element.fieldElements.map entryOf
  let options : Payload := .list ((element.children.flatMap optionsOf).map .text)
  have renamedEntries : rewritten.fieldElements.map entryOf =
      Association.rekeyed keeping given := by
    rw [renamed, List.map_map, Association.rekeyed, List.map_map]
    refine List.map_congr_left fun child member => ?_
    have noOption : child.tag ≠ "options" := by
      have plain := (List.mem_filter.mp member).2
      intro same
      simp [givesOptions, same] at plain
    have kept : keeping child.tag = rename child.tag := Function.update_of_ne noOption _ _
    change (rename child.tag, textPayload child) = (keeping child.tag, textPayload child)
    rw [kept]
  have original : formatPayload element =
      .mapping (Association.put (Association.ofEntries given) "options" options) := rfl
  have among : ∀ key ∈ Association.keys (Association.ofEntries given),
      key ∈ "options" :: element.fieldElements.map (·.tag) := by
    intro key member
    have tagged := Association.mem_keys_ofEntries.mp member
    rw [Association.keys, List.map_map] at tagged
    exact List.mem_cons_of_mem _ tagged
  have rewrittenEntries : formatPayload rewritten = .mapping (Association.rekeyed keeping
      (Association.put (Association.ofEntries given) "options" options)) := by
    have fixed : keeping "options" = "options" := Function.update_self _ _ _
    have gathered : Association.rekeyed keeping (Association.ofEntries given) =
        Association.ofEntries (Association.rekeyed keeping given) := by
      refine Association.rekeyed_ofEntries fun first firstMember second secondMember => ?_
      rw [Association.keys, List.map_map] at firstMember secondMember
      exact keeps.apart first (List.mem_cons_of_mem _ firstMember) second
        (List.mem_cons_of_mem _ secondMember)
    rw [Association.rekeyed_put, gathered, ← renamedEntries, fixed]
    · unfold formatPayload
      rw [rewriting.options]
      rfl
    · intro other member
      exact keeps.apart other (among other member) "options" List.mem_cons_self
  intro format
  rw [original, rewrittenEntries]
  refine (Payload.readsAsFormat_rekeyed (keeps.mono fun key member => ?_)).symm
  rcases (Association.mem_keys_put _ _ _ key).mp member with rfl | before
  · exact List.mem_cons_self
  · exact among key before

/-- Rewritten formats are read one by one as the same formats, unless a tag is unexpected in
both. -/
theorem formatsOf_of_rewritten {elements rewritten : List Xml.Element}
    (rewriting : List.Forall₂ IsRewrittenFormat elements rewritten) :
    (∃ items others, formatsOf elements = .ok items ∧ formatsOf rewritten = .ok others ∧
      List.Forall₂ Payload.IsAlike items others) ∨
    ∃ one other, formatsOf elements = .error one ∧ formatsOf rewritten = .error other := by
  induction rewriting with
  | nil => exact .inl ⟨[], [], rfl, rfl, .nil⟩
  | @cons element rewritten rest further first _ inductionHypothesis =>
      have expected := first.tag.contains_eq
      rw [formatsOf, formatsOf, expected]
      by_cases known : formatTags.contains element.tag = true
      · rw [if_pos known, if_pos known]
        rcases inductionHypothesis with ⟨items, others, one, other, alike⟩ | ⟨_, _, one, other⟩
        · rw [one, other]
          exact .inl ⟨_, _, rfl, rfl, .cons (formatPayload_of_rewritten first) alike⟩
        · rw [one, other]
          exact .inr ⟨_, _, rfl, rfl⟩
      · rw [if_neg known, if_neg known]
        exact .inr ⟨_, _, rfl, rfl⟩

section Gathering

variable {tags : List String} {rename : String → String}

theorem rename_eq_iff (keeps : KeepsFields fields tags rename) {tag key : String}
    (field : [key] ∈ fields) (member : tag ∈ tags) : rename tag = key ↔ tag = key := by
  have same := keeps.mem_iff areDisjoint_fields field member
  rwa [List.mem_singleton, List.mem_singleton] at same

theorem gather_environment {child : Xml.Element} (named : child.tag = "environment")
    (entries : Payload.Entries) (items : List Payload) (rest : List Xml.Element) :
    gather entries items (child :: rest) =
      match environmentOf [] child.children with
      | .error rejection => .error rejection
      | .ok environment => gather
          (Association.put entries "environment" (environmentPayload environment)) items rest := by
  rw [gather]
  exact if_pos (beq_iff_eq.mpr named)

theorem gather_formatList {child : Xml.Element} (named : child.tag = "formats")
    (entries : Payload.Entries) (items : List Payload) (rest : List Xml.Element) :
    gather entries items (child :: rest) =
      match formatsOf child.children with
      | .error rejection => .error rejection
      | .ok further => gather entries (items ++ further) rest := by
  have noEnvironment : ¬(child.tag == "environment") = true := by
    rw [named]
    decide
  rw [gather, if_neg noEnvironment]
  exact if_pos (beq_iff_eq.mpr named)

theorem gather_field {child : Xml.Element} (noEnvironment : child.tag ≠ "environment")
    (noFormats : child.tag ≠ "formats") (entries : Payload.Entries) (items : List Payload)
    (rest : List Xml.Element) :
    gather entries items (child :: rest) =
      gather (Association.put entries child.tag (textPayload child)) items rest := by
  rw [gather, if_neg (mt beq_iff_eq.mp noEnvironment), if_neg (mt beq_iff_eq.mp noFormats)]

/-- What is gathered from rewritten children is what is gathered from the children themselves, under
other names and with formats that are read alike, unless both are rejected. -/
theorem gather_of_rewritten (keeps : KeepsFields fields tags rename)
    {children rewritten : List Xml.Element}
    (rewriting : List.Forall₂ (IsRewrittenChild rename) children rewritten)
    (tagged : ∀ child ∈ children, child.tag ∈ tags) (entries : Payload.Entries)
    (among : ∀ key ∈ Association.keys entries, key ∈ tags) {items others : List Payload}
    (alike : List.Forall₂ Payload.IsAlike items others) :
    (∃ gathered formats otherFormats,
      gather entries items children = .ok (gathered, formats) ∧
      gather (Association.rekeyed rename entries) others rewritten =
        .ok (Association.rekeyed rename gathered, otherFormats) ∧
      (∀ key ∈ Association.keys gathered, key ∈ tags) ∧
      List.Forall₂ Payload.IsAlike formats otherFormats) ∨
    ∃ one other, gather entries items children = .error one ∧
      gather (Association.rekeyed rename entries) others rewritten = .error other := by
  -- Along the children: the entries so far differ by the renaming, and the formats are read alike.
  induction rewriting generalizing entries items others with
  | nil => exact .inl ⟨entries, items, others, rfl, rfl, among, alike⟩
  | @cons child other rest further first _ inductionHypothesis =>
      obtain ⟨childTagged, restTagged⟩ := List.forall_mem_cons.mp tagged
      -- A value that is put under the tag of the child keeps the entries within the tags.
      have put_ (value : Payload) :
          Association.rekeyed rename (Association.put entries child.tag value) =
            Association.put (Association.rekeyed rename entries) (rename child.tag) value :=
        Association.rekeyed_put value fun key member =>
          keeps.apart key (among key member) child.tag childTagged
      have stays (value : Payload) :
          ∀ key ∈ Association.keys (Association.put entries child.tag value), key ∈ tags := by
        intro key member
        rcases (Association.mem_keys_put entries child.tag value key).mp member with rfl | before
        · exact childTagged
        · exact among key before
      cases first with
      | formats named otherNamed formatsRewritten =>
          rw [gather_formatList named, gather_formatList otherNamed]
          rcases formatsOf_of_rewritten formatsRewritten with
            ⟨found, otherFound, one, another, foundAlike⟩ | ⟨_, _, one, another⟩
          · rw [one, another]
            exact inductionHypothesis restTagged entries among
              (List.rel_append alike foundAlike)
          · rw [one, another]
            exact .inr ⟨_, _, rfl, rfl⟩
      | field noFormats =>
          let other := child.retagged (rename child.tag)
          have otherNoFormats : other.tag ≠ "formats" :=
            mt (rename_eq_iff keeps (by decide) childTagged).mp noFormats
          by_cases named : child.tag = "environment"
          · have otherNamed : other.tag = "environment" :=
              (rename_eq_iff keeps (by decide) childTagged).mpr named
            have sameVariables : other.children = child.children := rfl
            rw [gather_environment named, gather_environment otherNamed, sameVariables]
            cases environmentOf [] child.children with
            | error rejection => exact .inr ⟨_, _, rfl, rfl⟩
            | ok environment =>
                have further := inductionHypothesis restTagged _
                  (stays (environmentPayload environment)) alike
                rw [put_, show rename child.tag = "environment" from otherNamed, named] at further
                exact further
          · have otherUnnamed : other.tag ≠ "environment" :=
              mt (rename_eq_iff keeps (by decide) childTagged).mp named
            rw [gather_field named noFormats, gather_field otherUnnamed otherNoFormats]
            have further := inductionHypothesis restTagged _ (stays (textPayload child)) alike
            rw [put_] at further
            exact further

end Gathering

/-- What a rewritten configuration describes is read as what the configuration itself describes. -/
theorem payloadOf_of_rewritten {root rewritten : Xml.Element}
    (rewriting : root.IsRewritten rewritten) :
    (∃ payload other, payloadOf root = .ok payload ∧ payloadOf rewritten = .ok other ∧
      ∀ configuration, payload.ReadsAsConfiguration configuration ↔
        other.ReadsAsConfiguration configuration) ∨
    ∃ one other, payloadOf root = .error one ∧ payloadOf rewritten = .error other := by
  have expected := rewriting.tag.contains_eq
  rw [payloadOf, payloadOf, expected]
  by_cases known : rootTags.contains root.tag = true
  · rw [if_pos known, if_pos known]
    obtain ⟨rename, keeps, children⟩ := rewriting.children
    let tags := "formats" :: root.children.map (·.tag)
    let keeping := Function.update rename "formats" "formats"
    have keeps : KeepsFields fields tags keeping := keeps.fixing (by decide) areDisjoint_fields
    have fixed : keeping "formats" = "formats" := Function.update_self _ _ _
    have childrenKept : List.Forall₂ (IsRewrittenChild keeping) root.children
        rewritten.children := by
      refine children.imp fun child other first => ?_
      cases first with
      | formats named otherNamed formats => exact .formats named otherNamed formats
      | field noFormats =>
          have kept : keeping child.tag = rename child.tag :=
            Function.update_of_ne noFormats _ _
          rw [← kept]
          exact .field noFormats
    have tagged : ∀ child ∈ root.children, child.tag ∈ tags :=
      fun child member => List.mem_cons_of_mem _ (List.mem_map_of_mem member)
    rcases gather_of_rewritten keeps childrenKept tagged [] (by simp [Association.keys]) .nil with
      ⟨gathered, formats, otherFormats, one, other, among, alike⟩ | ⟨_, _, one, other⟩
    · have otherGathered : gather [] [] rewritten.children =
          .ok (Association.rekeyed keeping gathered, otherFormats) := other
      rw [one, otherGathered]
      refine .inl ⟨_, _, rfl, rfl, fun configuration => ?_⟩
      have put_ : Association.put (Association.rekeyed keeping gathered) "formats"
          (.list otherFormats) = Association.rekeyed keeping
            (Association.put gathered "formats" (.list otherFormats)) := by
        rw [Association.rekeyed_put, fixed]
        intro key member
        exact keeps.apart key (among key member) "formats" List.mem_cons_self
      have within : ∀ key ∈ Association.keys
          (Association.put gathered "formats" (Payload.list otherFormats)), key ∈ tags := by
        intro key member
        rcases (Association.mem_keys_put _ _ _ key).mp member with rfl | before
        · exact List.mem_cons_self
        · exact among key before
      have back : List.Forall₂ Payload.IsAlike otherFormats formats :=
        (List.Forall₂.flip alike).imp fun one other same format => (same format).symm
      simp only
      rw [put_, Payload.readsAsConfiguration_rekeyed (keeps.mono within)]
      constructor
      · exact Payload.readsAsConfiguration_of_alike alike
      · exact Payload.readsAsConfiguration_of_alike back
    · have otherRejected : gather [] [] rewritten.children = _ := other
      rw [one, otherRejected]
      exact .inr ⟨_, _, rfl, rfl⟩
  · rw [if_neg known, if_neg known]
    exact .inr ⟨_, _, rfl, rfl⟩

theorem ofElement_eq_ok {root : Xml.Element} {accepted : Configuration} :
    ofElement root = .ok accepted ↔
      ∃ payload, payloadOf root = .ok payload ∧ payload.ReadsAsConfiguration accepted := by
  unfold ofElement
  cases payloadOf root with
  | error rejection => simp
  | ok payload =>
      simp only [Except.ok.injEq, exists_eq_left', ← Schema.configuration_eq_valid]
      cases Schema.configuration payload <;> simp

/-- A rewritten configuration is accepted exactly where the configuration itself is, and read as the
same. -/
theorem ofElement_of_rewritten {root rewritten : Xml.Element}
    (rewriting : root.IsRewritten rewritten) (accepted : Configuration) :
    ofElement root = .ok accepted ↔ ofElement rewritten = .ok accepted := by
  rw [ofElement_eq_ok, ofElement_eq_ok]
  rcases payloadOf_of_rewritten rewriting with
    ⟨payload, other, one, another, same⟩ | ⟨_, _, one, another⟩
  · simp [one, another, same accepted]
  · simp [one, another]

theorem read_eq_ok {document : Xml.Document} {root : Xml.Element}
    (wellFormed : document.read = .ok root) {accepted : Configuration} :
    read document = .ok accepted ↔ ofElement root = .ok accepted := by
  unfold read
  rw [wellFormed]
  cases found : ofElement root <;> simp [found]

/-- All dialects mean the same: a document that is rewritten from one to another is accepted exactly
where the document itself is, and then both are read as the same configuration. -/
theorem read_of_rewritten {document rewritten : Xml.Document}
    (rewriting : document.IsRewritten rewritten) (accepted : Configuration) :
    read document = .ok accepted ↔ read rewritten = .ok accepted := by
  obtain ⟨root, other, wellFormed, otherWellFormed, elements⟩ := rewriting
  rw [read_eq_ok wellFormed, read_eq_ok otherWellFormed]
  exact ofElement_of_rewritten elements accepted

end Configuration

/-! ### A configuration in two dialects -/

/-- A configuration of the raster tool with one format, one of whose options is wrapped. -/
def toolDialect : Xml.Markup :=
  .branch "ToolConfiguration"
    [.leaf "executable" [] "gdal_translate",
      .branch "formats" [.branch "Format"
        [.leaf "toolFormat" [] "PDF", .leaf "option" [] "-co",
          .leaf "geoserverFormat" [] "GDAL-PDF",
          .branch "options" [.leaf "option" [] "DPI=300"]]]]

/-- The same under other names, with all options wrapped. -/
def gdalDialect : Xml.Markup :=
  .branch "GdalConfiguration"
    [.leaf "gdalTranslateLocation" [] "gdal_translate",
      .branch "formats" [.branch "GdalFormat"
        [.branch "options" [.leaf "option" [] "-co", .leaf "option" [] "DPI=300"],
          .leaf "gdalFormat" [] "PDF", .leaf "formatName" [] "GDAL-PDF"]]]

/-- The text of a document. -/
def Xml.Markup.asDocument (markup : Xml.Markup) : Xml.Document :=
  .text (String.ofList markup.document)

theorem Xml.Markup.read_asDocument {tag : String} {children : List Xml.Markup}
    (plain : isPlain (.branch tag children) = true) (proper : children.isEmpty = false)
    (allowed : isAllowed (.branch tag children) = true) :
    (branch tag children).asDocument.read = .ok (resolved 0 (.branch tag children)) :=
  (read_document plain proper (.inl rfl)).trans (if_pos allowed)

theorem read_toolDialect : toolDialect.asDocument.read = .ok (toolDialect.resolved 0) :=
  Xml.Markup.read_asDocument (by decide +kernel) rfl (by decide +kernel)

theorem read_gdalDialect : gdalDialect.asDocument.read = .ok (gdalDialect.resolved 0) :=
  Xml.Markup.read_asDocument (by decide +kernel) rfl (by decide +kernel)

theorem toolDialect_isRewritten : toolDialect.asDocument.IsRewritten gdalDialect.asDocument := by
  let renameFormat (tag : String) : String :=
    if tag = "toolFormat" then "gdalFormat"
    else if tag = "geoserverFormat" then "formatName" else tag
  let renameRoot (tag : String) : String :=
    if tag = "executable" then "gdalTranslateLocation" else tag
  refine ⟨_, _, read_toolDialect, read_gdalDialect, ?_⟩
  constructor
  · exact .inr ⟨by decide, by decide⟩
  · refine ⟨renameRoot, ⟨by decide, by decide⟩, .cons (.field (by decide)) (.cons ?_ .nil)⟩
    refine .formats rfl rfl (.cons ?_ .nil)
    constructor
    · exact .inr ⟨by decide, by decide⟩
    · exact ⟨renameFormat, ⟨by decide, by decide⟩, rfl⟩
    · rfl

/-- The document is accepted in either dialect. -/
theorem read_of_toolDialect :
    toolDialect.asDocument.IsRewritten gdalDialect.asDocument ∧
    let accepted : Configuration := {
      executable := "gdal_translate"
      formats := [{
        toolCode := "PDF", publicName := "GDAL-PDF", options := ["-co", "DPI=300"] }] }
    Configuration.read toolDialect.asDocument = .ok accepted ∧
    Configuration.read gdalDialect.asDocument = .ok accepted := by
  refine ⟨toolDialect_isRewritten, ?_⟩
  intro accepted
  have read : Configuration.read toolDialect.asDocument = .ok accepted :=
    (Configuration.read_eq_ok read_toolDialect).mpr (by decide +kernel)
  exact ⟨read, (Configuration.read_of_rewritten toolDialect_isRewritten accepted).mp read⟩

end GeoBridge
