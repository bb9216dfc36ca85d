/-!
Owns associations from keys to values that keep their entries in the order in which the keys
first came.

Owns:
- assignment, which keeps the place of a key that is already there;
- look-up and the list of keys;
- the comparison of two associations, for which order does not count.
-/

namespace GeoBridge

/-- The entries of an association, in the order in which their keys first came. -/
abbrev Association (κ α : Type) := List (κ × α)

namespace Association

variable {κ α : Type} [DecidableEq κ]

/-- Assign a value to a key. A key that is already there keeps its place. -/
def put : Association κ α → κ → α → Association κ α
  | [], key, value => [(key, value)]
  | (other, kept) :: rest, key, value =>
      if other = key then (key, value) :: rest else (other, kept) :: put rest key value

/-- The value of a key. -/
def find? : Association κ α → κ → Option α
  | [], _ => none
  | (other, value) :: rest, key => if other = key then some value else find? rest key

/-- The keys, in their order. -/
def keys (entries : Association κ α) : List κ := entries.map Prod.fst

/-- Assign all entries of a list, one after the other. -/
def putAll (entries : Association κ α) (further : List (κ × α)) : Association κ α :=
  further.foldl (fun gathered entry => put gathered entry.1 entry.2) entries

/-- The association that the entries of a list build up. -/
def ofEntries (entries : List (κ × α)) : Association κ α := putAll [] entries

/-- Whether every entry of one association is one of another, whatever the order. -/
def isWithin [DecidableEq α] (entries others : Association κ α) : Bool :=
  entries.all fun entry => find? others entry.1 == some entry.2

/-- Whether two associations have the same entries, whatever their order. -/
def agrees [DecidableEq α] (entries others : Association κ α) : Bool :=
  isWithin entries others && isWithin others entries

/-- The entries of all keys but one. -/
def erase (entries : Association κ α) (key : κ) : Association κ α :=
  entries.filter fun entry => entry.1 ≠ key

theorem find?_put (entries : Association κ α) (key other : κ) (value : α) :
    find? (put entries key value) other =
      if key = other then some value else find? entries other := by
  induction entries with
  | nil => simp [put, find?]
  | cons entry rest inductionHypothesis =>
      obtain ⟨first, kept⟩ := entry
      by_cases same : first = key
      · subst same
        by_cases asked : first = other <;> simp [put, find?, asked]
      · by_cases asked : first = other
        · subst asked
          simp [put, find?, same, Ne.symm same]
        · simp [put, find?, same, asked, inductionHypothesis]

theorem find?_append (entries further : Association κ α) (key : κ) :
    find? (entries ++ further) key = (find? entries key).or (find? further key) := by
  induction entries with
  | nil => rfl
  | cons entry rest inductionHypothesis =>
      rw [List.cons_append, find?, find?]
      split
      · rfl
      · exact inductionHypothesis

theorem find?_putAll (entries : Association κ α) (further : List (κ × α)) (key : κ) :
    find? (putAll entries further) key = (find? further.reverse key).or (find? entries key) := by
  induction further generalizing entries with
  | nil => rfl
  | cons entry rest inductionHypothesis =>
      have tail := inductionHypothesis (put entries entry.1 entry.2)
      rw [find?_put] at tail
      rw [List.reverse_cons, find?_append, Option.or_assoc]
      refine tail.trans (congrArg _ ?_)
      rw [find?, find?]
      split <;> rfl

/-- Of several entries under one key the last one is found. -/
theorem find?_ofEntries (entries : List (κ × α)) (key : κ) :
    find? (ofEntries entries) key = find? entries.reverse key := by
  rw [ofEntries, find?_putAll]
  exact Option.or_none

theorem find?_eq_none_iff {entries : Association κ α} {key : κ} :
    find? entries key = none ↔ key ∉ keys entries := by
  induction entries with
  | nil => simp [find?, keys]
  | cons entry rest inductionHypothesis =>
      rw [find?, show keys (entry :: rest) = entry.1 :: keys rest from rfl, List.mem_cons, not_or]
      by_cases same : entry.1 = key
      · simp [same]
      · rw [if_neg same, inductionHypothesis, and_iff_right (Ne.symm same)]

/-- Of several items under one key the last one is found from behind. -/
theorem find?_reverse_map {β : Type} (items : List β) (key : β → κ) (value : β → α) (sought : κ) :
    find? (items.map fun item => (key item, value item)).reverse sought =
      ((items.filter (key · = sought)).getLast?).map value := by
  have forward (items : List β) : find? (items.map fun item => (key item, value item)) sought =
      ((items.filter (key · = sought)).head?).map value := by
    induction items with
    | nil => rfl
    | cons item rest inductionHypothesis =>
        rw [List.map_cons, find?]
        by_cases same : key item = sought
        · simp [same]
        · simp [same, inductionHypothesis]
  rw [← List.map_reverse, forward, List.filter_reverse, List.head?_reverse]

theorem mem_of_find? {entries : Association κ α} {key : κ} {value : α}
    (found : find? entries key = some value) : (key, value) ∈ entries := by
  induction entries with
  | nil => cases found
  | cons entry rest inductionHypothesis =>
      obtain ⟨first, kept⟩ := entry
      rw [find?] at found
      by_cases same : first = key
      · rw [if_pos same, Option.some.injEq] at found
        rw [same, found]
        exact List.mem_cons_self
      · rw [if_neg same] at found
        exact List.mem_cons_of_mem _ (inductionHypothesis found)

theorem mem_put {entries : Association κ α} {key : κ} {value : α} {entry : κ × α}
    (member : entry ∈ put entries key value) : entry = (key, value) ∨ entry ∈ entries := by
  induction entries with
  | nil => exact .inl (List.mem_singleton.mp member)
  | cons first rest inductionHypothesis =>
      rw [put] at member
      by_cases same : first.1 = key
      · rw [if_pos same, List.mem_cons] at member
        exact member.imp id (List.mem_cons_of_mem _)
      · rw [if_neg same, List.mem_cons] at member
        rcases member with rfl | later
        · exact .inr List.mem_cons_self
        · exact (inductionHypothesis later).imp id (List.mem_cons_of_mem _)

/-- Whatever is assigned in turn, no entry comes from elsewhere. -/
theorem mem_putAll {entries further : Association κ α} {entry : κ × α}
    (member : entry ∈ putAll entries further) : entry ∈ entries ∨ entry ∈ further := by
  induction further generalizing entries with
  | nil => exact .inl member
  | cons next rest inductionHypothesis =>
      rcases @inductionHypothesis (put entries next.1 next.2) member with before | later
      · rcases mem_put before with rfl | earlier
        · exact .inr List.mem_cons_self
        · exact .inl earlier
      · exact .inr (List.mem_cons_of_mem _ later)

/-- A key that is not there yet comes last. -/
theorem put_of_absent {entries : Association κ α} {key : κ} (value : α)
    (absent : key ∉ keys entries) : put entries key value = entries ++ [(key, value)] := by
  induction entries with
  | nil => rfl
  | cons entry rest inductionHypothesis =>
      simp only [keys, List.map_cons, List.mem_cons, not_or] at absent
      rw [put, if_neg (Ne.symm absent.1), inductionHypothesis absent.2, List.cons_append]

omit [DecidableEq κ] in
theorem mem_keys_reverse {entries : Association κ α} {key : κ} :
    key ∈ keys entries.reverse ↔ key ∈ keys entries := by
  simp [keys]

/-- Assigning a value brings in its key and no other. -/
theorem mem_keys_put (entries : Association κ α) (key : κ) (value : α) (other : κ) :
    other ∈ keys (put entries key value) ↔ other = key ∨ other ∈ keys entries := by
  induction entries with
  | nil => simp [put, keys]
  | cons entry rest inductionHypothesis =>
      rw [put]
      split
      · next same => simp [keys, same]
      · simp only [keys, List.map_cons, List.mem_cons] at inductionHypothesis ⊢
        rw [inductionHypothesis, or_left_comm]

theorem mem_keys_putAll {entries : Association κ α} {further : List (κ × α)} {key : κ} :
    key ∈ keys (putAll entries further) ↔ key ∈ keys entries ∨ key ∈ keys further := by
  induction further generalizing entries with
  | nil => simp [putAll, keys]
  | cons entry rest inductionHypothesis =>
      have tail := @inductionHypothesis (put entries entry.1 entry.2)
      rw [mem_keys_put, or_assoc, or_left_comm] at tail
      rw [show keys (entry :: rest) = entry.1 :: keys rest from rfl, List.mem_cons]
      exact tail

theorem mem_keys_ofEntries {entries : List (κ × α)} {key : κ} :
    key ∈ keys (ofEntries entries) ↔ key ∈ keys entries := by
  rw [ofEntries, mem_keys_putAll]
  simp [keys]

theorem nodup_keys_put {entries : Association κ α} (distinct : (keys entries).Nodup) (key : κ)
    (value : α) : (keys (put entries key value)).Nodup := by
  induction entries with
  | nil => simp [put, keys]
  | cons entry rest inductionHypothesis =>
      simp only [keys, List.map_cons, List.nodup_cons] at distinct
      rw [put]
      split
      · next same =>
          simp only [keys, List.map_cons, List.nodup_cons]
          exact ⟨same ▸ distinct.1, distinct.2⟩
      · next other =>
          simp only [keys, List.map_cons, List.nodup_cons]
          refine ⟨fun again => ?_, inductionHypothesis distinct.2⟩
          rcases (mem_keys_put rest key value entry.1).mp again with same | later
          · exact other same
          · exact distinct.1 later

/-- However often a key is assigned, it comes once. -/
theorem nodup_keys_ofEntries (entries : List (κ × α)) : (keys (ofEntries entries)).Nodup := by
  have step (gathered : Association κ α) (start : (keys gathered).Nodup) :
      (keys (putAll gathered entries)).Nodup := by
    induction entries generalizing gathered with
    | nil => exact start
    | cons entry rest inductionHypothesis =>
        exact inductionHypothesis _ (nodup_keys_put start entry.1 entry.2)
  exact step [] List.nodup_nil

/-- A key that is there keeps its place. -/
theorem put_of_present {before after : Association κ α} {key : κ} {old : α} (value : α)
    (first : key ∉ keys before) :
    put (before ++ (key, old) :: after) key value = before ++ (key, value) :: after := by
  induction before with
  | nil => rw [List.nil_append, put, if_pos rfl, List.nil_append]
  | cons entry rest inductionHypothesis =>
      simp only [keys, List.map_cons, List.mem_cons, not_or] at first
      rw [List.cons_append, put, if_neg (Ne.symm first.1), inductionHypothesis first.2,
        List.cons_append]

/-- Entries whose keys are all new are taken over one after the other. -/
theorem putAll_of_new (entries : Association κ α) {further : Association κ α}
    (distinct : (keys (entries ++ further)).Nodup) :
    putAll entries further = entries ++ further := by
  induction further generalizing entries with
  | nil => rw [putAll, List.foldl_nil, List.append_nil]
  | cons entry rest inductionHypothesis =>
      have absent : entry.1 ∉ keys entries := by
        intro present
        rw [keys, List.map_append, List.nodup_append] at distinct
        exact distinct.2.2 _ present _ (by simp) rfl
      have joined : entries ++ [(entry.1, entry.2)] ++ rest = entries ++ entry :: rest := by simp
      rw [← joined] at distinct ⊢
      rw [← inductionHypothesis _ distinct, putAll, List.foldl_cons, put_of_absent entry.2 absent]
      rfl

/-- Entries under different keys are an association as they stand. -/
theorem ofEntries_of_distinct {entries : Association κ α} (distinct : (keys entries).Nodup) :
    ofEntries entries = entries :=
  putAll_of_new [] distinct

end Association

end GeoBridge
