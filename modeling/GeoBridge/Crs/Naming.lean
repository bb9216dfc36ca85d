import GeoBridge.Workspace

/-!
Owns the names of side files.

Owns:
- the form of such a name;
- ways of naming, each of which finds a name that nothing in a directory has;
- the way that numbers its names and takes the first that is free.
-/

namespace GeoBridge.Crs

/-- A text is the name of a side file if it is one part of a path, with the beginning and the ending
that all of them have. -/
def IsSideFileName (name : String) : Prop :=
  ∃ drawn : List Char, '/' ∉ drawn ∧ name.toList = "srs".toList ++ drawn ++ ".wkt".toList

/-- A way of naming side files. Whatever there is, the name it chooses for a directory is free. -/
structure Naming where
  choose : Workspace → Place → String
  isFree : ∀ (workspace : Workspace) (directory : Place),
    workspace.entryAt? (directory ++ [choose workspace directory]) = none
  isSideFileName : ∀ (workspace : Workspace) (directory : Place),
    IsSideFileName (choose workspace directory)

/-- The digits of a number, with zeros before them up to eight. -/
def paddedDigits (number : Nat) : List Char :=
  let digits := Nat.toDigits 10 number
  List.replicate (8 - digits.length) '0' ++ digits

/-- The name of a side file with a number. -/
def sideFileName (number : Nat) : String :=
  String.ofList ("srs".toList ++ paddedDigits number ++ ".wkt".toList)

theorem isSideFileName_sideFileName (number : Nat) : IsSideFileName (sideFileName number) := by
  refine ⟨paddedDigits number, ?_, String.toList_ofList⟩
  intro slash
  rcases List.mem_append.mp slash with padding | digit
  · exact absurd (List.eq_of_mem_replicate padding) (by decide)
  · have isDigit : '/'.isDigit = true :=
      Nat.isDigit_of_mem_toDigits (by decide) (by decide) digit
    exact absurd isDigit (by decide)

theorem paddedDigits_value (number : Nat) :
    Nat.ofDigitChars 10 (paddedDigits number) 0 = number := by
  rw [paddedDigits, Nat.ofDigitChars_append, Nat.ofDigitChars_replicate_zero, Nat.mul_zero,
    Nat.ofDigitChars_ten_toDigits]

theorem sideFileName_injective {number other : Nat}
    (same : sideFileName number = sideFileName other) : number = other := by
  have characters := String.ofList_injective same
  rw [List.append_cancel_right_eq, List.append_cancel_left_eq] at characters
  rw [← paddedDigits_value number, ← paddedDigits_value other, characters]

/-- There are fewer entries than numbers tried, so one of their names is free. -/
theorem exists_free_name (workspace : Workspace) (directory : Place) :
    ∃ name ∈ (List.range (workspace.entries.length + 1)).map sideFileName,
      workspace.entryAt? (directory ++ [name]) = none := by
  refine Classical.byContradiction fun noneFree => ?_
  let places := (List.range (workspace.entries.length + 1)).map
    fun number => directory ++ [sideFileName number]
  have different : places.Nodup := by
    refine List.Pairwise.map _ ?_ List.nodup_range
    intro number other unequal same
    rw [List.append_cancel_left_eq, List.cons.injEq] at same
    exact unequal (sideFileName_injective same.1)
  have taken : places ⊆ workspace.entries.map Prod.fst := by
    intro place member
    obtain ⟨number, inRange, rfl⟩ := List.mem_map.mp member
    refine Classical.byContradiction fun absent => noneFree ⟨sideFileName number, ?_, ?_⟩
    · exact List.mem_map_of_mem inRange
    · rw [Workspace.entryAt?, if_neg (by simp), List.lookup_eq_none_iff]
      intro entry entered
      simpa using fun same : directory ++ [sideFileName number] = entry.1 =>
        absent (same ▸ List.mem_map_of_mem entered)
  have bound := different.length_le_of_subset taken
  simp only [places, List.length_map, List.length_range] at bound
  omega

/-- The first name that nothing in a directory has. -/
def firstFreeName (workspace : Workspace) (directory : Place) : String :=
  let candidates := (List.range (workspace.entries.length + 1)).map sideFileName
  (candidates.find? fun name => (workspace.entryAt? (directory ++ [name])).isNone).getD
    (sideFileName (workspace.entries.length + 1))

/-- Number the names, and take the first that is free. -/
def Naming.numbered : Naming where
  choose := firstFreeName
  isFree workspace directory := by
    obtain ⟨name, candidate, free⟩ := exists_free_name workspace directory
    unfold firstFreeName
    cases found : List.find? (fun name => (workspace.entryAt? (directory ++ [name])).isNone)
        ((List.range (workspace.entries.length + 1)).map sideFileName) with
    | none =>
        have notFree := List.find?_eq_none.mp found name candidate
        simp [free] at notFree
    | some chosen =>
        have chosenFree := List.find?_some found
        simpa [found] using chosenFree
  isSideFileName workspace directory := by
    unfold firstFreeName
    cases found : List.find? (fun name => (workspace.entryAt? (directory ++ [name])).isNone)
        ((List.range (workspace.entries.length + 1)).map sideFileName) with
    | none => simpa [found] using isSideFileName_sideFileName _
    | some chosen =>
        obtain ⟨number, -, rfl⟩ := List.mem_map.mp (List.mem_of_find?_eq_some found)
        simpa [found] using isSideFileName_sideFileName number

end GeoBridge.Crs
