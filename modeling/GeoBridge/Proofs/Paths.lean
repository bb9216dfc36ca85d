import GeoBridge.WidePath
import GeoBridge.Workspace
import Mathlib.Data.List.Basic

/-!
Owns the lexical normal form of paths.

Owns:
- the parts of a path: division at the slashes, double dots that take back the part before them, and
  what an injective change of the items does to both;
- absolute paths, and those that normalization leaves as they are;
- the agreement of the normal forms of a path and of the same path seen from outside.
-/

namespace GeoBridge

open Text (Sign WideText)

namespace Path

/-! ### Parts -/

section Parts

variable {α β : Type} [BEq α] [LawfulBEq α] [BEq β] [LawfulBEq β]

theorem divide_of_notMem {separator : α} {part items : List α} (absent : separator ∉ items) :
    divide separator part items = [part.reverse ++ items] := by
  induction items generalizing part with
  | nil => simp [divide]
  | cons item rest inductionHypothesis =>
      rw [List.mem_cons, not_or] at absent
      rw [divide, if_neg (by simpa using Ne.symm absent.1), inductionHypothesis absent.2]
      simp

/-- No part has a separator in it. -/
theorem notMem_of_mem_divide {separator : α} {part items divided : List α}
    (absent : separator ∉ part) (member : divided ∈ divide separator part items) :
    separator ∉ divided := by
  induction items generalizing part with
  | nil =>
      rw [divide, List.mem_singleton] at member
      rwa [member, List.mem_reverse]
  | cons item rest inductionHypothesis =>
      rw [divide] at member
      by_cases ends : item = separator
      · rw [if_pos (by simpa using ends), List.mem_cons] at member
        rcases member with whole | later
        · rwa [whole, List.mem_reverse]
        · exact inductionHypothesis List.not_mem_nil later
      · rw [if_neg (by simpa using ends)] at member
        refine inductionHypothesis (fun among => ?_) member
        rcases List.mem_cons.mp among with same | earlier
        · exact ends same.symm
        · exact absent earlier

/-- What takes back the part before it is not left itself. -/
theorem notMem_takeBack (doubleDot : α) (parts : List α) :
    doubleDot ∉ takeBack doubleDot parts := by
  have kept : ∀ gathered : List α, doubleDot ∉ gathered →
      doubleDot ∉ parts.foldl
        (fun kept part => if part == doubleDot then kept.tail else part :: kept) gathered := by
    induction parts with
    | nil => exact fun gathered absent => absent
    | cons part rest inductionHypothesis =>
        intro gathered absent
        rw [List.foldl_cons]
        by_cases dots : part = doubleDot
        · rw [if_pos (by simpa using dots)]
          exact inductionHypothesis _ fun member => absent (List.mem_of_mem_tail member)
        · rw [if_neg (by simpa using dots)]
          refine inductionHypothesis _ fun member => ?_
          rcases List.mem_cons.mp member with same | earlier
          · exact dots same.symm
          · exact absent earlier
  intro member
  exact kept [] List.not_mem_nil (List.mem_reverse.mp member)

/-- Where nothing takes back, every part is left. -/
theorem takeBack_of_notMem {doubleDot : α} {parts : List α} (absent : doubleDot ∉ parts) :
    takeBack doubleDot parts = parts := by
  have gathers : ∀ gathered : List α, parts.foldl
      (fun kept part => if part == doubleDot then kept.tail else part :: kept) gathered =
        parts.reverse ++ gathered := by
    induction parts with
    | nil => exact fun gathered => rfl
    | cons part rest inductionHypothesis =>
        intro gathered
        rw [List.mem_cons, not_or] at absent
        rw [List.foldl_cons, if_neg (by simpa using Ne.symm absent.1),
          inductionHypothesis absent.2]
        simp
  rw [takeBack, gathers, List.append_nil, List.reverse_reverse]

variable {change : α → β} (injective : change.Injective)

include injective

theorem divide_map (separator : α) (part items : List α) :
    divide (change separator) (part.map change) (items.map change) =
      (divide separator part items).map (List.map change) := by
  induction items generalizing part with
  | nil => simp [divide]
  | cons item rest inductionHypothesis =>
      rw [List.map_cons, divide, divide]
      by_cases ends : item = separator
      · rw [if_pos (by simp [ends]), if_pos (by simpa using ends), List.map_cons, List.map_reverse,
          ← inductionHypothesis, List.map_nil]
      · have differs : change item ≠ change separator := fun same => ends (injective same)
        rw [if_neg (by simpa using differs), if_neg (by simpa using ends),
          ← inductionHypothesis, List.map_cons]

theorem counts_map (dot : α) (part : List α) :
    counts (change dot) (part.map change) = counts dot part := by
  have same : part.map change = [change dot] ↔ part = [dot] :=
    (List.map_injective_iff.mpr injective).eq_iff' (by simp)
  rw [Bool.eq_iff_iff]
  simp [counts, same]

theorem properParts_map (slash dot : α) (items : List α) :
    properParts (change slash) (change dot) (items.map change) =
      (properParts slash dot items).map (List.map change) := by
  have divided := divide_map injective slash [] items
  rw [List.map_nil] at divided
  rw [properParts, divided, properParts, List.filter_map]
  congr 2
  exact funext fun part => counts_map injective dot part

theorem startOf_map (slash : α) (items : List α) :
    startOf (change slash) (items.map change) = startOf slash items := by
  have taken : (items.map change).takeWhile (· == change slash) =
      (items.takeWhile (· == slash)).map change := by
    rw [List.takeWhile_map]
    congr 2
    refine funext fun item => ?_
    rw [Function.comp_apply, Bool.eq_iff_iff, beq_iff_eq, beq_iff_eq, injective.eq_iff]
  rw [startOf, taken, List.length_map, startOf]

theorem takeBack_map (doubleDot : α) (parts : List α) :
    takeBack (change doubleDot) (parts.map change) = (takeBack doubleDot parts).map change := by
  have gathers : ∀ gathered : List α, (parts.map change).foldl
      (fun kept part => if part == change doubleDot then kept.tail else part :: kept)
        (gathered.map change) =
      (parts.foldl (fun kept part => if part == doubleDot then kept.tail else part :: kept)
        gathered).map change := by
    induction parts with
    | nil => exact fun gathered => rfl
    | cons part rest inductionHypothesis =>
        intro gathered
        rw [List.map_cons, List.foldl_cons, List.foldl_cons]
        by_cases dots : part = doubleDot
        · rw [if_pos (by simp [dots]), if_pos (by simpa using dots), ← List.map_tail,
            inductionHypothesis]
        · rw [if_neg (by simpa using fun same => dots (injective same)),
            if_neg (by simpa using dots), ← List.map_cons, inductionHypothesis]
  rw [takeBack, takeBack, ← List.map_nil (f := change), gathers, List.map_reverse]

end Parts

/-! ### Names -/

/-- A name that is one part of a path. -/
structure IsPart (name : String) : Prop where
  nonempty : name ≠ ""
  undotted : name ≠ "."
  undivided : '/' ∉ name.toList

theorem isPart_of_mem {text name : String} (member : name ∈ (ofString text).parts) :
    IsPart name := by
  obtain ⟨part, among, rfl⟩ := List.mem_map.mp member
  obtain ⟨divided, proper⟩ := List.mem_filter.mp among
  obtain ⟨filled, undotted⟩ : part ≠ [] ∧ part ≠ ['.'] := by simpa [counts] using proper
  refine ⟨?_, ?_, ?_⟩
  · exact fun same => filled (by simpa using congrArg String.toList same)
  · exact fun same => undotted (by simpa using congrArg String.toList same)
  · rw [String.toList_ofList]
    exact notMem_of_mem_divide List.not_mem_nil divided

/-- Only what begins with a slash is absolute. -/
theorem rootOf_of_notMem {characters : List Char} (undivided : '/' ∉ characters) :
    rootOf characters = .relative := by
  cases characters with
  | nil => rfl
  | cons first rest =>
      rw [List.mem_cons, not_or] at undivided
      have differs : (first == '/') = false := by simpa using Ne.symm undivided.1
      simp [rootOf, startOf, differs]

theorem ofString_of_isPart {name : String} (isPart : IsPart name) :
    ofString name = ⟨.relative, [name]⟩ := by
  have proper : counts '.' name.toList = true := by
    have filled : name.toList ≠ [] := fun same => isPart.nonempty (String.toList_eq_nil_iff.mp same)
    have undotted : name.toList ≠ ['.'] := fun same =>
      isPart.undotted (String.toList_injective same)
    simp [counts, filled, undotted]
  rw [ofString, rootOf_of_notMem isPart.undivided, partsOf, properParts,
    divide_of_notMem isPart.undivided]
  simp [proper]

theorem joinText_of_isPart (path : Path) {name : String} (isPart : IsPart name) :
    path.joinText name = ⟨path.root, path.parts ++ [name]⟩ := by
  rw [joinText, ofString_of_isPart isPart]
  rfl

/-! ### Normal forms -/

/-- Double dots do not survive normalization. -/
theorem doubleDot_notMem (parts : List String) : ".." ∉ withoutDoubleDots parts :=
  notMem_takeBack ".." parts

/-- Normalization leaves exactly the paths without double dots as they are. -/
theorem normalize_eq_self_iff {path : Path} : path.normalize = path ↔ ".." ∉ path.parts := by
  constructor
  · intro same
    rw [← same]
    exact doubleDot_notMem path.parts
  · intro straight
    rw [normalize, withoutDoubleDots, takeBack_of_notMem straight]

theorem isAbsolute_resolveLexically (path : Path) (workspace : Workspace) :
    (path.resolveLexically workspace.herePath).isAbsolute = true := by
  unfold resolveLexically absolute join normalize
  by_cases rooted : path.isAbsolute
  · rwa [if_pos rooted]
  · rw [if_neg rooted]
    rfl

end Path

/-! ### Paths from outside -/

namespace Text

theorem Sign.scalar_injective : Sign.scalar.Injective := fun _ _ same => Sign.scalar.inj same

theorem WideText.ofString_injective : WideText.ofString.Injective := by
  intro first second same
  have read := congrArg WideText.toString? same
  rw [WideText.toString?_ofString, WideText.toString?_ofString] at read
  exact Option.some.inj read

end Text

namespace WidePath

open Text.WideText (ofString_injective)

theorem ofPath_injective : ofPath.Injective := by
  intro first second same
  obtain ⟨root, parts⟩ := first
  obtain ⟨otherRoot, otherParts⟩ := second
  rw [ofPath, ofPath, WidePath.mk.injEq] at same
  rw [Path.mk.injEq]
  exact ⟨same.1, List.map_injective_iff.mpr ofString_injective same.2⟩

theorem partsOf_ofString (text : String) :
    partsOf (WideText.ofString text) = (Path.partsOf text.toList).map WideText.ofString := by
  have parts := Path.properParts_map Text.Sign.scalar_injective '/' '.' text.toList
  rw [partsOf, WideText.ofString, parts, Path.partsOf, List.map_map]
  refine List.map_congr_left fun part _ => ?_
  rw [Function.comp_apply, WideText.ofString, String.toList_ofList]

/-- The normal form of ordinary text, seen as text from outside, is that of the path it spells. -/
theorem resolve_ofString (text : String) (here : Path) :
    resolve (WideText.ofString text) here =
      ofPath ((Path.ofString text).resolveLexically here) := by
  have start := Path.startOf_map Text.Sign.scalar_injective '/' text.toList
  have taken (parts : List String) :
      Path.takeBack doubleDot (parts.map WideText.ofString) =
        (Path.withoutDoubleDots parts).map WideText.ofString :=
    Path.takeBack_map ofString_injective ".." parts
  rw [Path.resolveLexically, Path.absolute, Path.join, Path.isAbsolute, Path.ofString, Path.rootOf,
    resolve, WideText.ofString, start, ← WideText.ofString, partsOf_ofString]
  cases Path.startOf '/' text.toList with
  | relative =>
      refine congrArg (WidePath.mk here.root) ?_
      rw [ofPath, ← List.map_append, taken]
      rfl
  | single => exact congrArg (WidePath.mk .single) (taken _)
  | double => exact congrArg (WidePath.mk .double) (taken _)

/-- The normal form of a path from outside has no double dots. -/
theorem doubleDot_notMem (signs : WideText) (here : Path) :
    doubleDot ∉ (resolve signs here).parts := by
  unfold resolve
  split <;> exact Path.notMem_takeBack doubleDot _

end WidePath

end GeoBridge
