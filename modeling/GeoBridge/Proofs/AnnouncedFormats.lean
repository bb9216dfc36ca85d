import GeoBridge.Profile
import GeoBridge.Proofs.TrimmedText

/-!
Owns the formats that an output announces, by its lines alone.

Owns:
- the lines of a text as pieces between line ends, and how they follow from those of its parts;
- the forms of line that announce a code, which exclude each other;
- the codes that are announced: those of the lines, whatever their order and their ends.
-/

namespace GeoBridge

namespace Text

/-! ### Lines -/

/-- The characters that end lines: feeds, the carriage return, the separators of files, groups and
records, the next line, and the separators of lines and paragraphs. -/
def lineEnds : List Char :=
  ['\n', '\r', '\x0b', '\x0c', '\x1c', '\x1d', '\x1e', '\u0085', '\u2028', '\u2029']

theorem isLineEnd_iff {character : Char} : isLineEnd character = true ↔ character ∈ lineEnds := by
  constructor
  · intro ends
    have numbered : character.toNat ∈ lineEnds.map Char.toNat := by
      simp only [isLineEnd, Bool.or_eq_true, Bool.and_eq_true, decide_eq_true_eq, beq_iff_eq]
        at ends
      simp only [lineEnds, List.map_cons, List.map_nil, List.mem_cons, List.not_mem_nil,
        Char.reduceToNat]
      omega
    obtain ⟨mark, member, same⟩ := List.mem_map.mp numbered
    rwa [← Char.toNat_inj.mp same]
  · have all : lineEnds.all isLineEnd = true := by decide
    exact List.all_eq_true.mp all character

/-- A line of a text is a piece without line ends that reaches from a line end or the beginning of
the text to a line end or the end of the text. Between a carriage return and a line feed there is
nothing but an empty piece, as there is behind the last line end. -/
def IsLineOf (line text : List Char) : Prop :=
  ∃ before after, text = before ++ line ++ after ∧ (∀ character ∈ line, character ∉ lineEnds) ∧
    (∀ last, before.getLast? = some last → last ∈ lineEnds) ∧
    ∀ next, after.head? = some next → next ∈ lineEnds

variable {line text first second ends : List Char} {mark : Char}

theorem isLineOf_iff_eq (whole : ∀ character ∈ text, character ∉ lineEnds) :
    IsLineOf line text ↔ line = text := by
  constructor
  · rintro ⟨before, after, rfl, -, opens, closes⟩
    have noBefore : before = [] := by
      by_contra proper
      have last := List.getLast?_eq_some_getLast proper
      exact whole _ (by simp) (opens _ last)
    have noAfter : after = [] := by
      by_contra proper
      have next := List.head?_eq_some_head proper
      exact whole _ (by simp) (closes _ next)
    rw [noBefore, noAfter, List.nil_append, List.append_nil]
  · rintro rfl
    exact ⟨[], [], by simp, whole, by simp, by simp⟩

theorem eq_nil_of_isLineOf_nil (isLine : IsLineOf line []) : line = [] :=
  (isLineOf_iff_eq fun _ member => absurd member List.not_mem_nil).mp isLine

/-- A piece without a mark stands before the mark or behind it. -/
theorem piece_beside {before after : List Char} (absent : mark ∉ line)
    (divided : before ++ line ++ after = first ++ mark :: second) :
    (∃ kept, first = before ++ line ++ kept ∧ after = kept ++ mark :: second) ∨
      ∃ kept, before = first ++ mark :: kept ∧ second = kept ++ line ++ after := by
  rcases List.append_eq_append_iff.mp divided with front | ⟨cut, across, behind⟩
  · exact .inl front
  · rcases List.cons_eq_append_iff.mp behind with ⟨rfl, rfl⟩ | ⟨cut, rfl, rfl⟩
    · exact .inl ⟨[], by simpa using across.symm, rfl⟩
    · rcases List.append_eq_append_iff.mp across with ⟨kept, -, torn⟩ | ⟨kept, rfl, torn⟩
      · exact absurd (torn ▸ by simp) absent
      · rcases List.cons_eq_append_iff.mp torn with ⟨-, torn⟩ | ⟨kept, rfl, rfl⟩
        · exact absurd (torn ▸ by simp) absent
        · exact .inr ⟨kept, rfl, rfl⟩

/-- A line end cuts a text in two, and no line reaches across it. -/
theorem isLineOf_append_cons (ends : mark ∈ lineEnds) :
    IsLineOf line (first ++ mark :: second) ↔ IsLineOf line first ∨ IsLineOf line second := by
  constructor
  · rintro ⟨before, after, divided, plain, opens, closes⟩
    rcases piece_beside (fun member => plain mark member ends) divided.symm with
      ⟨kept, rfl, rfl⟩ | ⟨kept, rfl, rfl⟩
    · refine .inl ⟨before, kept, rfl, plain, opens, fun next heads => closes next ?_⟩
      rw [List.head?_append, heads, Option.some_or]
    · refine .inr ⟨kept, after, rfl, plain, fun last trails => opens last ?_, closes⟩
      rw [List.getLast?_append, List.getLast?_cons, trails]
      rfl
  · rintro (⟨before, after, rfl, plain, opens, closes⟩ | ⟨before, after, rfl, plain, opens, closes⟩)
    · refine ⟨before, after ++ mark :: second, by simp, plain, opens, fun next heads => ?_⟩
      cases after with
      | nil => exact Option.some.inj heads ▸ ends
      | cons item after => exact closes next heads
    · refine ⟨first ++ mark :: before, after, by simp, plain, fun last trails => ?_, closes⟩
      rw [List.getLast?_append, List.getLast?_cons] at trails
      cases behind : before.getLast? with
      | none =>
          rw [behind] at trails
          exact Option.some.inj trails ▸ ends
      | some other =>
          rw [behind] at trails
          exact opens last (behind.trans trails)

theorem isLineOf_cons (proper : line ≠ []) (ends : mark ∈ lineEnds) :
    IsLineOf line (mark :: text) ↔ IsLineOf line text := by
  rw [← List.nil_append (mark :: text), isLineOf_append_cons ends]
  exact or_iff_right fun isLine => proper (eq_nil_of_isLineOf_nil isLine)

theorem isLineOf_behind (proper : line ≠ []) (areEnds : ∀ mark ∈ ends, mark ∈ lineEnds) :
    IsLineOf line (ends ++ text) ↔ IsLineOf line text := by
  induction ends with
  | nil => rfl
  | cons mark rest inductionHypothesis =>
      rw [List.forall_mem_cons] at areEnds
      rw [List.cons_append, isLineOf_cons proper areEnds.1]
      exact inductionHypothesis areEnds.2

/-- The proper lines of two texts with line ends between them are those of both. -/
theorem isLineOf_between (proper : line ≠ []) (separates : ends ≠ [])
    (areEnds : ∀ mark ∈ ends, mark ∈ lineEnds) :
    IsLineOf line (first ++ ends ++ second) ↔ IsLineOf line first ∨ IsLineOf line second := by
  obtain ⟨mark, rest, rfl⟩ := List.exists_cons_of_ne_nil separates
  rw [List.forall_mem_cons] at areEnds
  rw [List.append_assoc, List.cons_append, isLineOf_append_cons areEnds.1,
    isLineOf_behind proper areEnds.2]

/-- Splitting gives the proper lines of a text. -/
theorem mem_splitLines_iff (proper : line ≠ []) {pending : List Char}
    (plain : ∀ character ∈ pending, character ∉ lineEnds) :
    line ∈ splitLines pending text ↔ IsLineOf line (pending.reverse ++ text) := by
  have vacant : ¬ IsLineOf line [] := fun isLine => proper (eq_nil_of_isLineOf_nil isLine)
  have alone {pending : List Char} (plain : ∀ character ∈ pending, character ∉ lineEnds) :
      IsLineOf line pending.reverse ↔ line = pending.reverse :=
    isLineOf_iff_eq fun character member => plain character (List.mem_reverse.mp member)
  fun_induction splitLines pending text with
  | case1 => simpa using vacant
  | case2 pending _ => rw [List.mem_singleton, List.append_nil, alone plain]
  | case3 pending rest inductionHypothesis =>
      have behind : line ∈ splitLines [] rest ↔ IsLineOf line rest := inductionHypothesis (by simp)
      rw [List.mem_cons, behind, isLineOf_append_cons (by decide), alone plain,
        isLineOf_cons proper (by decide)]
  | case4 pending character rest _ ends inductionHypothesis =>
      have behind : line ∈ splitLines [] rest ↔ IsLineOf line rest := inductionHypothesis (by simp)
      rw [List.mem_cons, behind, isLineOf_append_cons (isLineEnd_iff.mp ends), alone plain]
  | case5 pending character rest _ inner inductionHypothesis =>
      have further : ∀ other ∈ character :: pending, other ∉ lineEnds := by
        intro other member
        rcases List.mem_cons.mp member with rfl | member
        · exact fun ends => inner (isLineEnd_iff.mpr ends)
        · exact plain other member
      rw [List.append_cons, ← List.reverse_cons]
      exact inductionHypothesis further

theorem mem_lines_iff (proper : line ≠ []) {text : String} :
    line ∈ lines text ↔ IsLineOf line text.toList :=
  mem_splitLines_iff proper (by simp)

/-! ### Words -/

namespace WordClass

variable {words : WordClass} {character : Char}

/-- A colon ends a word. -/
theorem isWord_colon (words : WordClass) : words.isWord ':' = false := words.ascii ':' (by decide)

/-- No word begins with an arrow. -/
theorem isWord_dash (words : WordClass) : words.isWord '-' = false := words.ascii '-' (by decide)

/-- No character is blank and part of a word. -/
theorem isBlank_of_isWord (word : words.isWord character = true) : isBlank character = false := by
  rw [Bool.eq_false_iff]
  intro blank
  rw [words.blank character blank] at word
  cases word

end WordClass

end Text

/-! ### Forms of line -/

namespace LinePattern

/-- How a line announces a code: exactly two blanks and then the code, which is a word, a colon and
a blank; or an arrow and then the code in quotes, with any blanks before each of them. -/
def Announces (words : Text.WordClass) : LinePattern → (line code : List Char) → Prop
  | .listed, line, code => ∃ indent next rest, line = indent ++ code ++ ':' :: next :: rest ∧
      line.takeWhile Text.isBlank = indent ∧ indent.length = 2 ∧ code ≠ [] ∧
      (∀ character ∈ code, words.isWord character = true) ∧ Text.isBlank next = true
  | .arrow, line, code => ∃ before between rest,
      line = before ++ '-' :: '>' :: (between ++ '"' :: (code ++ '"' :: rest)) ∧
      (∀ character ∈ before, Text.isBlank character = true) ∧
      (∀ character ∈ between, Text.isBlank character = true) ∧ code ≠ [] ∧ '"' ∉ code

variable {words : Text.WordClass} {line code other : List Char}
  {pattern otherPattern : LinePattern}

/-- Blanks before a word are told from it. -/
theorem dropWhile_isBlank_of_word {indent rest : List Char}
    (blanks : ∀ character ∈ indent, Text.isBlank character = true) (proper : code ≠ [])
    (allWord : ∀ character ∈ code, words.isWord character = true) :
    (indent ++ code ++ rest).takeWhile Text.isBlank = indent ∧
      (indent ++ code ++ rest).dropWhile Text.isBlank = code ++ rest := by
  obtain ⟨first, code, rfl⟩ := List.exists_cons_of_ne_nil proper
  have begins := Text.WordClass.isBlank_of_isWord (allWord first List.mem_cons_self)
  rw [List.append_assoc, List.cons_append]
  exact ⟨takeWhile_cut blanks begins, dropWhile_cut blanks begins⟩

theorem announces_of_matchListed : matchListed words line = some code → listed.Announces words line code := by
  fun_cases matchListed words line with
  | case1 first second rest blanks word next tail behind closes =>
      intro found
      obtain rfl := Option.some.inj found
      rw [Bool.and_eq_true] at blanks closes
      have proper : word ≠ [] := by simpa using closes.2
      have allWord : ∀ character ∈ word, words.isWord character = true :=
        fun _ member => List.mem_takeWhile_imp member
      have whole : rest = word ++ ':' :: next :: tail := by
        rw [← behind, List.takeWhile_append_dropWhile]
      have indented : ([first, second] ++ word ++ ':' :: next :: tail).takeWhile Text.isBlank =
          [first, second] :=
        (dropWhile_isBlank_of_word (by simpa using blanks) proper allWord).1
      rw [whole]
      exact ⟨[first, second], next, tail, rfl, indented, rfl, proper, allWord, closes.1⟩
  | _ => nofun

theorem matchListed_of_announces (announces : listed.Announces words line code) :
    matchListed words line = some code := by
  obtain ⟨indent, next, rest, rfl, indented, two, proper, allWord, blank⟩ := announces
  have blanks : ∀ character ∈ indent, Text.isBlank character = true :=
    fun _ member => List.mem_takeWhile_imp (indented ▸ member)
  obtain ⟨first, second, rfl⟩ := List.length_eq_two.mp two
  have opens : (Text.isBlank first && Text.isBlank second) = true := by simpa using blanks
  simp only [List.cons_append, List.nil_append, matchListed, opens, if_true,
    takeWhile_cut allWord words.isWord_colon,
    dropWhile_cut allWord words.isWord_colon]
  simp [blank, proper]

theorem announces_of_matchArrow : matchArrow line = some code → arrow.Announces words line code := by
  fun_cases matchArrow line with
  | case1 rest pointed quoted behind word closes =>
      intro found
      obtain rfl := Option.some.inj found
      rw [Bool.and_eq_true] at closes
      obtain ⟨mark, tail, inner, stops⟩ := exists_cut (of_decide_eq_true closes.1)
      obtain rfl : mark = '"' := by simpa using stops
      have unquoted : '"' ∉ word := fun member => by
        simpa using List.mem_takeWhile_imp member
      refine ⟨line.takeWhile Text.isBlank, rest.takeWhile Text.isBlank, tail, ?_,
        fun _ => List.mem_takeWhile_imp, fun _ => List.mem_takeWhile_imp, by simpa using closes.2,
        unquoted⟩
      rw [← inner, ← behind, List.takeWhile_append_dropWhile, ← pointed,
        List.takeWhile_append_dropWhile]
  | _ => nofun

theorem matchArrow_of_announces (announces : arrow.Announces words line code) :
    matchArrow line = some code := by
  obtain ⟨before, between, rest, rfl, blanksBefore, blanksBetween, proper, unquoted⟩ := announces
  have plain : ∀ character ∈ code, (character != '"') = true := by
    intro character member
    exact bne_iff_ne.mpr fun quote => unquoted (quote ▸ member)
  simp only [matchArrow, dropWhile_cut blanksBefore (by decide : Text.isBlank '-' = false),
    dropWhile_cut blanksBetween (by decide : Text.isBlank '"' = false),
    takeWhile_cut plain (by decide : ('"' != '"') = false)]
  simp [proper]

/-- A line is taken for an announcement exactly if it is one. -/
theorem codeIn?_eq_some_iff : pattern.codeIn? words line = some code ↔ pattern.Announces words line code := by
  cases pattern with
  | listed => exact ⟨announces_of_matchListed, matchListed_of_announces⟩
  | arrow => exact ⟨announces_of_matchArrow, matchArrow_of_announces⟩

/-- Behind its blanks, a line begins with a word or with an arrow. -/
theorem not_announces_both (word : listed.Announces words line code) : ¬ arrow.Announces words line other := by
  rintro ⟨before, between, rest, pointed, blanks, -⟩
  obtain ⟨indent, next, tail, rfl, indented, -, proper, allWord, -⟩ := word
  have blanksBefore : ∀ character ∈ indent, Text.isBlank character = true :=
    fun _ member => List.mem_takeWhile_imp (indented ▸ member)
  have behind : (indent ++ code ++ ':' :: next :: tail).dropWhile Text.isBlank =
      code ++ ':' :: next :: tail := (dropWhile_isBlank_of_word blanksBefore proper allWord).2
  rw [pointed, dropWhile_cut blanks (by decide)] at behind
  obtain ⟨first, code, rfl⟩ := List.exists_cons_of_ne_nil proper
  rw [List.cons_append, List.cons.injEq] at behind
  have begins := allWord first List.mem_cons_self
  rw [← behind.1, words.isWord_dash] at begins
  cases begins

/-- A line announces one code at most, and in one form. -/
theorem announces_unique (announces : pattern.Announces words line code)
    (again : otherPattern.Announces words line other) : pattern = otherPattern ∧ code = other := by
  have same : pattern = otherPattern := by
    cases pattern <;> cases otherPattern
    · rfl
    · exact absurd again (not_announces_both announces)
    · exact absurd announces (not_announces_both again)
    · rfl
  subst same
  have found := codeIn?_eq_some_iff.mpr announces
  rw [codeIn?_eq_some_iff.mpr again] at found
  exact ⟨rfl, (Option.some.inj found).symm⟩

theorem ne_nil_of_announces (announces : pattern.Announces words line code) : line ≠ [] := by
  rintro rfl
  have found := codeIn?_eq_some_iff.mpr announces
  cases pattern <;> cases found

end LinePattern

/-! ### Announced formats -/

namespace Profile

variable {words : Text.WordClass} {profile : Profile} {line : List Char} {code : String}

theorem codeIn?_eq_some_iff : profile.codeIn? line words = some code ↔
    ∃ pattern ∈ profile.patterns, pattern.Announces words line code.toList := by
  rw [codeIn?, Option.map_eq_some_iff]
  constructor
  · rintro ⟨characters, found, rfl⟩
    obtain ⟨pattern, member, here⟩ := List.exists_of_findSome?_eq_some found
    rw [String.toList_ofList]
    exact ⟨pattern, member, LinePattern.codeIn?_eq_some_iff.mp here⟩
  · rintro ⟨pattern, member, announces⟩
    refine ⟨code.toList, ?_, String.ofList_toList⟩
    -- Another pattern of the profile may come first, but no line has two.
    have answers : (profile.patterns.findSome? (·.codeIn? words line)).isSome := by
      rw [List.findSome?_isSome_iff]
      exact ⟨pattern, member, by rw [LinePattern.codeIn?_eq_some_iff.mpr announces]; rfl⟩
    obtain ⟨characters, found⟩ := Option.isSome_iff_exists.mp answers
    obtain ⟨other, -, here⟩ := List.exists_of_findSome?_eq_some found
    have same := LinePattern.announces_unique announces (LinePattern.codeIn?_eq_some_iff.mp here)
    rw [found, same.2]

/-- The codes that an output announces are those that its lines announce in a form of the profile,
whatever the order of the forms and of the lines. -/
theorem mem_announced_iff {output : String} : code ∈ profile.announced output words ↔
    ∃ line, Text.IsLineOf line output.toList ∧
      ∃ pattern ∈ profile.patterns, pattern.Announces words line code.toList := by
  rw [announced, List.mem_eraseDups, List.mem_filterMap]
  refine exists_congr fun line => ?_
  rw [codeIn?_eq_some_iff]
  refine and_congr_left fun ⟨pattern, _, announces⟩ => ?_
  exact Text.mem_lines_iff (LinePattern.ne_nil_of_announces announces)

/-- A blank has to stand behind the colon on the same line. -/
example : gdalTranslate.announced "  GTiff:\n  PNG:\x1f\r\n  JPEG: \n" = ["PNG", "JPEG"] := by
  decide +kernel

/-- Outputs with line ends between them announce what each of them announces. -/
theorem mem_announced_between {first ends second : String} (separates : ends ≠ "")
    (areEnds : ∀ mark ∈ ends.toList, mark ∈ Text.lineEnds) :
    code ∈ profile.announced (first ++ ends ++ second) words ↔
      code ∈ profile.announced first words ∨ code ∈ profile.announced second words := by
  rw [mem_announced_iff, mem_announced_iff, mem_announced_iff, ← exists_or]
  refine exists_congr fun line => ?_
  rw [← or_and_right]
  refine and_congr_left fun ⟨pattern, _, announces⟩ => ?_
  rw [String.toList_append, String.toList_append]
  exact Text.isLineOf_between (LinePattern.ne_nil_of_announces announces) (by simpa using separates)
    areEnds

/-- What is announced follows from the lines alone, whatever the scripts that words are written in.
The raster tool announces a code by a word behind two blanks, the vector tool also by quotes behind
an arrow. No line has both forms, so that their order does not matter, and any line ends between
two outputs give what both announce. -/
theorem announced_by_lines (words : Text.WordClass) :
    (∀ output code, code ∈ gdalTranslate.announced output words ↔
      ∃ line, Text.IsLineOf line output.toList ∧
        LinePattern.listed.Announces words line code.toList) ∧
    (∀ output code, code ∈ ogr2ogr.announced output words ↔
      ∃ line, Text.IsLineOf line output.toList ∧
        (LinePattern.listed.Announces words line code.toList ∨
          LinePattern.arrow.Announces words line code.toList)) ∧
    (∀ line code other, LinePattern.listed.Announces words line code →
      ¬ LinePattern.arrow.Announces words line other) ∧
    (∀ profile other : Profile, profile.patterns.Perm other.patterns →
      ∀ output code, code ∈ profile.announced output words ↔
        code ∈ other.announced output words) ∧
    ∀ (profile : Profile) (first ends second code : String), ends ≠ "" →
      (∀ mark ∈ ends.toList, mark ∈ Text.lineEnds) →
      (code ∈ profile.announced (first ++ ends ++ second) words ↔
        code ∈ profile.announced first words ∨ code ∈ profile.announced second words) := by
  refine ⟨fun output code => ?_, fun output code => ?_,
    fun _ _ _ => LinePattern.not_announces_both, fun profile other reordered output code => ?_,
    fun _ _ _ _ _ => mem_announced_between⟩
  · simp [mem_announced_iff, gdalTranslate]
  · simp [mem_announced_iff, ogr2ogr, or_comm]
  · simp only [mem_announced_iff, reordered.mem_iff]

end Profile

end GeoBridge
