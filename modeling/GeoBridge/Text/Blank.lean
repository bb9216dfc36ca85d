/-!
Owns white space and the trimming of it.

Owns:
- the class of blank characters, of every script;
- trimming of both ends and the test for text that holds nothing but blanks.
-/

namespace GeoBridge.Text

/-- The blank characters: the ASCII controls that move the cursor or separate records, the space,
and the spaces and separators of other scripts. -/
def isBlank (character : Char) : Bool :=
  let code := character.toNat
  (9 ≤ code && code ≤ 13) || (28 ≤ code && code ≤ 32) || code == 0x85 || code == 0xA0
    || code == 0x1680 || (0x2000 ≤ code && code ≤ 0x200A) || code == 0x2028 || code == 0x2029
    || code == 0x202F || code == 0x205F || code == 0x3000

/-- The code points of the blank characters. -/
def blankCodes : List Nat :=
  [9, 10, 11, 12, 13, 28, 29, 30, 31, 32, 0x85, 0xA0, 0x1680] ++ List.range' 0x2000 11
    ++ [0x2028, 0x2029, 0x202F, 0x205F, 0x3000]

theorem toNat_mem_blankCodes {character : Char} (blank : isBlank character = true) :
    character.toNat ∈ blankCodes := by
  simp only [isBlank, Bool.or_eq_true, Bool.and_eq_true, decide_eq_true_eq, beq_iff_eq] at blank
  simp only [blankCodes, List.cons_append, List.nil_append, List.mem_cons, List.mem_append,
    List.mem_range'_1, List.not_mem_nil]
  omega

/-- The characters without the longest prefix and the longest suffix that satisfy the test. -/
def trimWhere {α : Type} (drops : α → Bool) (items : List α) : List α :=
  ((items.dropWhile drops).reverse.dropWhile drops).reverse

/-- Text without the blanks at its two ends. -/
def trim (text : String) : String :=
  String.ofList (trimWhere isBlank text.toList)

/-- Whether text is empty or holds blanks only. -/
def isBlankText (text : String) : Bool :=
  text.toList.all isBlank

end GeoBridge.Text
