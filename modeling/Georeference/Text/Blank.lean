/-
**White space, trimming and words.**

Blank characters are those with the Unicode property `White_Space`. Texts are lists of characters
here, so that every function is a recursion on its argument.

* `isBlank`: the property, as a table of ranges.
* `trimStart`, `trimEnd`, `trim`: a text without the blank characters at its ends.
* `pieces`: the stretches of a text between its separators, empty ones included.
* `words`: the maximal runs of characters that are not blank.
-/

namespace Georeference.Text

/-- The Unicode property `White_Space`. -/
def isBlank (c : Char) : Bool :=
  let code := c.toNat
  (0x9 ≤ code && code ≤ 0xD) || code == 0x20 || code == 0x85 || code == 0xA0 || code == 0x1680 ||
    (0x2000 ≤ code && code ≤ 0x200A) || code == 0x2028 || code == 0x2029 || code == 0x202F ||
    code == 0x205F || code == 0x3000

/-- A text that shows nothing. -/
def allBlank (text : List Char) : Bool :=
  text.all isBlank

/-- The text from its first character that is not blank. -/
def trimStart (text : List Char) : List Char :=
  text.dropWhile isBlank

/-- The text up to its last character that is not blank. -/
def trimEnd (text : List Char) : List Char :=
  (text.reverse.dropWhile isBlank).reverse

/-- The text without the blank characters at either end. -/
def trim (text : List Char) : List Char :=
  trimEnd (trimStart text)

/-- The stretches between separators: one more of them than there are separators. -/
def pieces (separates : Char → Bool) : List Char → List (List Char)
  | [] => [[]]
  | c :: rest =>
    if separates c then [] :: pieces separates rest
    else match pieces separates rest with
      | [] => [[c]]
      | first :: others => (c :: first) :: others

/-- The maximal runs of characters that are not blank, in order. -/
def words (text : List Char) : List (List Char) :=
  (pieces isBlank text).filter fun piece => !piece.isEmpty

/-! ### First facts -/

theorem pieces_ne_nil (separates : Char → Bool) (text : List Char) :
    pieces separates text ≠ [] := by
  cases text with
  | nil => simp [pieces]
  | cons c rest =>
    unfold pieces
    split
    · simp
    · split <;> simp

theorem not_separates_of_mem_pieces (separates : Char → Bool) (text : List Char) :
    ∀ piece ∈ pieces separates text, ∀ c ∈ piece, separates c = false := by
  induction text with
  | nil => simp [pieces]
  | cons c rest ih =>
    unfold pieces
    split
    · simpa using ih
    · rename_i other
      split
      · simpa using other
      · rename_i first others shape
        rw [shape] at ih
        simp only [List.mem_cons, forall_eq_or_imp] at ih ⊢
        exact ⟨⟨by simpa using other, ih.1⟩, ih.2⟩

theorem ne_nil_of_mem_words {text word : List Char} (member : word ∈ words text) : word ≠ [] := by
  have := (List.mem_filter.mp member).2
  simpa using this

theorem not_blank_of_mem_words {text word : List Char} (member : word ∈ words text) :
    ∀ c ∈ word, isBlank c = false :=
  not_separates_of_mem_pieces isBlank text word (List.mem_filter.mp member).1

end Georeference.Text
