/-
**Pieces and words of a text, and its ends.**

Cutting at separators is `List.splitOnP`, so what the library knows of that holds here too. Words
are told apart by blank characters only, however many of them stand together.

### Pieces

* `pieces_append_cons`, `pieces_append_of_apart`: pieces on either side of a separator.
* `intercalate_pieces`: joining the pieces between spaces gives the text again.

### Words

* `words_append_cons`, `words_of_shown`: words on either side of a blank character, and a single
  one.
* `flatten_words`: the words hold the characters that are not blank, each in its place.
* `trim_intercalate`, `mem_of_mem_intercalate`: words that are joined by spaces.

### Ends

`trim_of_shown_ends` says that a text whose ends are shown is not trimmed, so no text is trimmed
twice (`trim_trim`).

**The proof is that the recursion is that of the library.** `pieces_eq_splitOnP` is the one
induction on how a text is cut; after it, a separator between two texts and joining the pieces again
are lemmas on lists. Words are the pieces that are not empty, and no character of a text is lost
when the empty ones are. Trimming takes characters away at the front, turns the text round and does
so again. What it leaves begins and ends with a shown character, and that is all it looks at.
-/

import Georeference.Text.Blank
import Mathlib.Data.List.Basic

namespace Georeference.Text

theorem ofList_eq_iff {text : List Char} {string : String} :
    String.ofList text = string ↔ text = string.toList := by
  rw [← String.toList_inj, String.toList_ofList]

/-! ### Pieces -/

/-- Pieces are the stretches that the library cuts a list into. -/
theorem pieces_eq_splitOnP (separates : Char → Bool) (text : List Char) :
    pieces separates text = text.splitOnP separates := by
  induction text with
  | nil => rfl
  | cons c rest ih =>
    rw [pieces, ih, List.splitOnP_cons_eq_if_modifyHead]
    cases shape : rest.splitOnP separates with
    | nil => exact absurd shape (List.splitOnP_ne_nil separates rest)
    | cons first others => rfl

theorem pieces_of_free {separates : Char → Bool} {text : List Char}
    (free : ∀ c ∈ text, separates c = false) : pieces separates text = [text] := by
  rw [pieces_eq_splitOnP]
  exact List.splitOnP_eq_singleton free

/-- A separator cuts the pieces of a text in two. -/
theorem pieces_append_cons {separates : Char → Bool} {mark : Char} (cuts : separates mark = true)
    (before after : List Char) :
    pieces separates (before ++ mark :: after) =
      pieces separates before ++ pieces separates after := by
  simp only [pieces_eq_splitOnP]
  exact List.splitOnP_append_cons before after cuts

/-- The pieces between spaces, joined by single spaces, are the text. -/
theorem intercalate_pieces (text : List Char) :
    [' '].intercalate (pieces (· == ' ') text) = text := by
  rw [pieces_eq_splitOnP, ← List.splitOn_eq_splitOnP]
  exact List.intercalate_splitOn ' '

/-- No piece between spaces has a space. -/
theorem space_notMem_of_mem_pieces {text piece : List Char}
    (member : piece ∈ pieces (· == ' ') text) : ' ' ∉ piece := by
  intro inside
  have free := not_separates_of_mem_pieces (· == ' ') text piece member ' ' inside
  exact absurd free (by decide)

/-- A stretch without spaces up to the next space is the first piece. -/
theorem pieces_append_of_apart {first rest : List Char} (unspaced : ' ' ∉ first)
    (apart : rest = [] ∨ ∃ after, rest = ' ' :: after) :
    ∃ others, pieces (· == ' ') (first ++ rest) = first :: others := by
  have free : ∀ c ∈ first, (c == ' ') = false := by
    intro c member
    exact beq_eq_false_iff_ne.mpr fun same => unspaced (same ▸ member)
  rcases apart with rfl | ⟨after, rfl⟩
  · refine ⟨[], ?_⟩
    rw [List.append_nil]
    exact pieces_of_free free
  · refine ⟨pieces (· == ' ') after, ?_⟩
    rw [pieces_append_cons (by decide), pieces_of_free free]
    rfl

/-! ### Words -/

/-- A blank character cuts the words of a text in two. -/
theorem words_append_cons {mark : Char} (blank : isBlank mark = true)
    (before after : List Char) :
    words (before ++ mark :: after) = words before ++ words after := by
  unfold words
  rw [pieces_append_cons blank, List.filter_append]

theorem words_of_shown {word : List Char} (nonempty : word ≠ [])
    (shown : ∀ c ∈ word, isBlank c = false) : words word = [word] := by
  unfold words
  rw [pieces_of_free shown]
  simpa using nonempty

theorem flatten_filter_nonempty (all : List (List Char)) :
    (all.filter fun piece => !piece.isEmpty).flatten = all.flatten := by
  induction all with
  | nil => rfl
  | cons piece rest ih =>
    cases piece with
    | nil => simpa using ih
    | cons c others => simp [ih]

/-- Nothing but the separators is lost between the pieces. -/
theorem flatten_pieces (separates : Char → Bool) (text : List Char) :
    (pieces separates text).flatten = text.filter fun c => !separates c := by
  induction text with
  | nil => rfl
  | cons c rest ih =>
    rw [pieces]
    by_cases cuts : separates c = true
    · rw [if_pos cuts, List.flatten_cons, ih, List.filter_cons_of_neg (by simp [cuts])]
      rfl
    · rw [if_neg cuts, List.filter_cons_of_pos (by simp [cuts]), ← ih]
      cases shape : pieces separates rest with
      | nil => exact absurd shape (pieces_ne_nil separates rest)
      | cons first others => rfl

/-- **The words hold every character that is not blank**, in order. -/
theorem flatten_words (text : List Char) :
    (words text).flatten = text.filter fun c => !isBlank c := by
  unfold words
  rw [flatten_filter_nonempty, flatten_pieces]

/-- The first character that is shown is that of the first word. -/
theorem find?_shown_eq (text : List Char) :
    text.find? (fun c => !isBlank c) = (words text).flatten.head? := by
  rw [flatten_words, List.head?_filter]

/-! ### The ends of a text -/

/-- A text in which no blank character is found has none. -/
theorem any_isBlank_eq_false_iff {text : List Char} :
    text.any isBlank = false ↔ ∀ c ∈ text, isBlank c = false := by
  rw [List.any_eq_false]
  simp only [Bool.not_eq_true]

theorem trimEnd_isPrefix (text : List Char) : trimEnd text <+: text := by
  have suffix : text.reverse.dropWhile isBlank <:+ text.reverse := List.dropWhile_suffix _
  have turned := List.reverse_prefix.mpr suffix
  rwa [List.reverse_reverse] at turned

theorem shown_of_mem_head?_dropWhile {text : List Char} {c : Char}
    (first : c ∈ (text.dropWhile isBlank).head?) : isBlank c = false := by
  have here := List.head?_dropWhile_not isBlank text
  rw [Option.mem_def.mp first] at here
  exact here

theorem shown_of_mem_head?_trim {text : List Char} {c : Char} (first : c ∈ (trim text).head?) :
    isBlank c = false := by
  obtain ⟨later, shape⟩ := trimEnd_isPrefix (trimStart text)
  have front : c ∈ (trimStart text).head? := by
    rw [← shape, List.head?_append]
    change c ∈ (trimEnd (trimStart text)).head? at first
    rw [Option.mem_def.mp first]
    rfl
  exact shown_of_mem_head?_dropWhile front

theorem shown_of_mem_getLast?_trim {text : List Char} {c : Char}
    (last : c ∈ (trim text).getLast?) : isBlank c = false := by
  rw [trim, trimEnd, List.getLast?_reverse] at last
  exact shown_of_mem_head?_dropWhile last

theorem dropWhile_of_shown_head {text : List Char}
    (shown : ∀ c ∈ text.head?, isBlank c = false) : text.dropWhile isBlank = text := by
  cases text with
  | nil => rfl
  | cons c rest => rw [List.dropWhile_cons_of_neg (by simp [shown c rfl])]

/-- A text whose first and last characters are shown is not trimmed. -/
theorem trim_of_shown_ends {text : List Char} (front : ∀ c ∈ text.head?, isBlank c = false)
    (back : ∀ c ∈ text.getLast?, isBlank c = false) : trim text = text := by
  rw [trim, trimStart, dropWhile_of_shown_head front, trimEnd, dropWhile_of_shown_head,
    List.reverse_reverse]
  rwa [List.head?_reverse]

theorem trim_of_shown {text : List Char} (shown : ∀ c ∈ text, isBlank c = false) :
    trim text = text :=
  trim_of_shown_ends (fun c front => shown c (List.mem_of_mem_head? front))
    (fun c back => shown c (List.mem_of_getLast? back))

theorem trim_trim (text : List Char) : trim (trim text) = trim text :=
  trim_of_shown_ends (fun _ => shown_of_mem_head?_trim) (fun _ => shown_of_mem_getLast?_trim)

theorem mem_of_mem_trim {text : List Char} {c : Char} (member : c ∈ trim text) : c ∈ text :=
  (List.dropWhile_sublist _).mem ((trimEnd_isPrefix _).mem member)

/-! ### Joined words -/

theorem infix_intercalate_of_mem {all : List (List Char)} {word : List Char} (member : word ∈ all) :
    word <:+: [' '].intercalate all := by
  induction all with
  | nil => cases member
  | cons first rest ih =>
    cases rest with
    | nil =>
      rewrite [List.mem_singleton.mp member, List.intercalate_singleton]
      exact List.infix_rfl
    | cons next others =>
      rw [List.intercalate_cons_cons]
      rcases List.mem_cons.mp member with rfl | later
      · rw [List.append_assoc]
        exact List.infix_append_left
      · exact (ih later).trans List.infix_append_right

/-- Joined words have the characters of the words and spaces only. -/
theorem mem_of_mem_intercalate {all : List (List Char)} {c : Char}
    (member : c ∈ [' '].intercalate all) : c = ' ' ∨ ∃ word ∈ all, c ∈ word := by
  induction all with
  | nil => cases member
  | cons first rest ih =>
    cases rest with
    | nil =>
      rw [List.intercalate_singleton] at member
      exact Or.inr ⟨first, List.mem_cons_self, member⟩
    | cons next others =>
      rw [List.intercalate_cons_cons, List.append_assoc] at member
      rcases List.mem_append.mp member with here | later
      · exact Or.inr ⟨first, List.mem_cons_self, here⟩
      · rcases List.mem_cons.mp later with space | behind
        · exact Or.inl space
        · exact (ih behind).imp_right fun ⟨word, inside, found⟩ =>
            ⟨word, List.mem_cons_of_mem first inside, found⟩

theorem mem_of_mem_head?_intercalate {first : List Char} {rest : List (List Char)}
    (nonempty : first ≠ []) {c : Char}
    (front : c ∈ ([' '].intercalate (first :: rest)).head?) : c ∈ first.head? := by
  cases rest with
  | nil => rwa [List.intercalate_singleton] at front
  | cons next others =>
    rwa [List.intercalate_cons_cons, List.append_assoc,
      List.head?_append_of_ne_nil _ nonempty] at front

theorem mem_of_mem_getLast?_intercalate {all : List (List Char)}
    (nonempty : ∀ word ∈ all, word ≠ []) {c : Char}
    (back : c ∈ ([' '].intercalate all).getLast?) : ∃ word ∈ all, c ∈ word := by
  induction all with
  | nil => cases back
  | cons first rest ih =>
    cases rest with
    | nil =>
      rw [List.intercalate_singleton] at back
      exact ⟨first, List.mem_cons_self, List.mem_of_getLast? back⟩
    | cons next others =>
      have left : [' '].intercalate (next :: others) ≠ [] := by
        intro empty
        have inside := infix_intercalate_of_mem (List.mem_cons_self : next ∈ next :: others)
        rw [empty, List.infix_nil] at inside
        exact nonempty next (by simp) inside
      rw [List.intercalate_cons_cons, List.getLast?_append_of_ne_nil _ left] at back
      obtain ⟨word, member, inside⟩ :=
        ih (fun word member => nonempty word (List.mem_cons_of_mem _ member)) back
      exact ⟨word, List.mem_cons_of_mem _ member, inside⟩

/-- **Joined words are not trimmed.** -/
theorem trim_intercalate {all : List (List Char)}
    (shown : ∀ word ∈ all, word ≠ [] ∧ ∀ c ∈ word, isBlank c = false) :
    trim ([' '].intercalate all) = [' '].intercalate all := by
  refine trim_of_shown_ends ?_ ?_
  · intro c front
    cases all with
    | nil => cases front
    | cons first rest =>
      have ⟨nonempty, unblank⟩ := shown first List.mem_cons_self
      exact unblank c (List.mem_of_mem_head? (mem_of_mem_head?_intercalate nonempty front))
  · intro c back
    obtain ⟨word, member, inside⟩ :=
      mem_of_mem_getLast?_intercalate (fun word member => (shown word member).1) back
    exact (shown word member).2 c inside

end Georeference.Text
