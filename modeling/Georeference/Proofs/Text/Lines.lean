/-
**Lines of a text, and texts of a single line.**

How a text falls into lines is said by the relation `Lines`, apart from the function that finds
them. A line goes up to a line feed with or without a carriage return before it. The last one goes
up to the end of the text if there is something left.

### Lines

* `exists_lines`, `lines_iff`: every text falls into lines, and they are found as they are.
* `Lines.feeds`: lines that are each ended by a line feed are the lines of what is written.
* `notMem_of_mem_lines`: no line has a line feed.

### Texts of a single line

* `SingleLine`: no line feed in a text.
* `SingleLine.append`, `SingleLine.intercalate`: what is put together from texts of a single line is
  of a single line.
* `SingleLine.of_shown`: a line feed is blank, so what is made of shown characters is of a single
  line.

**The proof is by induction on the length of the text.** The first line feed ends the first line,
and what stands behind it is a shorter text that falls into lines already. Whether the line keeps
its last character depends on that being a carriage return. A text without a line feed is its own
last line, or has none if it is empty. That these lines are found is an induction on the relation,
since a line feed cuts the pieces of a text in two (`lines_append_feed`).
-/

import Georeference.Proofs.Decimal.Integer
import Georeference.Proofs.Text.Words
import Georeference.Text.Lines

namespace Georeference.Text

/-! ### Lines -/

/-- **The lines of a text**, from the first to the last. -/
inductive Lines : List Char → List (List Char) → Prop
  | nil : Lines [] []
  | last {line : List Char} (nonempty : line ≠ []) (unbroken : '\n' ∉ line) : Lines line [line]
  | feed {line rest : List Char} {all : List (List Char)} (unbroken : '\n' ∉ line)
      (bare : line.getLast? ≠ some '\r') (lines : Lines rest all) :
      Lines (line ++ '\n' :: rest) (line :: all)
  | returnFeed {line rest : List Char} {all : List (List Char)} (unbroken : '\n' ∉ line)
      (lines : Lines rest all) : Lines (line ++ '\r' :: '\n' :: rest) (line :: all)

variable {text line : List Char} {all : List (List Char)}

theorem pieces_of_unbroken (unbroken : '\n' ∉ line) : pieces (· == '\n') line = [line] := by
  refine pieces_of_free fun c member => ?_
  rw [beq_eq_false_iff_ne]
  rintro rfl
  exact unbroken member

/-- **A line is the only line of itself.** -/
theorem lines_of_unbroken (nonempty : line ≠ []) (unbroken : '\n' ∉ line) :
    lines line = [line] := by
  rw [lines, pieces_of_unbroken unbroken]
  simp [nonempty]

/-- A line feed ends a line. -/
theorem lines_append_feed (unbroken : '\n' ∉ line) (rest : List Char) :
    lines (line ++ '\n' :: rest) = dropReturn line :: lines rest := by
  obtain ⟨first, others, shape⟩ := List.exists_cons_of_ne_nil (pieces_ne_nil (· == '\n') rest)
  unfold lines
  rw [pieces_append_cons (by decide), pieces_of_unbroken unbroken, shape]
  rfl

theorem dropReturn_append_return (line : List Char) : dropReturn (line ++ ['\r']) = line := by
  rw [dropReturn, if_pos List.getLast?_concat, List.dropLast_concat]

theorem Lines.lines_eq (falls : Lines text all) : lines text = all := by
  induction falls with
  | nil => rfl
  | last nonempty unbroken => exact lines_of_unbroken nonempty unbroken
  | feed unbroken bare _ ih => rw [lines_append_feed unbroken, ih, dropReturn, if_neg bare]
  | @returnFeed line rest all unbroken _ ih =>
    have longer : '\n' ∉ line ++ ['\r'] := List.not_mem_append unbroken (by decide)
    rw [List.append_cons line, lines_append_feed longer, ih, dropReturn_append_return]

/-- Lines that are each ended by a line feed are found again. -/
theorem Lines.feeds {all : List (List Char)} (each : ∀ line ∈ all, '\n' ∉ line ∧ '\r' ∉ line) :
    Lines (all.flatMap (· ++ ['\n'])) all := by
  induction all with
  | nil => exact .nil
  | cons line rest ih =>
    obtain ⟨⟨unbroken, bare⟩, others⟩ := List.forall_mem_cons.mp each
    rw [List.flatMap_cons, List.append_assoc]
    exact .feed unbroken (fun last => bare (List.mem_of_getLast? last)) (ih others)

/-- **Every text falls into lines.** -/
theorem exists_lines (text : List Char) : ∃ all, Lines text all := by
  induction length : text.length using Nat.strongRecOn generalizing text with
  | ind size ih =>
    by_cases broken : '\n' ∈ text
    · obtain ⟨line, rest, rfl, unbroken⟩ := List.eq_append_cons_of_mem broken
      have shorter : rest.length < size := by
        rw [← length, List.length_append, List.length_cons]
        omega
      obtain ⟨all, falls⟩ := ih rest.length shorter rest rfl
      by_cases returned : line.getLast? = some '\r'
      · obtain ⟨front, rfl⟩ := List.getLast?_eq_some_iff.mp returned
        rw [List.append_assoc]
        have unbroken : '\n' ∉ front := mt (List.mem_append_left _) unbroken
        exact ⟨front :: all, .returnFeed unbroken falls⟩
      · exact ⟨line :: all, .feed unbroken returned falls⟩
    · by_cases empty : text = []
      · exact ⟨[], empty ▸ .nil⟩
      · exact ⟨[text], .last empty broken⟩

/-- **The lines of a text are found as they are.** -/
theorem lines_iff : Lines text all ↔ lines text = all := by
  constructor
  · exact Lines.lines_eq
  · intro found
    obtain ⟨falls, held⟩ := exists_lines text
    rwa [← held.lines_eq, found] at held

theorem notMem_of_mem_lines (member : line ∈ lines text) : '\n' ∉ line := by
  obtain ⟨all, falls⟩ := exists_lines text
  rw [falls.lines_eq] at member
  induction falls with
  | nil => cases member
  | last _ unbroken =>
    rw [List.mem_singleton.mp member]
    exact unbroken
  | feed unbroken _ _ ih =>
    rcases List.mem_cons.mp member with rfl | later
    · exact unbroken
    · exact ih later
  | returnFeed unbroken _ ih =>
    rcases List.mem_cons.mp member with rfl | later
    · exact unbroken
    · exact ih later

/-! ### Texts of a single line -/

/-- A text without a line feed. -/
def SingleLine (text : String) : Prop :=
  '\n' ∉ text.toList

instance (text : String) : Decidable (SingleLine text) :=
  inferInstanceAs (Decidable ('\n' ∉ text.toList))

namespace SingleLine

variable {first second separator text : String} {chars : List Char}

theorem ofList (unbroken : '\n' ∉ chars) : SingleLine (String.ofList chars) := by
  rwa [SingleLine, String.toList_ofList]

theorem append (single : SingleLine first) (single' : SingleLine second) :
    SingleLine (first ++ second) := by
  rw [SingleLine, String.toList_append, List.mem_append, not_or]
  exact ⟨single, single'⟩

/-- **Texts of a single line joined by one** are of a single line. -/
theorem intercalate (single : SingleLine separator) {all : List String}
    (each : ∀ text ∈ all, SingleLine text) : SingleLine (separator.intercalate all) := by
  induction all with
  | nil =>
    rw [String.intercalate_nil]
    decide
  | cons first rest ih =>
    have front : SingleLine first := each first List.mem_cons_self
    have back := ih fun text member => each text (List.mem_cons_of_mem _ member)
    cases rest with
    | nil => rwa [String.intercalate_singleton]
    | cons next others =>
      rw [String.intercalate_cons_cons]
      exact (front.append single).append back

/-- A line feed is blank. -/
theorem of_shown (shown : ∀ c ∈ text.toList, isBlank c = false) : SingleLine text :=
  fun inside => absurd (shown '\n' inside) (by decide)

theorem toString_int (value : Int) : SingleLine (toString value) :=
  of_shown (Decimal.Denotes.toString value).shown

theorem toString_nat (value : Nat) : SingleLine (toString value) :=
  Decimal.toString_natCast value ▸ toString_int value

end SingleLine

end Georeference.Text
