/-
**What looking inside a text finds.**

A mark is looked for from the front of a text, and the text is cut in two where the mark stands
first. Both are described here without the search.

### Marks

* `contains_iff_infix`: a mark occurs in a text when the text has it in one piece.
* `FirstAt`: the first place of a mark, before which less stands than before any other.
* `cut?_eq_some_iff`, `cut?_eq_none_iff`: a text is cut at the first place, and not at all when the
  mark does not occur.

### Single characters

* `cut?_single_eq_some_iff`, `cut?_single_eq_none_iff`: a mark of one character cuts where what
  stands before does not have it.
* `toLower_of_outside`: only the capital letters of ASCII have another case.

**The proof is by induction on the text.** The search takes one character off the front unless the
mark stands there. If the mark stands there, nothing can stand before another place of it that is
less than nothing. If not, no place of it begins at the front, so another place has that character
before it as well, and what is left is the same question for the rest (`length_le_of_cut?`). There
is one first place only, because two of them have equally much before them (`FirstAt.unique`).
-/

import Georeference.Text.Search
import Mathlib.Data.List.Infix

namespace Georeference.Text

/-- **A mark occurs in a text** when the text has it in one piece. -/
theorem contains_iff_infix (mark text : List Char) :
    contains mark text = true ↔ mark <:+: text := by
  unfold contains
  induction text with
  | nil =>
    unfold cut?
    by_cases empty : mark = []
    · simp [empty]
    · simp [empty]
  | cons c rest ih =>
    rw [List.infix_cons_iff, ← ih, ← List.isPrefixOf_iff_prefix, cut?]
    by_cases here : mark.isPrefixOf (c :: rest) = true
    · rw [if_pos here]
      simp [here]
    · rw [if_neg here, Option.isSome_map]
      simp [here]

/-- A text is not cut when the mark does not occur in it. -/
theorem cut?_eq_none_iff {mark text : List Char} : cut? mark text = none ↔ ¬ mark <:+: text := by
  rw [← contains_iff_infix, contains, Option.isSome_iff_ne_none, not_not]

/-- **The first place of a mark in a text**: nowhere does less stand before the mark. -/
structure FirstAt (mark text before after : List Char) : Prop where
  shape : text = before ++ mark ++ after
  least : ∀ other later, text = other ++ mark ++ later → before.length ≤ other.length

theorem length_le_of_cut? {mark text before after other later : List Char}
    (found : cut? mark text = some (before, after)) (shape : text = other ++ mark ++ later) :
    before.length ≤ other.length := by
  induction text generalizing before after other with
  | nil =>
    rw [cut?, Option.ite_none_right_eq_some] at found
    rw [← (Prod.mk.inj (Option.some.inj found.2)).1]
    exact Nat.zero_le _
  | cons c rest ih =>
    rw [cut?] at found
    by_cases here : mark.isPrefixOf (c :: rest) = true
    · rw [if_pos here, Option.some.injEq] at found
      rw [← (Prod.mk.inj found).1]
      exact Nat.zero_le _
    · rw [if_neg here, Option.map_eq_some_iff] at found
      obtain ⟨⟨first, second⟩, cut, same⟩ := found
      obtain ⟨rfl, -⟩ := Prod.mk.inj same
      cases other with
      | nil =>
        refine absurd (List.isPrefixOf_iff_prefix.mpr ⟨later, ?_⟩) here
        rw [shape, List.nil_append]
      | cons d front => exact Nat.succ_le_succ (ih cut (List.cons.inj shape).2)

theorem FirstAt.unique {mark text before after other later : List Char}
    (first : FirstAt mark text before after) (again : FirstAt mark text other later) :
    before = other ∧ after = later := by
  have lengths : before.length = other.length :=
    Nat.le_antisymm (first.least _ _ again.shape) (again.least _ _ first.shape)
  have same := first.shape.symm.trans again.shape
  rw [List.append_assoc, List.append_assoc] at same
  obtain ⟨front, back⟩ := List.append_inj same lengths
  exact ⟨front, List.append_cancel_left back⟩

/-- **A text is cut where the mark stands first**, and nowhere else. -/
theorem cut?_eq_some_iff {mark text before after : List Char} :
    cut? mark text = some (before, after) ↔ FirstAt mark text before after := by
  constructor
  · intro found
    exact ⟨eq_append_of_cut? found, fun _ _ => length_le_of_cut? found⟩
  · intro first
    cases found : cut? mark text with
    | none => exact absurd ⟨before, after, first.shape.symm⟩ (cut?_eq_none_iff.mp found)
    | some cut =>
      have again : FirstAt mark text cut.1 cut.2 :=
        ⟨eq_append_of_cut? found, fun _ _ => length_le_of_cut? found⟩
      obtain ⟨rfl, rfl⟩ := first.unique again
      rfl

theorem cut?_append_cons {mark : Char} {before : List Char} (absent : mark ∉ before)
    (after : List Char) : cut? [mark] (before ++ mark :: after) = some (before, after) := by
  induction before with
  | nil =>
    have front : [mark].isPrefixOf (mark :: after) = true := by simp
    rw [List.nil_append, cut?, if_pos front]
    rfl
  | cons first later ih =>
    obtain ⟨other, absent⟩ := not_or.mp (mt List.mem_cons.mpr absent)
    have front : ¬ [mark].isPrefixOf (first :: (later ++ mark :: after)) = true := by simp [other]
    rw [List.cons_append, cut?, if_neg front, ih absent]
    rfl

theorem notMem_of_cut? {mark : Char} {text before after : List Char}
    (found : cut? [mark] text = some (before, after)) : mark ∉ before := by
  induction text generalizing before with
  | nil => exact absurd found (by simp [cut?])
  | cons c rest ih =>
    rw [cut?] at found
    by_cases here : mark = c
    · rw [if_pos (by simp [here]), Option.some.injEq, Prod.mk.injEq] at found
      rw [← found.1]
      exact List.not_mem_nil
    · rw [if_neg (by simp [here]), Option.map_eq_some_iff] at found
      obtain ⟨⟨first, second⟩, later, same⟩ := found
      obtain ⟨rfl, rfl⟩ := Prod.mk.inj same
      exact mt List.mem_cons.mp (not_or.mpr ⟨here, ih later⟩)

/-- **Cutting at one character**: the text before it does not have the character. -/
theorem cut?_single_eq_some_iff {mark : Char} {text before after : List Char} :
    cut? [mark] text = some (before, after) ↔ text = before ++ mark :: after ∧ mark ∉ before := by
  constructor
  · intro found
    refine ⟨?_, notMem_of_cut? found⟩
    rw [eq_append_of_cut? found, List.append_assoc, List.singleton_append]
  · rintro ⟨rfl, absent⟩
    exact cut?_append_cons absent after

/-- A text without a character is not cut there. -/
theorem cut?_single_eq_none_iff {mark : Char} {text : List Char} :
    cut? [mark] text = none ↔ mark ∉ text := by
  rw [cut?_eq_none_iff, List.singleton_infix_iff]

/-- Characters that are no capital letters of ASCII have no other case. -/
theorem toLower_of_outside {c : Char} (outside : ¬ (65 ≤ c.toNat ∧ c.toNat ≤ 90)) :
    c.toLower = c := by
  have small : ¬ (c.val ≥ 'A'.val ∧ c.val ≤ 'Z'.val) := outside
  unfold Char.toLower
  rw [dif_neg small]

theorem toLower_of_isDigit {c : Char} (digit : c.isDigit = true) : c.toLower = c := by
  have bounds := Char.isDigit_iff_toNat.mp digit
  have nine : '9'.toNat = 57 := rfl
  exact toLower_of_outside (by omega)

end Georeference.Text
