/-
**Looking inside a text.**

* `cut?`: the text before and after the first occurrence of a mark.
* `contains`: whether a mark occurs at all.
* `sameIgnoringCase`: equality up to the case of the ASCII letters.

A mark is looked for at the front of the text and then behind each of its characters, so the
recursion is on the text and the mark stays as it is. An empty mark occurs at the front of every
text.
-/

namespace Georeference.Text

/-- What stands before and after the first occurrence of a mark. -/
def cut? (mark : List Char) : List Char → Option (List Char × List Char)
  | [] => if mark.isEmpty then some ([], []) else none
  | c :: rest =>
    if mark.isPrefixOf (c :: rest) then some ([], (c :: rest).drop mark.length)
    else (cut? mark rest).map fun (before, after) => (c :: before, after)

/-- Whether a mark occurs in a text. -/
def contains (mark text : List Char) : Bool :=
  (cut? mark text).isSome

/-- Equality up to the case of the ASCII letters. -/
def sameIgnoringCase (first second : List Char) : Bool :=
  first.map Char.toLower == second.map Char.toLower

/-! ### First facts -/

/-- Cutting loses only the mark. -/
theorem eq_append_of_cut? {mark text before after : List Char}
    (found : cut? mark text = some (before, after)) : text = before ++ mark ++ after := by
  induction text generalizing before with
  | nil =>
    rw [cut?, Option.ite_none_right_eq_some] at found
    obtain ⟨empty, same⟩ := found
    obtain ⟨rfl, rfl⟩ := Prod.mk.inj (Option.some.inj same)
    rw [List.isEmpty_iff.mp empty]
    rfl
  | cons c rest ih =>
    rw [cut?] at found
    by_cases here : mark.isPrefixOf (c :: rest) = true
    · rw [if_pos here, Option.some.injEq] at found
      obtain ⟨rfl, dropped⟩ := Prod.mk.inj found
      obtain ⟨tail, shape⟩ := List.isPrefixOf_iff_prefix.mp here
      rw [← dropped, ← shape, List.drop_left, List.nil_append]
    · rw [if_neg here, Option.map_eq_some_iff] at found
      obtain ⟨⟨first, second⟩, later, same⟩ := found
      obtain ⟨rfl, rfl⟩ := Prod.mk.inj same
      rw [ih later, List.cons_append, List.cons_append]

end Georeference.Text
