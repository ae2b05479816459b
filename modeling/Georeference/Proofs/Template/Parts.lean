/-
**How a text falls into the parts of a template.**

The parts of a text are said by the relation `Cuts`, apart from the scan that finds them. Outside of
a substitution every character is a part of its own, except where a dollar sign and an opening brace
stand together; from there on everything up to the next closing brace is one part, and everything up
to the end of the text if there is none.

### The scan

* `scan_literal`: a character that begins no substitution is a part.
* `scan_closed`, `scan_unclosed`: an open substitution goes on up to the closing brace, or to the
  end of the text.

### The parts

* `cuts_iff`: every text falls into parts in one way, and these are the parts that are found.
* `Cuts.append`: two texts that are written one after the other fall into the parts of both, unless
  a substitution begins between them or the first text leaves one open.
* `cuts_of_plain`: a text in which no substitution begins falls into its characters.

**The proof is by induction on the length of the text.** Its first part is a character, all of it up
to a closing brace or all of it, and what is left is a shorter text that falls into parts already.
The scan reads one character at a time instead and carries what it has read of an open substitution,
so its lemmas hold for anything that is carried, and are inductions on the expression that is still
to be read.
-/

import Georeference.Template
import Mathlib.Data.List.Basic

namespace Georeference.Template

/-- **The parts of a text, from left to right.** -/
inductive Cuts : List Char → List Part → Prop
  | nil : Cuts [] []
  | literal {c : Char} {rest : List Char} {later : List Part}
      (plain : c = '$' → rest.head? ≠ some '\x7b') (behind : Cuts rest later) :
      Cuts (c :: rest) (.literal c :: later)
  | substitution {expression rest : List Char} {later : List Part}
      (within : '\x7d' ∉ expression) (behind : Cuts rest later) :
      Cuts ('$' :: '\x7b' :: (expression ++ '\x7d' :: rest)) (.substitution expression :: later)
  | unclosed {expression : List Char} (within : '\x7d' ∉ expression) :
      Cuts ('$' :: '\x7b' :: expression) [.unclosed expression]

variable {text rest expression : List Char} {all : List Part}

/-! ### One step of the scan -/

theorem scan_literal {c : Char} (plain : c = '$' → rest.head? ≠ some '\x7b') :
    scan none (c :: rest) = .literal c :: scan none rest := by
  refine scan.eq_3 c rest fun after dollar brace => ?_
  exact plain dollar (congrArg List.head? brace)

/-- An open substitution goes on up to the closing brace. -/
theorem scan_closed (opened : List Char) (within : '\x7d' ∉ expression) :
    scan (some opened) (expression ++ '\x7d' :: rest) =
      .substitution (opened.reverse ++ expression) :: scan none rest := by
  induction expression generalizing opened with
  | nil => rw [List.nil_append, scan, if_pos rfl, List.append_nil]
  | cons c later ih =>
    obtain ⟨other, within⟩ := not_or.mp (mt List.mem_cons.mpr within)
    rw [List.cons_append, scan, if_neg (Ne.symm other), ih (c :: opened) within,
      List.reverse_cons, List.append_assoc, List.singleton_append]

theorem scan_unclosed (opened : List Char) (within : '\x7d' ∉ expression) :
    scan (some opened) expression = [.unclosed (opened.reverse ++ expression)] := by
  induction expression generalizing opened with
  | nil => rw [scan, List.append_nil]
  | cons c later ih =>
    obtain ⟨other, within⟩ := not_or.mp (mt List.mem_cons.mpr within)
    rw [scan, if_neg (Ne.symm other), ih (c :: opened) within, List.reverse_cons,
      List.append_assoc, List.singleton_append]

/-! ### All parts -/

theorem Cuts.parts_eq (cuts : Cuts text all) : parts text = all := by
  unfold parts
  induction cuts with
  | nil => rfl
  | literal plain _ ih => rw [scan_literal plain, ih]
  | substitution within _ ih =>
    rw [scan, scan_closed [] within, ih]
    rfl
  | unclosed within =>
    rw [scan, scan_unclosed [] within]
    rfl

/-- **Every text falls into parts.** -/
theorem exists_cuts (text : List Char) : ∃ all, Cuts text all := by
  induction length : text.length using Nat.strongRecOn generalizing text with
  | ind size ih =>
    cases text with
    | nil => exact ⟨[], .nil⟩
    | cons c rest =>
      by_cases plain : c = '$' → rest.head? ≠ some '\x7b'
      · have shorter : rest.length < size := by
          rw [← length]
          exact Nat.lt_succ_self _
        obtain ⟨later, behind⟩ := ih rest.length shorter rest rfl
        exact ⟨_, .literal plain behind⟩
      · obtain ⟨rfl, brace⟩ := Classical.not_imp.mp plain
        obtain ⟨tail, rfl⟩ := List.head?_eq_some_iff.mp (not_not.mp brace)
        by_cases closed : '\x7d' ∈ tail
        · obtain ⟨expression, after, rfl, within⟩ := List.eq_append_cons_of_mem closed
          have shorter : after.length < size := by
            rw [← length]
            simp only [List.length_cons, List.length_append]
            omega
          obtain ⟨later, behind⟩ := ih after.length shorter after rfl
          exact ⟨_, .substitution within behind⟩
        · exact ⟨_, .unclosed closed⟩

/-- **The parts of a text are found as they are.** -/
theorem cuts_iff : Cuts text all ↔ parts text = all := by
  constructor
  · exact Cuts.parts_eq
  · rintro rfl
    obtain ⟨found, cuts⟩ := exists_cuts text
    rwa [cuts.parts_eq]

/-! ### Two texts -/

/-- **Two texts one after the other** fall into the parts of both. -/
theorem Cuts.append {second : List Char} {more : List Part} (cuts : Cuts text all)
    (cuts' : Cuts second more) (closed : ∀ expression, .unclosed expression ∉ all)
    (apart : text.getLast? = some '$' → second.head? ≠ some '\x7b') :
    Cuts (text ++ second) (all ++ more) := by
  induction cuts with
  | nil => exact cuts'
  | @literal c rest later plain behind ih =>
    refine .literal ?_ (ih ?_ ?_)
    · intro dollar
      cases rest with
      | nil => exact apart (congrArg some dollar)
      | cons d tail => exact plain dollar
    · exact fun expression member => closed expression (List.mem_cons_of_mem _ member)
    · intro last
      refine apart ?_
      rw [List.getLast?_cons, last, Option.getD_some]
  | @substitution expression rest later within behind ih =>
    rw [List.cons_append, List.cons_append, List.append_assoc, List.cons_append, List.cons_append]
    refine .substitution within (ih ?_ ?_)
    · exact fun expression member => closed expression (List.mem_cons_of_mem _ member)
    · intro last
      refine apart ?_
      simp [last, List.getLast?_cons, List.getLast?_append]
  | unclosed within => exact absurd List.mem_cons_self (closed _)

/-- **A text in which no substitution begins** falls into its characters. -/
theorem cuts_of_plain (plain : ¬ ['$', '\x7b'] <:+: text) :
    Cuts text (text.map .literal) := by
  induction text with
  | nil => exact .nil
  | cons c rest ih =>
    refine .literal ?_ (ih fun inside => plain (List.infix_cons inside))
    rintro rfl brace
    obtain ⟨tail, rfl⟩ := List.head?_eq_some_iff.mp brace
    exact plain ⟨[], tail, rfl⟩

end Georeference.Template
