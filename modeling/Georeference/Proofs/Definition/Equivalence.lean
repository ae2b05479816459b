/-
**When two definitions carry the same parameters.**

What is compared of a parameter is its key and its comparable value. Two definitions are compared by
their lengths and by looking for each parameter of the first in the second.

### What is compared

* `Parameter.comparable`: what is compared of a parameter.
* `Definition.equivalent_iff`: as many parameters, and each of them found.

### Rearrangements

* `Definition.equivalent_of_perm`, `Definition.equivalent_iff_perm`: the same parameters in another
  order, and nothing else where keys differ.
* `Definition.equivalent_refl`, `Definition.equivalent_symm`, `Definition.equivalent_trans`: being
  equivalent is an equivalence as far as keys differ.

**The proof is by counting.** Comparing looks one way only: it is asked whether the parameters of
the first definition are found in the second one. Where the keys of the first differ, so do its
comparable parameters. A list without duplicates whose members are all found in another one, which
is no longer, is a rearrangement of that. So the second definition has no other parameters, and the
comparison may be turned round. Reflexivity and transitivity hold for any definitions, whatever
their keys.
-/

import Georeference.Definition.Basic
import Mathlib.Data.List.Nodup
import Mathlib.Data.List.Perm.Subperm

namespace Georeference

/-- What is compared of a parameter. -/
def Parameter.comparable (parameter : Parameter) : String × Option String :=
  (parameter.key, parameter.comparableValue)

namespace Definition

/-- **Two definitions are equivalent** when they have as many parameters, each found. -/
theorem equivalent_iff {first second : Definition} :
    first.equivalent second = true ↔
      first.parameters.length = second.parameters.length ∧
        ∀ pair ∈ first.parameters.map Parameter.comparable,
          pair ∈ second.parameters.map Parameter.comparable := by
  rw [equivalent, Bool.and_eq_true, beq_iff_eq, List.all_eq_true, List.forall_mem_map]
  refine and_congr_right fun _ => forall₂_congr fun mine _ => ?_
  rw [List.any_eq_true, List.mem_map]
  simp only [Bool.and_eq_true, beq_iff_eq, Parameter.comparable, Prod.mk.injEq]

/-- Definitions that compare the same in some order are equivalent. -/
theorem equivalent_of_perm {first second : Definition}
    (rearranged : (first.parameters.map Parameter.comparable).Perm
      (second.parameters.map Parameter.comparable)) :
    first.equivalent second = true := by
  have lengths := rearranged.length_eq
  rw [List.length_map, List.length_map] at lengths
  exact equivalent_iff.mpr ⟨lengths, fun _ member => rearranged.mem_iff.mp member⟩

theorem equivalent_refl (definition : Definition) : definition.equivalent definition = true :=
  equivalent_of_perm (List.Perm.refl _)

theorem equivalent_trans {first second third : Definition}
    (front : first.equivalent second = true) (back : second.equivalent third = true) :
    first.equivalent third = true := by
  obtain ⟨lengths, found⟩ := equivalent_iff.mp front
  obtain ⟨lengths', found'⟩ := equivalent_iff.mp back
  exact equivalent_iff.mpr
    ⟨lengths.trans lengths', fun pair member => found' pair (found pair member)⟩

/-- **Where keys differ**, equivalent definitions compare the same up to the order. -/
theorem equivalent_iff_perm {first second : Definition}
    (distinct : (first.parameters.map Parameter.key).Nodup) :
    first.equivalent second = true ↔
      (first.parameters.map Parameter.comparable).Perm
        (second.parameters.map Parameter.comparable) := by
  refine ⟨fun same => ?_, equivalent_of_perm⟩
  obtain ⟨lengths, found⟩ := equivalent_iff.mp same
  have different : (first.parameters.map Parameter.comparable).Nodup := by
    refine List.Nodup.of_map Prod.fst ?_
    rw [List.map_map]
    exact distinct
  refine (different.subperm fun pair member => found pair member).perm_of_length_le ?_
  rw [List.length_map, List.length_map]
  exact Nat.le_of_eq lengths.symm

theorem equivalent_symm {first second : Definition}
    (distinct : (first.parameters.map Parameter.key).Nodup)
    (same : first.equivalent second = true) : second.equivalent first = true :=
  equivalent_of_perm ((equivalent_iff_perm distinct).mp same).symm

end Definition

end Georeference
