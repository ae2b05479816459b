/-
**The text of a system as a header.**

A system that was resolved can be written down as its definition and used as a header again. Such a
header always asks for a definition, and what it asks for differs from what was written only by the
quotes that are dropped at the ends.

### Texts of definitions

* `Definition.WellFormed.classify_text`: the text of a definition asks for what it is without such
  quotes.
* `Definition.WellFormed.classify_quoted`: between quotes it asks for itself.

### The theorem

`Registry.resolve_resolved` is about any registry that there can be, and any system that a header
was resolved to over it. Between quotes its text is resolved to the same definition, and to the same
code unless the header asked for one; and the two systems are equivalent. Without quotes around it
the text is resolved to the same definition exactly when it does not end with a quote itself.

**The proof is by what the text begins and ends with.** It has a parameter for the projection and
begins with a plus sign, so it is no zone and is a definition before it could be a code. One quote
at each end is dropped and no more, and that is the one that was put there. If a text without quotes
around it ends with one, this is dropped and a shorter text is read. That has other words, so it
cannot be read as the same definition (`Registry.definition_ne_of_quoted`).
-/

import Georeference.Proofs.Header.Classification
import Georeference.Proofs.Header.Resolution

namespace Georeference

namespace Definition.WellFormed

variable {definition : Definition}

/-- The text of a definition asks for a definition. -/
theorem classify_text (wellFormed : definition.WellFormed) {inner : String}
    (unquoted : Unquoted definition.text.toList inner.toList) :
    classify definition.text = .ok (.proj4 inner) := by
  rw [classify_eq_proj4_iff, wellFormed.trim_text]
  refine ⟨fun named => ?_, wellFormed.mention_proj, unquoted⟩
  have first := named.head?
  rw [wellFormed.head?_text] at first
  exact absurd first (by decide)

theorem unquoted_text (wellFormed : definition.WellFormed) {inner : List Char}
    (back : definition.text.toList = inner ++ ['\''] ∨
      definition.text.toList = inner ∧ inner.getLast? ≠ some '\'') :
    Unquoted definition.text.toList inner := by
  refine ⟨definition.text.toList, Or.inr ⟨rfl, ?_⟩, back⟩
  rw [wellFormed.head?_text]
  decide

/-- **Between quotes the text of a definition asks for itself.** -/
theorem classify_quoted (wellFormed : definition.WellFormed) :
    classify ("'" ++ definition.text ++ "'") = .ok (.proj4 definition.text) := by
  have characters : ("'" ++ definition.text ++ "'").toList =
      '\'' :: (definition.text.toList ++ ['\'']) := by
    simp
  have ends : Text.trim ('\'' :: (definition.text.toList ++ ['\''])) =
      '\'' :: (definition.text.toList ++ ['\'']) := by
    refine Text.trim_of_shown_ends ?_ ?_
    · intro c front
      rw [← Option.some.inj front]
      rfl
    · intro c back
      rw [← List.cons_append, List.getLast?_concat] at back
      rw [← Option.some.inj back]
      rfl
  rw [classify_eq_proj4_iff, characters, ends]
  refine ⟨fun named => ?_, ?_, definition.text.toList ++ ['\''], Or.inl rfl, Or.inl rfl⟩
  · have first := named.head?
    exact absurd (Option.some.inj first) (by decide)
  · rw [← List.cons_append]
    exact (wellFormed.mention_proj.trans (List.suffix_cons _ _).isInfix).trans
      (List.prefix_append _ _).isInfix

end Definition.WellFormed

namespace Registry

variable {registry : Registry}

/-- A text that ends with a quote is not resolved to its definition. -/
theorem definition_ne_of_quoted {definition : Definition} (valid : definition.Valid)
    (quoted : definition.text.toList.getLast? = some '\'') {again : Crs}
    (accepted : registry.resolve definition.text = .ok again) : again.definition ≠ definition := by
  intro same
  obtain ⟨inner, shape⟩ := List.getLast?_eq_some_iff.mp quoted
  have asked : classify definition.text = .ok (.proj4 (String.ofList inner)) := by
    refine valid.wellFormed.classify_text (valid.wellFormed.unquoted_text (Or.inl ?_))
    rw [String.toList_ofList, shape]
  obtain ⟨request, found, built⟩ := resolve_eq_ok_iff.mp accepted
  rw [asked, Except.ok.injEq] at found
  rw [← found, build_proj4] at built
  obtain ⟨other, read, rfl⟩ := Crs.ofProj4_eq_ok_iff.mp built
  rw [Crs.definition_ofValid] at same
  rw [same] at read
  have shown : Text.isBlank '\'' = false := rfl
  have longer : definition.text.toList = (String.ofList inner).toList ++ ['\''] := by
    rw [String.toList_ofList, shape]
  exact Definition.read_ne_of_append shown longer (Definition.read_text valid.wellFormed)
    (Definition.readValid_eq_ok_iff.mp read).1

theorem resolve_text {definition : Definition} (valid : definition.Valid)
    (unquoted : definition.text.toList.getLast? ≠ some '\'') :
    registry.resolve definition.text = .ok (Crs.ofValid definition) :=
  resolve_proj4 valid
    (valid.wellFormed.classify_text (valid.wellFormed.unquoted_text (Or.inr ⟨rfl, unquoted⟩)))

/-- **The text of a system is resolved to the system again.** -/
theorem resolve_resolved (reachable : registry.Reachable) {header : String} {crs : Crs}
    (accepted : registry.resolve header = .ok crs) :
    (∃ again, registry.resolve ("'" ++ crs.proj4 ++ "'") = .ok again ∧
      again.definition = crs.definition ∧
      again.equivalent crs = true ∧ crs.equivalent again = true ∧
      ((∀ code, classify header ≠ .ok (.epsg code)) → again.epsg = crs.epsg)) ∧
    ((∃ again, registry.resolve crs.proj4 = .ok again ∧ again.definition = crs.definition) ↔
      crs.proj4.toList.getLast? ≠ some '\'') := by
  obtain ⟨valid, uncoded⟩ := reachable.valid_of_resolve accepted
  have same : (Crs.ofValid crs.definition).definition = crs.definition :=
    Crs.definition_ofValid crs.definition
  constructor
  · refine ⟨Crs.ofValid crs.definition, ?_, same, ?_, ?_, ?_⟩
    · exact resolve_proj4 valid valid.wellFormed.classify_quoted
    · rw [Crs.equivalent, same, Definition.equivalent_refl, Bool.or_true]
    · rw [Crs.equivalent, same, Definition.equivalent_refl, Bool.or_true]
    · intro other
      exact congrArg Crs.epsg (uncoded other).symm
  · constructor
    · rintro ⟨again, success, rebuilt⟩ quoted
      exact definition_ne_of_quoted valid quoted success rebuilt
    · intro unquoted
      exact ⟨_, resolve_text valid unquoted, same⟩

/-- A system whose text ends with a quote is resolved from it between quotes only. -/
theorem resolve_resolved_title :
    let entry : Entry := ⟨2154, "Lambert", ⟨[.assign "proj" "lcc", .assign "title" "'France'"]⟩⟩
    let registry := Registry.builtin.add entry
    registry.Reachable ∧ registry.resolve "EPSG:2154" = .ok entry.crs ∧
      (∃ again, registry.resolve ("'" ++ entry.crs.proj4 ++ "'") = .ok again ∧
        again.definition = entry.definition) ∧
      ¬ ∃ again, registry.resolve entry.crs.proj4 = .ok again ∧
        again.definition = entry.definition := by
  intro entry registry
  have reachable : registry.Reachable := by
    let system : SystemDefinition := ⟨2154, "Lambert", "+proj=lcc +title='France'"⟩
    have success : Registry.builtin.define [system] = .ok registry := by decide +kernel
    exact .define .builtin (by decide) success
  have accepted : registry.resolve "EPSG:2154" = .ok entry.crs := by decide +kernel
  obtain ⟨⟨again, success, same, -⟩, unquoted⟩ := resolve_resolved reachable accepted
  refine ⟨reachable, accepted, ⟨again, success, same⟩, ?_⟩
  have quoted : entry.crs.proj4.toList.getLast? = some '\'' := by decide +kernel
  exact fun found => unquoted.mp found quoted

end Registry

end Georeference
