/-
**Names of images in a file of control points.**

The name of an image is a field of a line, so it is not empty and has nothing blank in it. Joined by
commas and spaces the names of a file can be told apart again, even those with commas in them.

### Names that are read

* `IsField`: a name that can stand among the fields of a line.
* `ControlPoint.isField_of_read`: the image of a point is one.
* `exists_of_bind_eq_ok`: a reading that comes to an end has passed each of its steps.

### Joined names

`intercalate_comma_injective`: lists of such names that are alike when they are joined are alike.

### Files

* `ControlPointFile.resolve_of_read`: a file that was read has a header that is resolved to its
  system, and points on images that are named by fields.
* `ControlPointFile.isField_of_mem_images`: so are all images of the file.

**The proof is by induction on the names.** No name has a space in it, so every space in the joined
text stands behind a name and its comma. Cutting the text at its first space gives the first name
with its comma and the others joined (`cut?_intercalate_cons_cons`), and gives nothing when there is
one name only. So two joined texts that are alike are of equally many names, and begin with the same
one. A text of no name is empty, and one of some names is not.
-/

import Georeference.Proofs.ControlPoint.Images
import Georeference.Proofs.ControlPoint.Lines
import Georeference.Proofs.Text.Search
import Georeference.Proofs.Text.Words

namespace Georeference

/-! ### Names that are read -/

/-- A name that is not empty and has nothing blank. -/
structure IsField (name : String) : Prop where
  nonempty : name.toList ≠ []
  shown : ∀ c ∈ name.toList, Text.isBlank c = false

instance : DecidablePred IsField := fun name =>
  decidable_of_iff (name.toList ≠ [] ∧ name.toList.any Text.isBlank = false)
    ⟨fun ⟨nonempty, shown⟩ => ⟨nonempty, Text.any_isBlank_eq_false_iff.mp shown⟩,
      fun field => ⟨field.nonempty, Text.any_isBlank_eq_false_iff.mpr field.shown⟩⟩

theorem IsField.append {first second : String} (field : IsField first) (field' : IsField second) :
    IsField (first ++ second) where
  nonempty := by
    rw [String.toList_append]
    exact List.append_ne_nil_of_left_ne_nil field.nonempty _
  shown := by
    rw [String.toList_append]
    exact List.forall_mem_append.mpr ⟨field.shown, field'.shown⟩

/-- A reading that comes to an end has passed its first step. -/
theorem exists_of_bind_eq_ok {Fault Value Result : Type} {step : Except Fault Value}
    {next : Value → Except Fault Result} {result : Result} (success : step >>= next = .ok result) :
    ∃ value, step = .ok value ∧ next value = .ok result := by
  cases step with
  | error fault => cases success
  | ok value => exact ⟨value, rfl, success⟩

/-- **The image of a point** is a field of its line. -/
theorem ControlPoint.isField_of_read {line : List Char} {point : ControlPoint}
    (success : ControlPoint.read line = .ok point) : IsField point.image := by
  unfold ControlPoint.read ofFields at success
  split at success
  · rename_i image extras shape
    have member : image ∈ Text.words line := by simp [shape]
    obtain ⟨_, -, success⟩ := exists_of_bind_eq_ok success
    obtain ⟨_, -, success⟩ := exists_of_bind_eq_ok success
    obtain ⟨_, -, success⟩ := exists_of_bind_eq_ok success
    obtain ⟨_, -, success⟩ := exists_of_bind_eq_ok success
    obtain ⟨_, -, success⟩ := exists_of_bind_eq_ok success
    rw [← Except.ok.inj success]
    refine ⟨?_, ?_⟩
    · rw [String.toList_ofList]
      exact Text.ne_nil_of_mem_words member
    · rw [String.toList_ofList]
      exact Text.not_blank_of_mem_words member
  · cases success

/-! ### Joined names -/

theorem IsField.space_notMem {name : String} (field : IsField name) : ' ' ∉ name.toList :=
  fun inside => absurd (field.shown ' ' inside) (by decide)

theorem cut?_intercalate_singleton {name : String} (field : IsField name) :
    Text.cut? [' '] (", ".intercalate [name]).toList = none := by
  rw [String.intercalate_singleton]
  exact Text.cut?_single_eq_none_iff.mpr field.space_notMem

theorem cut?_intercalate_cons_cons {name : String} (field : IsField name) (next : String)
    (others : List String) :
    Text.cut? [' '] (", ".intercalate (name :: next :: others)).toList =
      some (name.toList ++ [','], (", ".intercalate (next :: others)).toList) := by
  have shape : (", ".intercalate (name :: next :: others)).toList =
      (name.toList ++ [',']) ++ ' ' :: (", ".intercalate (next :: others)).toList := by
    rw [String.intercalate_cons_cons, String.toList_append, String.toList_append, List.append_assoc,
      List.append_assoc]
    rfl
  rw [shape, Text.cut?_append_cons (List.not_mem_append field.space_notMem (by decide))]

theorem intercalate_ne_empty {name : String} (field : IsField name) (rest : List String) :
    ", ".intercalate (name :: rest) ≠ "" := by
  intro empty
  cases rest with
  | nil =>
    rw [String.intercalate_singleton] at empty
    exact field.nonempty (String.toList_eq_nil_iff.mpr empty)
  | cons next others =>
    have cuts := cut?_intercalate_cons_cons field next others
    rw [empty] at cuts
    cases cuts

/-- **Joined names of fields are told apart**, even if there are commas in them. -/
theorem intercalate_comma_injective {first second : List String}
    (fields : ∀ name ∈ first, IsField name) (fields' : ∀ name ∈ second, IsField name)
    (same : ", ".intercalate first = ", ".intercalate second) : first = second := by
  induction first generalizing second with
  | nil =>
    cases second with
    | nil => rfl
    | cons name rest => exact absurd same.symm (intercalate_ne_empty (fields' name (by simp)) rest)
  | cons name rest ih =>
    obtain ⟨field, later⟩ := List.forall_mem_cons.mp fields
    cases second with
    | nil => exact absurd same (intercalate_ne_empty field rest)
    | cons name' rest' =>
      obtain ⟨field', later'⟩ := List.forall_mem_cons.mp fields'
      have cuts := congrArg (fun joined : String => Text.cut? [' '] joined.toList) same
      cases rest with
      | nil =>
        cases rest' with
        | nil =>
          rw [String.intercalate_singleton, String.intercalate_singleton] at same
          rw [same]
        | cons next' others' =>
          rw [cut?_intercalate_singleton field, cut?_intercalate_cons_cons field'] at cuts
          cases cuts
      | cons next others =>
        cases rest' with
        | nil =>
          rw [cut?_intercalate_singleton field', cut?_intercalate_cons_cons field] at cuts
          cases cuts
        | cons next' others' =>
          rw [cut?_intercalate_cons_cons field, cut?_intercalate_cons_cons field',
            Option.some.injEq, Prod.mk.injEq, List.append_left_inj, String.toList_inj,
            String.toList_inj] at cuts
          rw [cuts.1, ih later later' cuts.2]

/-! ### Files that were read -/

section Files

variable {registry : Registry} {text : String} {file : ControlPointFile Crs}

/-- **A file that was read** has a resolved header and named images. -/
theorem ControlPointFile.resolve_of_read
    (success : (ControlPointFile.read registry.resolver text).run = .ok file) :
    registry.resolve file.header = .ok file.system ∧
      ∀ point ∈ file.points, IsField point.image := by
  rcases Text.blank_or_shown text.toList with blank | ⟨before, header, after, shape, blank, shown⟩
  · rw [(ControlPointFile.read_of_blank registry.resolver blank).2] at success
    cases success
  · rw [(ControlPointFile.read_of_lines registry.resolver shape blank shown).2] at success
    replace success : ControlPointFile.outcome header (before.length + 1) after
        (registry.resolve (String.ofList header)) = .ok file := success
    cases accepted : registry.resolve (String.ofList header) with
    | error error =>
      rw [accepted] at success
      cases success
    | ok system =>
      rw [accepted] at success
      obtain ⟨named, found, points⟩ := ControlPointFile.outcome_eq_ok_iff.mp success
      rw [named, found, accepted]
      refine ⟨rfl, fun point member => ?_⟩
      have inside : Except.ok point ∈ (after.filter HoldsData).map ControlPoint.read := by
        rw [points]
        exact List.mem_map_of_mem member
      obtain ⟨line, -, read⟩ := List.mem_map.mp inside
      exact ControlPoint.isField_of_read read

theorem ControlPointFile.isField_of_mem_images
    (fields : ∀ point ∈ file.points, IsField point.image) : ∀ name ∈ file.images, IsField name := by
  intro name member
  obtain ⟨point, inside, rfl⟩ := (listsImages_imagesOf file.points).mem_iff name |>.mp member
  exact fields point inside

end Files

end Georeference
