/-
**The images of a file of control points.**

A file names each of its images once, in the order in which they come first. What one more point at
the end of a file does to the names is said by `imagesOf_concat`: its image is added unless an
earlier point is on it. That keeps one invariant, from which the rest follows.

### The invariant

* `firstOn?`, `FirstBefore`: where the first point on an image stands, and which of two images comes
  first.
* `ListsImages`: names are those of the images of points, and each comes first before the later
  ones.
* `ListsImages.concat`, `listsImages_imagesOf`: one more point keeps the invariant, so it holds of
  every file.

### What it says

* `ListsImages.sublist_iff`, `ListsImages.length_le`, `ListsImages.nodup`: the order and the number
  of the names.
* `ControlPointFile.images_in_first_seen_order`: a name is among them exactly when a point is on its
  image, and one name stands before another exactly when the first point on the one image stands
  before the first point on the other. With more points behind its own, a file begins with the same
  names.

**The proof is by induction on the points, from the last one.** Places are counted from the front,
so a point at the end changes no place that there was. On an image that was seen it changes nothing
(`ListsImages.concat_seen`); on another one it is the first, behind every image that was seen, and
its name is the last (`ListsImages.concat_fresh`). For the order of two names, the second one stands
on one side of the first, and the wrong side would put each of them before the other.
-/

import Georeference.ControlPoint.File
import Mathlib.Data.List.Induction
import Mathlib.Data.List.Perm.Subperm

namespace Georeference

variable {points : List ControlPoint} {point : ControlPoint} {names : List String}
  {name first second : String}

/-! ### Where images come first -/

/-- The place of the first point on an image. -/
def firstOn? (points : List ControlPoint) (name : String) : Option Nat :=
  points.findIdx? fun point => point.image == name

/-- The first point on one image stands before the first point on another. -/
def FirstBefore (points : List ControlPoint) (first second : String) : Prop :=
  ∃ here there, firstOn? points first = some here ∧ firstOn? points second = some there ∧
    here < there

theorem exists_firstOn?_iff :
    (∃ place, firstOn? points name = some place) ↔ ∃ point ∈ points, point.image = name := by
  rw [← Option.isSome_iff_exists, firstOn?, List.findIdx?_isSome, List.any_eq_true]
  simp only [beq_iff_eq]

/-- Points behind a place do not change it. -/
theorem firstOn?_append {place : Nat} (found : firstOn? points name = some place)
    (more : List ControlPoint) : firstOn? (points ++ more) name = some place := by
  unfold firstOn? at found ⊢
  rw [List.findIdx?_append, found, Option.some_or]

/-- A point on a new image is the first on it. -/
theorem firstOn?_concat (fresh : ∀ earlier ∈ points, earlier.image ≠ point.image) :
    firstOn? (points ++ [point]) point.image = some points.length := by
  have absent : points.findIdx? (fun earlier => earlier.image == point.image) = none := by
    rw [List.findIdx?_eq_none_iff]
    intro earlier member
    exact beq_eq_false_iff_ne.mpr (fresh earlier member)
  rw [firstOn?, List.findIdx?_append, absent, Option.none_or, List.findIdx?_cons,
    if_pos (beq_self_eq_true _), Option.map_some, Nat.zero_add]

theorem FirstBefore.append (before : FirstBefore points first second)
    (more : List ControlPoint) : FirstBefore (points ++ more) first second := by
  obtain ⟨here, there, found, found', less⟩ := before
  exact ⟨here, there, firstOn?_append found more, firstOn?_append found' more, less⟩

/-- Every image that was seen comes first before one that was not. -/
theorem firstBefore_concat (seen : ∃ earlier ∈ points, earlier.image = name)
    (fresh : ∀ earlier ∈ points, earlier.image ≠ point.image) :
    FirstBefore (points ++ [point]) name point.image := by
  obtain ⟨here, found⟩ := exists_firstOn?_iff.mpr seen
  have inside : here < points.length := (List.findIdx?_eq_some_iff_findIdx_eq.mp found).1
  exact ⟨here, points.length, firstOn?_append found [point], firstOn?_concat fresh, inside⟩

/-- Of two images one comes first before the other in one way only. -/
theorem FirstBefore.asymm (before : FirstBefore points first second) :
    ¬ FirstBefore points second first := by
  rintro ⟨there', here', found', found, greater⟩
  obtain ⟨here, there, same, same', less⟩ := before
  rw [same, Option.some.injEq] at found
  rw [same', Option.some.injEq] at found'
  omega

theorem FirstBefore.ne (before : FirstBefore points first second) : first ≠ second := by
  rintro rfl
  exact before.asymm before

/-! ### One more point -/

/-- **One more point** adds its image, unless an earlier point is on it. -/
theorem imagesOf_concat (points : List ControlPoint) (point : ControlPoint) :
    imagesOf (points ++ [point]) =
      if ∃ earlier ∈ points, earlier.image = point.image then imagesOf points
      else imagesOf points ++ [point.image] := by
  rw [imagesOf, List.map_append, List.eraseDups_append, List.map_singleton]
  by_cases seen : ∃ earlier ∈ points, earlier.image = point.image
  · have left : [point.image].removeAll (points.map ControlPoint.image) = [] := by
      simpa [List.removeAll] using seen
    rw [if_pos seen, left, List.eraseDups_nil, List.append_nil, imagesOf]
  · have left : [point.image].removeAll (points.map ControlPoint.image) = [point.image] := by
      simpa [List.removeAll] using seen
    rw [if_neg seen, left]
    rfl

/-- **Names list the images of points**, each before the later ones. -/
structure ListsImages (points : List ControlPoint) (names : List String) : Prop where
  mem_iff : ∀ name, name ∈ names ↔ ∃ point ∈ points, point.image = name
  ordered : names.Pairwise (FirstBefore points)

namespace ListsImages

theorem nil : ListsImages [] [] :=
  ⟨by simp, .nil⟩

/-- A point on an image that was seen changes nothing. -/
theorem concat_seen (lists : ListsImages points names)
    (seen : ∃ earlier ∈ points, earlier.image = point.image) :
    ListsImages (points ++ [point]) names where
  mem_iff name := by
    rw [lists.mem_iff]
    constructor
    · rintro ⟨earlier, member, same⟩
      exact ⟨earlier, List.mem_append_left _ member, same⟩
    · rintro ⟨other, member, rfl⟩
      rcases List.mem_append.mp member with earlier | last
      · exact ⟨other, earlier, rfl⟩
      · rw [List.mem_singleton.mp last]
        exact seen
  ordered := lists.ordered.imp fun before => before.append [point]

/-- A point on an image that was not seen adds it behind all others. -/
theorem concat_fresh (lists : ListsImages points names)
    (fresh : ∀ earlier ∈ points, earlier.image ≠ point.image) :
    ListsImages (points ++ [point]) (names ++ [point.image]) where
  mem_iff name := by
    rw [List.mem_append, lists.mem_iff, List.mem_singleton]
    constructor
    · rintro (⟨earlier, member, same⟩ | rfl)
      · exact ⟨earlier, List.mem_append_left _ member, same⟩
      · exact ⟨point, List.mem_concat_self, rfl⟩
    · rintro ⟨other, member, rfl⟩
      rcases List.mem_append.mp member with earlier | last
      · exact Or.inl ⟨other, earlier, rfl⟩
      · rw [List.mem_singleton.mp last]
        exact Or.inr rfl
  ordered := by
    rw [List.pairwise_append]
    refine ⟨lists.ordered.imp fun before => before.append [point], List.pairwise_singleton _ _, ?_⟩
    intro name member other last
    rw [List.mem_singleton.mp last]
    exact firstBefore_concat ((lists.mem_iff name).mp member) fresh

/-- **The step**: one more point keeps the invariant. -/
theorem concat (lists : ListsImages points (imagesOf points)) (point : ControlPoint) :
    ListsImages (points ++ [point]) (imagesOf (points ++ [point])) := by
  rw [imagesOf_concat]
  by_cases seen : ∃ earlier ∈ points, earlier.image = point.image
  · rw [if_pos seen]
    exact lists.concat_seen seen
  · rw [if_neg seen]
    exact lists.concat_fresh fun earlier member same => seen ⟨earlier, member, same⟩

/-! ### What the invariant says -/

theorem nodup (lists : ListsImages points names) : names.Nodup :=
  lists.ordered.imp FirstBefore.ne

/-- **The order of the names** is that in which the images come first. -/
theorem sublist_iff (lists : ListsImages points names) :
    [first, second].Sublist names ↔ FirstBefore points first second := by
  have ordered : ∀ {one other : String}, [one, other].Sublist names →
      FirstBefore points one other := List.pairwise_iff_forall_sublist.mp lists.ordered
  refine ⟨ordered, fun before => ?_⟩
  have ⟨here, there, found, found', _⟩ := before
  have member := (lists.mem_iff first).mpr (exists_firstOn?_iff.mp ⟨here, found⟩)
  have member' := (lists.mem_iff second).mpr (exists_firstOn?_iff.mp ⟨there, found'⟩)
  obtain ⟨front, back, rfl⟩ := List.append_of_mem member
  rcases List.mem_append.mp member' with front' | back'
  · have turned : [second, first].Sublist (front ++ first :: back) :=
      List.Sublist.append (List.singleton_sublist.mpr front')
        (List.singleton_sublist.mpr List.mem_cons_self)
    exact absurd (ordered turned) before.asymm
  · rcases List.mem_cons.mp back' with same | later
    · exact absurd same.symm before.ne
    · exact (List.Sublist.cons_cons first (List.singleton_sublist.mpr later)).trans
        (List.sublist_append_right front _)

theorem length_le (lists : ListsImages points names) : names.length ≤ points.length := by
  have inside : names ⊆ points.map ControlPoint.image := fun name member =>
    List.mem_map.mpr ((lists.mem_iff name).mp member)
  have shorter := (lists.nodup.subperm inside).length_le
  rwa [List.length_map] at shorter

theorem eq_nil_iff (lists : ListsImages points names) : names = [] ↔ points = [] := by
  simp only [List.eq_nil_iff_forall_not_mem, lists.mem_iff]
  constructor
  · intro unnamed point member
    exact unnamed point.image ⟨point, member, rfl⟩
  · rintro absent name ⟨point, member, -⟩
    exact absent point member

end ListsImages

/-- **The run**: the invariant holds of all points. -/
theorem listsImages_imagesOf (points : List ControlPoint) :
    ListsImages points (imagesOf points) := by
  induction points using List.reverseRecOn with
  | nil => exact .nil
  | append_singleton points point ih => exact ih.concat point

/-- More points behind others add names behind theirs. -/
theorem imagesOf_prefix (points more : List ControlPoint) :
    imagesOf points <+: imagesOf (points ++ more) := by
  rw [imagesOf, imagesOf, List.map_append, List.eraseDups_append]
  exact List.prefix_append _ _

namespace ControlPointFile

variable {System : Type}

/-- **A file names each of its images once, in the order in which they come first.** -/
theorem images_in_first_seen_order (file : ControlPointFile System) :
    file.images.Nodup ∧
    (∀ name, name ∈ file.images ↔ ∃ point ∈ file.points, point.image = name) ∧
    (∀ first second, [first, second].Sublist file.images ↔
      FirstBefore file.points first second) ∧
    file.images.length ≤ file.points.length ∧
    (file.images = [] ↔ file.points = []) ∧
    ∀ more, file.images <+: images { file with points := file.points ++ more } := by
  have lists : ListsImages file.points file.images := listsImages_imagesOf file.points
  exact ⟨lists.nodup, lists.mem_iff, fun _ _ => lists.sublist_iff, lists.length_le,
    lists.eq_nil_iff, imagesOf_prefix file.points⟩

end ControlPointFile

end Georeference
