/-
**Sample files are read back.**

A sample file holds a header and a number of points, one on each line. A reader that accepts the
header finds these points and no others, with exactly the numbers that were written.

### Points

* `IsSample`: a point of a sample file by its index. It is ten metres to the east of the one before
  it, one pixel further in both directions, on the other image, and has the index as its label.
* `Samples`, `Samples.imagesOf_eq`: all points of such a file, and their images.

### Lines

* `words_samplePoint`, `exists_read_samplePoint`: the words of a line are its fields, and a point by
  its index is read from them.
* `lines_sampleFile`, `exists_samples`: the lines of the file, and the points on them.

### The theorem

`ControlPointFile.sampleFile_reads_back`: if a header without line ends is accepted, so is the file
with fewer than `2 ^ 49` points below it, whatever the builder and the log do, and reading it does
no more than to resolve the header. The file has the header and its system, exactly the points that
were asked for, and the names of two images, or of fewer if there are fewer points.

**The proof is by induction on the number of points.** One more line is one more point at the end.
The first two points are on images of their own and every later one is on one of these, so from two
points on the images stay as they are. All numbers on a line are whole and below `2 ^ 53`, where
sums and products are exact and texts are read back. No field is empty or has anything blank, so
fields joined by spaces are the words of the line, and no line has a line end.
-/

import Georeference.ControlPoint.Sample
import Georeference.Proofs.ControlPoint.Names
import Georeference.Proofs.Decimal.WholeText
import Georeference.Proofs.Header.Classification
import Georeference.Proofs.Text.Lines
import Georeference.Proofs.Text.Runs
import Mathlib.Tactic.NormNum

namespace Georeference

open Decimal (value? fixedText paddedText Digits IsWhole)

/-! ### The points of a sample file -/

/-- The names of the two images. -/
def sampleImages : List String :=
  ["IMG_0000.jpg", "IMG_0001.jpg"]

/-- **A point of a sample file**, by its index. -/
structure IsSample (index : Nat) (point : ControlPoint) : Prop where
  geoX : value? point.geoX = some (500000 + 10 * index)
  geoY : value? point.geoY = some 4649776
  geoZ : value? point.geoZ = some 100
  pixelX : value? point.pixelX = some (1000 + index)
  pixelY : value? point.pixelY = some (800 + index)
  image : point.image = if index % 2 = 0 then "IMG_0000.jpg" else "IMG_0001.jpg"
  extras : point.extras = ["gcp" ++ (if index < 10 then "0" else "") ++ toString index]

/-- **The points of a sample file**, in the order of their indices. -/
inductive Samples : Nat → List ControlPoint → Prop
  | none : Samples 0 []
  | next {count : Nat} {points : List ControlPoint} {point : ControlPoint}
      (earlier : Samples count points) (last : IsSample count point) :
      Samples (count + 1) (points ++ [point])

namespace Samples

variable {count : Nat} {points : List ControlPoint}

theorem length_eq (samples : Samples count points) : points.length = count := by
  induction samples with
  | none => rfl
  | next _ _ ih => rw [List.length_append, List.length_singleton, ih]

theorem isSample (samples : Samples count points) {index : Nat} {point : ControlPoint}
    (found : points[index]? = some point) : IsSample index point := by
  induction samples with
  | none => cases found
  | @next count points last earlier isLast ih =>
    rw [List.getElem?_append] at found
    split at found
    · exact ih found
    · rw [List.getElem?_singleton] at found
      split at found
      · have index_eq : index = count := by
          have length := earlier.length_eq
          omega
        rw [index_eq, ← Option.some.inj found]
        exact isLast
      · cases found

/-- **The images** are the first of the two names. -/
theorem imagesOf_eq (samples : Samples count points) :
    imagesOf points = sampleImages.take (min count 2) := by
  induction samples with
  | none => rfl
  | @next count points last earlier isLast ih =>
    have seen : (∃ point ∈ points, point.image = last.image) ↔
        last.image ∈ sampleImages.take (min count 2) := by
      rw [← ih]
      exact ((listsImages_imagesOf points).mem_iff _).symm
    obtain rfl | rfl | ⟨more, rfl⟩ : count = 0 ∨ count = 1 ∨ ∃ more, count = more + 2 := by
      rcases count with _ | _ | more <;> simp
    · have image : last.image = "IMG_0000.jpg" := isLast.image
      have fresh : last.image ∉ sampleImages.take (min 0 2) := List.not_mem_nil
      rw [imagesOf_concat, if_neg (mt seen.mp fresh), ih, image]
      rfl
    · have image : last.image = "IMG_0001.jpg" := isLast.image
      have fresh : last.image ∉ sampleImages.take (min 1 2) := by
        rw [image]
        decide
      rw [imagesOf_concat, if_neg (mt seen.mp fresh), ih, image]
      rfl
    · have both : ∀ count, sampleImages.take (min (count + 2) 2) = sampleImages := by
        intro count
        rw [Nat.min_eq_right (Nat.le_add_left 2 count)]
        rfl
      have member : last.image ∈ sampleImages := by
        rw [isLast.image]
        split <;> decide
      rw [both] at seen ih
      rw [imagesOf_concat, if_pos (seen.mpr member), ih, Nat.add_right_comm, both]

end Samples

/-! ### One line -/

section Line

variable {index : Nat}

theorem isField_of_digits {text : String} (digits : Digits text.toList) : IsField text :=
  ⟨digits.1, fun c member => Decimal.Denotes.shown_of_isDigit (digits.2 c member)⟩

theorem isField_toString (value : Nat) : IsField (toString value) := by
  refine isField_of_digits ?_
  rw [Decimal.toList_toString]
  exact Decimal.digits_toDigits value

theorem isField_fixedText {x : Float} {number : Nat} (isWhole : IsWhole x number) :
    IsField (fixedText 1 x) := by
  have text : fixedText 1 x = toString number ++ ".0" := by
    rw [isWhole.fixedText_eq, ← String.toList_inj, String.toList_append, Decimal.toList_toString,
      String.toList_ofList]
    rfl
  rw [text]
  exact (isField_toString number).append (by decide)

/-- Digits are padded with one zero at most. -/
theorem paddedText_two (value : Nat) :
    paddedText 2 value = (if value < 10 then "0" else "") ++ toString value := by
  rw [← String.toList_inj, String.toList_append, Decimal.toList_toString, paddedText,
    String.toList_ofList]
  congr 1
  by_cases single : value < 10
  · rw [if_pos single, Nat.toDigits_of_lt_base single]
    rfl
  · have length : 1 < (Nat.toDigits 10 value).length := by
      rw [← Nat.not_le, Nat.length_toDigits_le_iff (by decide) (by decide)]
      exact single
    rw [if_neg single, Nat.sub_eq_zero_of_le length]
    rfl

theorem sampleImage_eq (index : Nat) :
    "IMG_" ++ paddedText 4 (index % 2) ++ ".jpg" =
      if index % 2 = 0 then "IMG_0000.jpg" else "IMG_0001.jpg" := by
  rcases Nat.mod_two_eq_zero_or_one index with even | odd
  · rw [even]
    rfl
  · rw [odd]
    rfl

/-- The coordinate to the east is computed exactly. -/
theorem isWhole_east (small : index < 2 ^ 49) :
    IsWhole (500000 + 10 * index.toFloat) (500000 + 10 * index) := by
  have ten : IsWhole 10 10 := Decimal.isWhole_ofNat (by decide)
  have origin : IsWhole 500000 500000 := Decimal.isWhole_ofNat (by decide)
  have steps : IsWhole index.toFloat index := Decimal.isWhole_ofNat (by omega)
  exact origin.add (ten.mul steps (by omega)) (by omega)

theorem isWhole_north : IsWhole 4649776 4649776 :=
  Decimal.isWhole_ofNat (by decide)

theorem isWhole_up : IsWhole 100 100 :=
  Decimal.isWhole_ofNat (by decide)

theorem isField_of_mem_sampleFields (small : index < 2 ^ 49) :
    ∀ field ∈ sampleFields index, IsField field := by
  have image : IsField ("IMG_" ++ paddedText 4 (index % 2) ++ ".jpg") := by
    rw [sampleImage_eq]
    split <;> decide
  have label : IsField ("gcp" ++ paddedText 2 index) := by
    refine IsField.append (by decide) (isField_of_digits ?_)
    rw [paddedText, String.toList_ofList]
    exact (Decimal.digits_toDigits index).zeros_append _
  simp only [sampleFields, List.forall_mem_cons, List.not_mem_nil, false_implies, implies_true,
    and_true]
  exact ⟨isField_fixedText (isWhole_east small), isField_fixedText isWhole_north,
    isField_fixedText isWhole_up, isField_toString _, isField_toString _, image, label⟩

theorem toList_samplePoint (index : Nat) :
    (samplePoint index).toList = [' '].intercalate ((sampleFields index).map String.toList) :=
  String.toList_intercalate

/-- **The words of a line are its fields.** -/
theorem words_samplePoint (small : index < 2 ^ 49) :
    Text.words (samplePoint index).toList = (sampleFields index).map String.toList := by
  rw [toList_samplePoint]
  refine ((Text.joined_intercalate _).runs ?_).words_eq
  intro word member
  obtain ⟨field, inside, rfl⟩ := List.mem_map.mp member
  have isField := isField_of_mem_sampleFields small field inside
  exact ⟨isField.nonempty, isField.shown⟩

/-- **What is read from a line is the point that was written.** -/
theorem exists_read_samplePoint (small : index < 2 ^ 49) :
    ∃ point, ControlPoint.read (samplePoint index).toList = .ok point ∧ IsSample index point := by
  obtain ⟨geoX, readX, isX⟩ := (isWhole_east small).exists_float?_fixedText (by omega) 1
  obtain ⟨geoY, readY, isY⟩ := isWhole_north.exists_float?_fixedText (by decide) 1
  obtain ⟨geoZ, readZ, isZ⟩ := isWhole_up.exists_float?_fixedText (by decide) 1
  obtain ⟨pixelX, readX', isX'⟩ :=
    Decimal.exists_float?_toString (by omega : 1000 + index < 2 ^ 53)
  obtain ⟨pixelY, readY', isY'⟩ :=
    Decimal.exists_float?_toString (by omega : 800 + index < 2 ^ 53)
  refine ⟨⟨geoX, geoY, geoZ, pixelX, pixelY, "IMG_" ++ paddedText 4 (index % 2) ++ ".jpg",
    ["gcp" ++ paddedText 2 index]⟩, ?_, ?_⟩
  · rw [ControlPoint.read, words_samplePoint small]
    simp only [sampleFields, List.map_cons, List.map_nil, ControlPoint.ofFields,
      ControlPoint.readNumber, readX, readY, readZ, readX', readY', String.ofList_toList]
    rfl
  · refine ⟨by simpa using isX.value, by simpa using isY.value, by simpa using isZ.value,
      by simpa using isX'.value, by simpa using isY'.value, sampleImage_eq index, ?_⟩
    rw [paddedText_two, ← String.append_assoc]

end Line

/-! ### The lines of a file -/

/-- **A line from which a point is read** is no comment. -/
theorem holdsData_of_read {line : List Char} {point : ControlPoint}
    (success : ControlPoint.read line = .ok point) : HoldsData line := by
  unfold ControlPoint.read ControlPoint.ofFields at success
  split at success
  · rename_i geoX _ _ _ _ _ _ shape
    obtain ⟨value, number, -⟩ := exists_of_bind_eq_ok success
    have member : geoX ∈ Text.words line := by simp [shape]
    obtain ⟨first, others, rfl⟩ := List.exists_cons_of_ne_nil (Text.ne_nil_of_mem_words member)
    refine ⟨first, ?_, ?_⟩
    · rw [Text.find?_shown_eq, shape]
      rfl
    · rintro rfl
      cases number
  · cases success

section Lines

variable {header : String} {count : Nat}

/-- The lines below the header. -/
def sampleLines (count : Nat) : List (List Char) :=
  (List.range count).map fun index => (samplePoint index).toList

theorem notMem_samplePoint {index : Nat} (small : index < 2 ^ 49) {c : Char}
    (blank : Text.isBlank c = true) (other : c ≠ ' ') : c ∉ (samplePoint index).toList := by
  intro member
  rw [toList_samplePoint] at member
  rcases Text.mem_of_mem_intercalate member with space | ⟨word, inside, found⟩
  · exact other space
  · obtain ⟨field, isMember, rfl⟩ := List.mem_map.mp inside
    have shown := (isField_of_mem_sampleFields small field isMember).shown c found
    rw [blank] at shown
    cases shown

/-- **The lines of a sample file** are its header and its points. -/
theorem lines_sampleFile (unbroken : '\n' ∉ header.toList) (bare : '\r' ∉ header.toList)
    (small : count ≤ 2 ^ 49) :
    Text.lines (sampleFile header count).toList = header.toList :: sampleLines count := by
  have text : (sampleFile header count).toList =
      (header.toList :: sampleLines count).flatMap (· ++ ['\n']) := by
    simp [sampleFile, sampleLines, String.toList_join, List.flatMap_map]
  rw [text]
  refine (Text.Lines.feeds (List.forall_mem_cons.mpr ⟨⟨unbroken, bare⟩, ?_⟩)).lines_eq
  intro line member
  obtain ⟨index, inside, rfl⟩ := List.mem_map.mp member
  have small : index < 2 ^ 49 := (List.mem_range.mp inside).trans_le small
  exact ⟨notMem_samplePoint small rfl (by decide), notMem_samplePoint small rfl (by decide)⟩

/-- **One more line is one more point.** -/
theorem exists_samples (small : count ≤ 2 ^ 49) :
    ∃ points, (sampleLines count).map ControlPoint.read = points.map .ok ∧
      Samples count points := by
  induction count with
  | zero => exact ⟨[], rfl, .none⟩
  | succ count ih =>
    obtain ⟨points, read, samples⟩ := ih (by omega)
    obtain ⟨point, success, isSample⟩ := exists_read_samplePoint small
    refine ⟨points ++ [point], ?_, samples.next isSample⟩
    have longer : sampleLines (count + 1) = sampleLines count ++ [(samplePoint count).toList] := by
      rw [sampleLines, List.range_succ, List.map_append]
      rfl
    rw [longer, List.map_append, read, List.map_append, List.map_singleton, success]
    rfl

end Lines

/-! ### Files -/

namespace ControlPointFile

variable {header : String} {count : Nat} {System : Type}

/-- **A header that is accepted** shows something. -/
theorem shown_of_accepted {State : Type} {resolver : Resolver (StateM State) System}
    {before after : State} {system : System}
    (accepted : (resolver.resolve header).run before = (.ok system, after)) :
    Text.allBlank header.toList = false := by
  by_contra shown
  have unread := classify_of_blank ((Bool.not_eq_false _).mp shown)
  unfold Resolver.resolve Resolver.attempt at accepted
  rw [unread] at accepted
  cases accepted

/-- **The points of a sample file** are read, once its header is resolved. -/
theorem exists_outcome_sampleLines (System : Type) (small : count ≤ 2 ^ 49) :
    ∃ points, Samples count points ∧ ∀ (header : List Char) (position : Nat) (system : System),
      outcome header position (sampleLines count) (.ok system) =
        .ok ⟨String.ofList header, system, points⟩ := by
  obtain ⟨points, read, samples⟩ := exists_samples small
  refine ⟨points, samples, fun header position system => ?_⟩
  have held : ∀ line ∈ sampleLines count, HoldsData line := by
    intro line member
    have inside : ControlPoint.read line ∈ points.map .ok := by
      rw [← read]
      exact List.mem_map_of_mem member
    obtain ⟨point, -, success⟩ := List.mem_map.mp inside
    exact holdsData_of_read success.symm
  have kept : (sampleLines count).filter HoldsData = sampleLines count :=
    List.filter_eq_self.mpr fun line member => decide_eq_true (held line member)
  rw [outcome_eq_ok_iff, kept]
  exact ⟨rfl, rfl, read⟩

/-- **A sample file is read back**, whatever the builder and the log do. -/
theorem sampleFile_reads_back {State : Type} (resolver : Resolver (StateM State) System)
    (unbroken : '\n' ∉ header.toList ∧ '\r' ∉ header.toList)
    {before after : State} {system : System}
    (accepted : (resolver.resolve header).run before = (.ok system, after))
    (small : count < 2 ^ 49) :
    ∃ file : ControlPointFile System,
      (read resolver (sampleFile header count)).run before = (.ok file, after) ∧
      file.header = header ∧ file.system = system ∧ file.points.length = count ∧
      (∀ index point, file.points[index]? = some point → IsSample index point) ∧
      file.images = ["IMG_0000.jpg", "IMG_0001.jpg"].take (min count 2) := by
  obtain ⟨points, samples, result⟩ := exists_outcome_sampleLines System small.le
  have shape : Text.lines (sampleFile header count).toList =
      [] ++ header.toList :: sampleLines count := lines_sampleFile unbroken.1 unbroken.2 small.le
  have asked := (read_of_lines resolver shape (List.forall_mem_nil _)
    (shown_of_accepted accepted)).2
  refine ⟨⟨header, system, points⟩, ?_, rfl, rfl, samples.length_eq,
    fun index point found => samples.isSample found, samples.imagesOf_eq⟩
  have read := result header.toList 1 system
  rw [String.ofList_toList] at read
  rw [asked, String.ofList_toList, StateT.run_bind, accepted]
  exact congrArg (·, after) read

/-- Twenty-five points below the header of a zone. -/
theorem sampleFile_reads_back_zone :
    ∃ file : ControlPointFile Crs,
      (read Registry.builtin.loggingResolver (sampleFile "WGS84 UTM 32N" 25)).run [] =
        (.ok file, [.info "Parsing SRS header: WGS84 UTM 32N"]) ∧
      file.points.length = 25 ∧ file.images = ["IMG_0000.jpg", "IMG_0001.jpg"] ∧
      ∃ point, file.points[24]? = some point ∧ value? point.geoX = some 500240 ∧
        point.extras = ["gcp24"] := by
  let answer := (Registry.builtin.loggingResolver.resolve "WGS84 UTM 32N").run []
  have log : answer.2 = [.info "Parsing SRS header: WGS84 UTM 32N"] := by decide +kernel
  have isOk : answer.1.toOption.isSome = true := by decide +kernel
  obtain ⟨system, accepted⟩ : ∃ system, answer = (.ok system, answer.2) := by
    cases found : answer.1 with
    | error error =>
      rw [found] at isOk
      cases isOk
    | ok system => exact ⟨system, Prod.ext found rfl⟩
  obtain ⟨file, read, -, -, length, points, images⟩ :=
    sampleFile_reads_back Registry.builtin.loggingResolver (by decide) accepted
      (by decide : 25 < 2 ^ 49)
  refine ⟨file, ?_, length, images, ?_⟩
  · rw [read, log]
  · have last : 24 < file.points.length := by
      rw [length]
      decide
    have isSample := points 24 _ (List.getElem?_eq_getElem last)
    refine ⟨_, List.getElem?_eq_getElem last, isSample.geoX.trans ?_, isSample.extras⟩
    norm_num

end ControlPointFile

end Georeference
