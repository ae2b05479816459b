/-
**The lines of a report.**

As text a report has a line for each entry that is known: its label, a colon, a space and what is
known. No label has a colon, so a line tells where its label ends, and the labels differ, so the
lines tell which entries are known.

### Joined lines

`Text.pieces_intercalate_iff` and `Text.length_pieces_intercalate_iff`: joined lines are cut into
the lines again, or into as many, exactly when none has a line feed.

### Entries

* `Report.entries`, `Report.known`, `Report.lines_eq`: the lines of a report from its entries.
* `Report.pieces_text_iff`: the text is cut into the known entries exactly when each takes a line
  (`Report.LineEach`).
* `Report.cut?_written`, `Report.eq_of_map_written`: a label is cut off its line, so the lines tell
  the entries.
* `Report.known_injective`: entries that are known alike are alike.
* `Report.entries_eq_of_text_eq`: equal texts have equal entries, if these take a line each.

**The proof goes line by line.** No line gives less than one piece, so there are as many pieces as
lines only if each gives exactly one. Two lines that are alike are cut at their first colons, and
these stand behind the labels. For the entries that are not known the labels decide, by induction on
the list of them: if the first entry is known on one side only, then on the other side its label
would have to be that of a later entry, and no label comes twice.
-/

import Georeference.Proofs.Text.Lines
import Georeference.Proofs.Text.Search
import Georeference.Report

namespace Georeference

/-! ### Joined lines -/

namespace Text

variable {mark : Char} {line : List Char} {all : List (List Char)}

/-- Each of joined lines is cut on its own. -/
theorem pieces_intercalate (mark : Char) (nonempty : all ≠ []) :
    pieces (· == mark) ([mark].intercalate all) = all.flatMap (pieces (· == mark)) := by
  induction all with
  | nil => exact absurd rfl nonempty
  | cons first rest ih =>
    cases rest with
    | nil => rw [List.intercalate_singleton, List.flatMap_singleton]
    | cons next others =>
      rw [List.intercalate_cons_cons, List.append_assoc, List.singleton_append,
        @pieces_append_cons (· == mark) mark (by simp), ih (List.cons_ne_nil _ _)]
      exact List.flatMap_cons.symm

theorem length_pieces_eq_one_iff : (pieces (· == mark) line).length = 1 ↔ mark ∉ line := by
  constructor
  · intro one inside
    obtain ⟨before, after, rfl⟩ := List.append_of_mem inside
    have front := List.length_pos_iff.mpr (pieces_ne_nil (· == mark) before)
    have back := List.length_pos_iff.mpr (pieces_ne_nil (· == mark) after)
    rw [@pieces_append_cons (· == mark) mark (by simp), List.length_append] at one
    omega
  · intro free
    have apart : ∀ c ∈ line, (c == mark) = false := fun c member =>
      beq_eq_false_iff_ne.mpr fun same => free (same ▸ member)
    rw [pieces_of_free apart]
    rfl

/-- **Joined lines are cut into the lines again** if none has the mark. -/
theorem pieces_intercalate_iff (nonempty : all ≠ []) :
    pieces (· == mark) ([mark].intercalate all) = all ↔ ∀ line ∈ all, mark ∉ line := by
  constructor
  · intro same line member inside
    have apart := not_separates_of_mem_pieces (· == mark) _ line (same ▸ member) mark inside
    exact absurd apart (by simp)
  · intro free
    rw [pieces_eq_splitOnP, ← List.splitOn_eq_splitOnP]
    exact List.splitOn_intercalate mark free nonempty

theorem length_le_length_flatMap_pieces (mark : Char) (all : List (List Char)) :
    all.length ≤ (all.flatMap (pieces (· == mark))).length := by
  induction all with
  | nil => exact Nat.le_refl _
  | cons first rest ih =>
    have front := List.length_pos_iff.mpr (pieces_ne_nil (· == mark) first)
    rw [List.length_cons, List.flatMap_cons, List.length_append]
    omega

/-- **Joined lines are cut into as many pieces** if none has the mark. -/
theorem length_pieces_intercalate_iff (nonempty : all ≠ []) :
    (pieces (· == mark) ([mark].intercalate all)).length = all.length ↔
      ∀ line ∈ all, mark ∉ line := by
  constructor
  · rw [pieces_intercalate mark nonempty]
    clear nonempty
    intro same
    induction all with
    | nil => exact fun _ member => by cases member
    | cons first rest ih =>
      have front := List.length_pos_iff.mpr (pieces_ne_nil (· == mark) first)
      have back := length_le_length_flatMap_pieces mark rest
      rw [List.flatMap_cons, List.length_append, List.length_cons] at same
      exact List.forall_mem_cons.mpr
        ⟨length_pieces_eq_one_iff.mp (by omega), ih (by omega)⟩
  · intro free
    rw [(pieces_intercalate_iff nonempty).mpr free]

end Text

/-! ### Entries -/

namespace Report

variable {first second : List (String × Option String)} {entry : String × String}

/-- The entries of a report, each with what is known. -/
def entries (report : Report) : List (String × Option String) :=
  [("header", some report.header),
    ("proj4", some report.proj4),
    ("epsg", report.epsg.map toString),
    ("name", report.name),
    ("projection", some report.projection),
    ("datum", report.datum),
    ("units", report.units),
    ("geographic", some (toString report.geographic)),
    ("utm_zone", report.utmZone.map UtmZone.text),
    ("area_of_use", report.areaOfUse.map BoundingBox.text),
    ("gcp_count", report.pointCount.map toString),
    ("images", report.images.map (", ".intercalate ·))]

/-- The entries that are known. -/
def known (entries : List (String × Option String)) : List (String × String) :=
  entries.flatMap fun entry => entry.2.toList.map (entry.1, ·)

/-- An entry on its line. -/
def written (entry : String × String) : String :=
  entry.1 ++ ": " ++ entry.2

/-- The labels of the entries of any report. -/
def labels : List String :=
  ["header", "proj4", "epsg", "name", "projection", "datum", "units", "geographic", "utm_zone",
    "area_of_use", "gcp_count", "images"]

theorem map_fst_entries (report : Report) : report.entries.map Prod.fst = labels :=
  rfl

theorem nodup_labels : labels.Nodup := by
  decide

theorem colon_notMem_of_mem_labels : ∀ label ∈ labels, ':' ∉ label.toList := by
  decide

theorem singleLine_of_mem_labels : ∀ label ∈ labels, Text.SingleLine label := by
  decide

theorem mem_known_iff {label value : String} :
    (label, value) ∈ known first ↔ (label, some value) ∈ first := by
  unfold known
  rw [List.mem_flatMap]
  constructor
  · rintro ⟨⟨other, held⟩, member, inside⟩
    obtain ⟨found, here, same⟩ := List.mem_map.mp inside
    obtain ⟨rfl, rfl⟩ := Prod.mk.inj same
    obtain rfl : held = some found := Option.mem_toList.mp here
    exact member
  · intro member
    exact ⟨(label, some value), member, List.mem_cons_self⟩

theorem map_fst_known_subset (entries : List (String × Option String)) :
    (known entries).map Prod.fst ⊆ entries.map Prod.fst := by
  intro label member
  obtain ⟨⟨other, value⟩, inside, rfl⟩ := List.mem_map.mp member
  exact List.mem_map.mpr ⟨(other, some value), mem_known_iff.mp inside, rfl⟩

/-- **The lines of a report** are its entries that are known. -/
theorem lines_eq (report : Report) : report.lines = (known report.entries).map written := by
  have each : ∀ label value, line label value = (value.toList.map (label, ·)).map written := by
    intro label value
    rw [List.map_map]
    rfl
  unfold known
  simp only [lines, entries, List.flatMap_cons, List.flatMap_nil, List.map_append, List.append_nil,
    ← each, List.append_assoc]

theorem toList_text (report : Report) :
    report.text.toList =
      ['\n'].intercalate ((known report.entries).map fun entry => (written entry).toList) := by
  rw [text, String.toList_intercalate, lines_eq, List.map_map]
  rfl

theorem map_written_ne_nil (report : Report) :
    ((known report.entries).map fun entry => (written entry).toList) ≠ [] :=
  List.cons_ne_nil _ _

/-- What is known takes a line for each entry. -/
def LineEach (report : Report) : Prop :=
  ∀ entry ∈ known report.entries, Text.SingleLine entry.2

theorem notMem_written_iff {report : Report} :
    (∀ line ∈ (known report.entries).map (fun entry => (written entry).toList), '\n' ∉ line) ↔
      report.LineEach := by
  rw [List.forall_mem_map]
  refine forall₂_congr fun entry member => ?_
  have label : '\n' ∉ entry.1.toList := by
    refine singleLine_of_mem_labels entry.1 ?_
    rw [← map_fst_entries report]
    exact map_fst_known_subset _ (List.mem_map_of_mem member)
  rw [written, String.toList_append, String.toList_append, List.mem_append, List.mem_append,
    or_iff_right (not_or.mpr ⟨label, by decide⟩)]
  rfl

/-- **The text of a report is cut into its entries** when each takes a line. -/
theorem pieces_text_iff (report : Report) :
    Text.pieces (· == '\n') report.text.toList =
        (known report.entries).map (fun entry => (written entry).toList) ↔ report.LineEach := by
  rw [toList_text, Text.pieces_intercalate_iff (map_written_ne_nil report), notMem_written_iff]

theorem length_pieces_text_iff (report : Report) :
    (Text.pieces (· == '\n') report.text.toList).length = (known report.entries).length ↔
      report.LineEach := by
  rw [← List.length_map (fun entry => (written entry).toList), toList_text,
    Text.length_pieces_intercalate_iff (map_written_ne_nil report), notMem_written_iff]

/-! ### Entries that are read back -/

theorem cut?_written (entry : String × String) (free : ':' ∉ entry.1.toList) :
    Text.cut? [':'] (written entry).toList = some (entry.1.toList, ' ' :: entry.2.toList) := by
  have shape : (written entry).toList = entry.1.toList ++ ':' :: ' ' :: entry.2.toList := by
    simp [written, String.toList_append]
  rw [shape, Text.cut?_append_cons free]

/-- **Lines that are alike** are those of entries that are alike. -/
theorem eq_of_map_written {here there : List (String × String)}
    (free : ∀ entry ∈ here, ':' ∉ entry.1.toList) (free' : ∀ entry ∈ there, ':' ∉ entry.1.toList)
    (same : here.map (fun entry => (written entry).toList) =
      there.map fun entry => (written entry).toList) : here = there := by
  induction here generalizing there with
  | nil => exact (List.map_eq_nil_iff.mp same.symm).symm
  | cons entry rest ih =>
    obtain ⟨other, rest', rfl, head, tail⟩ := List.map_eq_cons_iff.mp same.symm
    obtain ⟨front, back⟩ := List.forall_mem_cons.mp free
    obtain ⟨front', back'⟩ := List.forall_mem_cons.mp free'
    have head : (written other).toList = (written entry).toList := head
    have cuts := cut?_written entry front
    rw [← head, cut?_written other front', Option.some.injEq, Prod.mk.injEq, List.cons.injEq,
      String.toList_inj, String.toList_inj] at cuts
    rw [ih back back' tail.symm, Prod.ext cuts.1.symm cuts.2.2.symm]

/-- **Entries that are known alike are alike**, under the same labels. -/
theorem known_injective (labelled : first.map Prod.fst = second.map Prod.fst)
    (distinct : (first.map Prod.fst).Nodup) (same : known first = known second) :
    first = second := by
  induction first generalizing second with
  | nil => exact (List.map_eq_nil_iff.mp labelled.symm).symm
  | cons entry rest ih =>
    obtain ⟨label, value⟩ := entry
    obtain ⟨⟨other, value'⟩, rest', rfl, head, tail⟩ := List.map_eq_cons_iff.mp labelled.symm
    obtain rfl : other = label := head
    obtain ⟨absent, apart⟩ := List.nodup_cons.mp distinct
    have later : ∀ {shown : String} {more : List (String × String)},
        known rest ≠ (other, shown) :: more := fun shape =>
      absent (map_fst_known_subset rest (shape ▸ List.mem_cons_self))
    have later' : ∀ {shown : String} {more : List (String × String)},
        known rest' ≠ (other, shown) :: more := fun shape =>
      absent (tail ▸ map_fst_known_subset rest' (shape ▸ List.mem_cons_self))
    cases value with
    | none =>
      cases value' with
      | none => rw [ih tail.symm apart same]
      | some shown => exact absurd same later
    | some shown =>
      cases value' with
      | none => exact absurd same.symm later'
      | some shown' =>
        obtain ⟨held, same⟩ := List.cons.inj same
        rw [ih tail.symm apart same, (Prod.mk.inj held).2]

/-- **Equal texts have equal entries**, when the entries take a line each. -/
theorem entries_eq_of_text_eq {report other : Report} (each : report.LineEach)
    (each' : other.LineEach) (same : report.text = other.text) :
    report.entries = other.entries := by
  have free : ∀ (report : Report), ∀ entry ∈ known report.entries, ':' ∉ entry.1.toList := by
    intro report entry member
    refine colon_notMem_of_mem_labels entry.1 ?_
    rw [← map_fst_entries report]
    exact map_fst_known_subset _ (List.mem_map_of_mem member)
  refine known_injective rfl nodup_labels (eq_of_map_written (free report) (free other) ?_)
  rw [← (pieces_text_iff report).mpr each, same, (pieces_text_iff other).mpr each']

end Report

end Georeference
