/-
**The text of a report keeps what the report holds.**

A report is made from a header and the system that it is resolved to, or from a file. All that it
holds is written on lines of its own, but for line feeds in the header and in the name of the
system.

### Reports that are made

* `Report.Made`: a report on a header, or on a file, over a registry that there can be.
* `Report.Described`, `Report.Made.described`: what is known of each of them. Its system has a
  definition that can be read back, and its images are named by fields.

### The theorem

`Report.text_keeps_everything` is about the reports that are made. The text of one is cut at the
line feeds into the entries that are known, each behind its label and in the order of the labels,
exactly when there is no line feed in its header and none in the name of its system
(`Report.Unbroken`). Otherwise not even the number of the pieces is that of the entries. Two reports
without such line feeds have the same text only if they are the same, each field of them, whatever
registries they were made over.

**The proof is entry by entry, once for each question.** Everything but the header and the name is
put together from words and numbers, so it has no line feed (`Report.Described.lineEach_iff`). Of
two reports with the same entries, the definitions are read back from the texts of them and are the
same; the codes and counts are told by their digits, and the names of the images by the spaces
between them. The other entries are read off the definition and need not be compared
(`Report.Described.eq_of_entries_eq`).
-/

import Georeference.Proofs.ControlPoint.Names
import Georeference.Proofs.Decimal.Natural
import Georeference.Proofs.Header.Wording
import Georeference.Proofs.Json.SingleLine
import Georeference.Proofs.Report.Lines

namespace Georeference

open Text (SingleLine)

/-! ### Values of a single line -/

theorem Definition.WellFormed.singleLine_text {definition : Definition}
    (wellFormed : definition.WellFormed) : SingleLine definition.text := by
  refine .intercalate (by decide) fun text member => ?_
  obtain ⟨parameter, inside, rfl⟩ := List.mem_map.mp member
  exact .of_shown (wellFormed.shown parameter inside)

theorem UtmZone.singleLine_text (zone : UtmZone) : SingleLine zone.text := by
  refine (SingleLine.toString_nat zone.number).append ?_
  cases zone.hemisphere <;> decide

theorem Decimal.singleLine_plainText (x : Float) : SingleLine (plainText x) := by
  unfold plainText
  split
  · decide
  · exact .ofList (List.not_mem_append (notMem_signText _) (by decide))
  · exact .ofList (List.not_mem_append (notMem_signText _) (by decide))
  · rename_i negative significand exponent shape
    obtain ⟨whole, fraction⟩ := notMem_positional (shortest .upward significand exponent)
    refine .ofList (List.not_mem_append (List.not_mem_append (notMem_signText negative) whole) ?_)
    split
    · exact List.not_mem_nil
    · exact List.not_mem_cons_of_ne_of_not_mem (by decide) fraction

theorem BoundingBox.singleLine_text (box : BoundingBox) : SingleLine box.text := by
  refine .intercalate (by decide) fun text member => ?_
  obtain ⟨edge, -, rfl⟩ := List.mem_map.mp member
  exact Decimal.singleLine_plainText edge

/-! ### Values that are told by what is written -/

theorem Decimal.toString_injective : Function.Injective (toString : Nat → String) := by
  intro first second same
  have denotes := denotesNatural_toString second
  rw [← same] at denotes
  exact (denotesNatural_toString first).unique denotes

/-- **A definition that is well formed is told by its text.** -/
theorem Definition.WellFormed.text_injective {definition other : Definition}
    (wellFormed : definition.WellFormed) (wellFormed' : other.WellFormed)
    (same : definition.text = other.text) : definition = other := by
  have found := Definition.read_text wellFormed
  rw [same, Definition.read_text wellFormed'] at found
  exact (Except.ok.inj found).symm

/-! ### Reports that are made -/

namespace Report

/-- A report on a header or a file, over a registry that there can be. -/
inductive Made : Report → Prop
  | header {registry : Registry} {header : String} {crs : Crs} (reachable : registry.Reachable)
      (accepted : registry.resolve header = .ok crs) : Made (ofCrs header crs)
  | file {registry : Registry} {text : String} {file : ControlPointFile Crs}
      (reachable : registry.Reachable)
      (success : (ControlPointFile.read registry.resolver text).run = .ok file) :
      Made (ofFile file)

/-- What is known of every report that is made. -/
inductive Described : Report → Prop
  | intro {crs : Crs} {points : Option Nat} {images : Option (List String)} (header : String)
      (wellFormed : crs.definition.WellFormed)
      (fields : ∀ names, images = some names → ∀ name ∈ names, IsField name) :
      Described { ofCrs header crs with pointCount := points, images := images }

variable {report other : Report}

theorem Made.described (made : report.Made) : report.Described := by
  cases made with
  | header reachable accepted =>
    exact .intro _ (reachable.valid_of_resolve accepted).1.wellFormed (by simp)
  | @file registry text file reachable success =>
    obtain ⟨accepted, fields⟩ := ControlPointFile.resolve_of_read success
    refine .intro _ (reachable.valid_of_resolve accepted).1.wellFormed fun names known => ?_
    rw [← Option.some.inj known]
    exact ControlPointFile.isField_of_mem_images fields

/-- The header and the name of the system have no line feed. -/
structure Unbroken (report : Report) : Prop where
  header : SingleLine report.header
  name : ∀ name, report.name = some name → SingleLine name

theorem singleLine_of_map {α : Type} {write : α → String} (single : ∀ x, SingleLine (write x))
    {known : Option α} {value : String} (shown : known.map write = some value) :
    SingleLine value := by
  obtain ⟨x, -, rfl⟩ := Option.map_eq_some_iff.mp shown
  exact single x

/-- **What takes more than a line** is the header or the name. -/
theorem Described.lineEach_iff (described : report.Described) :
    report.LineEach ↔ report.Unbroken := by
  constructor
  · intro each
    refine ⟨each ("header", report.header) (mem_known_iff.mpr ?_), fun name known =>
      each ("name", name) (mem_known_iff.mpr ?_)⟩
    · simp [entries]
    · simp [entries, known]
  · rintro ⟨header, name⟩ ⟨label, value⟩ member
    obtain ⟨text, wellFormed, fields⟩ := described
    have listed := mem_known_iff.mp member
    simp only [entries, List.mem_cons, Prod.mk.injEq, List.not_mem_nil, or_false] at listed
    rcases listed with ⟨-, shown⟩ | ⟨-, shown⟩ | ⟨-, shown⟩ | ⟨-, shown⟩ | ⟨-, shown⟩ |
      ⟨-, shown⟩ | ⟨-, shown⟩ | ⟨-, shown⟩ | ⟨-, shown⟩ | ⟨-, shown⟩ | ⟨-, shown⟩ | ⟨-, shown⟩
    · rw [Option.some.inj shown]
      exact header
    · rw [Option.some.inj shown]
      exact wellFormed.singleLine_text
    · exact singleLine_of_map SingleLine.toString_nat shown.symm
    · exact name value shown.symm
    · rw [Option.some.inj shown]
      exact wellFormed.singleLine_projection
    · exact wellFormed.singleLine_get? shown.symm
    · exact wellFormed.singleLine_get? shown.symm
    · rw [Option.some.inj shown]
      exact (by decide : ∀ geographic : Bool, SingleLine (toString geographic)) _
    · exact singleLine_of_map UtmZone.singleLine_text shown.symm
    · exact singleLine_of_map BoundingBox.singleLine_text shown.symm
    · exact singleLine_of_map SingleLine.toString_nat shown.symm
    · obtain ⟨names, known, rfl⟩ := Option.map_eq_some_iff.mp shown.symm
      exact .intercalate (by decide) fun name inside =>
        .of_shown (fields names known name inside).shown

/-- **The entries tell everything** about a report that is made. -/
theorem Described.eq_of_entries_eq (described : report.Described) (described' : other.Described)
    (same : report.entries = other.entries) : report = other := by
  obtain ⟨text, wellFormed, fields⟩ := described
  obtain ⟨text', wellFormed', fields'⟩ := described'
  rename_i crs points images crs' points' images'
  simp only [entries, List.cons.injEq, Prod.mk.injEq, true_and, and_true, Option.some.injEq] at same
  obtain ⟨header, proj4, epsg, name, -, -, -, -, -, -, count, joined⟩ := same
  have system : crs = crs' := by
    have definition : crs.definition = crs'.definition :=
      wellFormed.text_injective wellFormed' proj4
    have code : crs.epsg = crs'.epsg := Option.map_injective Decimal.toString_injective epsg
    have named : crs.name = crs'.name := name
    calc crs = ⟨crs.definition, crs.epsg, crs.name⟩ := rfl
      _ = ⟨crs'.definition, crs'.epsg, crs'.name⟩ := by rw [definition, code, named]
      _ = crs' := rfl
  have counted : points = points' := Option.map_injective Decimal.toString_injective count
  have listed : images = images' := by
    cases images with
    | none => exact (Option.map_eq_none_iff.mp joined.symm).symm
    | some names =>
      obtain ⟨names', known, alike⟩ := Option.map_eq_some_iff.mp joined.symm
      obtain rfl : images' = some names' := known
      rw [intercalate_comma_injective (fields names rfl) (fields' names' rfl) alike.symm]
  rw [system, counted, listed]
  have trimmed : String.ofList (Text.trim text.toList) = String.ofList (Text.trim text'.toList) :=
    header
  unfold ofCrs
  rw [trimmed]

/-- **The text of a report has a line for each known entry, and loses nothing.** -/
theorem text_keeps_everything :
    (∀ report : Report, report.Made →
      (Text.pieces (· == '\n') report.text.toList =
        (known report.entries).map (fun entry => (written entry).toList) ↔ report.Unbroken) ∧
      ((Text.pieces (· == '\n') report.text.toList).length = (known report.entries).length ↔
        report.Unbroken)) ∧
    ∀ report other : Report, report.Made → other.Made → report.Unbroken → other.Unbroken →
      report.text = other.text → report = other := by
  constructor
  · intro report made
    rw [← made.described.lineEach_iff]
    exact ⟨pieces_text_iff report, length_pieces_text_iff report⟩
  · intro report other made made' unbroken unbroken' same
    refine made.described.eq_of_entries_eq made'.described ?_
    exact entries_eq_of_text_eq (made.described.lineEach_iff.mpr unbroken)
      (made'.described.lineEach_iff.mpr unbroken') same

/-- A report with a line for each entry, and one with a header of two. -/
theorem text_keeps_everything_two_lines :
    let pieces (report : Report) := Text.pieces (· == '\n') report.text.toList
    let shown (report : Report) := (known report.entries).map fun entry => (written entry).toList
    let broken := "+proj=longlat\n+datum=WGS84"
    ∃ crs crs', Registry.builtin.resolve "EPSG:4326" = .ok crs ∧
      Registry.builtin.resolve broken = .ok crs' ∧
      pieces (ofCrs "EPSG:4326" crs) = shown (ofCrs "EPSG:4326" crs) ∧
      pieces (ofCrs broken crs') ≠ shown (ofCrs broken crs') := by
  intro pieces shown broken
  have accepted : Registry.builtin.resolve "EPSG:4326" =
      .ok (Entry.crs ⟨4326, "WGS 84", Builtin.geographic (.assign "datum" "WGS84")⟩) := by
    decide +kernel
  have accepted' : Registry.builtin.resolve broken =
      .ok (Crs.ofValid ⟨[.assign "proj" "longlat", .assign "datum" "WGS84"]⟩) := by
    decide +kernel
  obtain ⟨cut, -⟩ := text_keeps_everything
  refine ⟨_, _, accepted, accepted', (cut _ (.header .builtin accepted)).1.mpr ⟨?_, ?_⟩,
    mt (cut _ (.header .builtin accepted')).1.mp fun unbroken => unbroken.header ?_⟩
  · show SingleLine (String.ofList (Text.trim "EPSG:4326".toList))
    decide
  · intro name known
    obtain rfl : "WGS 84" = name := Option.some.inj known
    decide
  · show '\n' ∈ (String.ofList (Text.trim broken.toList)).toList
    decide +kernel

end Report

end Georeference
