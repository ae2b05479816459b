/-
**The ends of lines do not matter to a file of control points.**

Of a file only the lines count, and an empty line at the end counts for nothing; so the file is read
alike, in whatever way the resolver answers, keeps a log or fails.

### Lines

* `Text.withReturns`, `Text.Lines.withReturns`: with a carriage return before each of its line feeds
  a text falls into the same lines, if it had none.
* `Text.Lines.append_feed`: with one more line feed at its end a text falls into the same lines, if
  its last line is not ended, or into these and an empty one.

### The theorem

* `ControlPointFile.Alike`: two texts have the same header, and reading the one with a resolver is
  reading the other with it.
* `ControlPointFile.alike_of_lines`, `ControlPointFile.alike_of_blank_behind`: this is so of texts
  with the same lines, and with one more line that shows nothing.
* `ControlPointFile.read_line_ends`: it is so of both changes. Whatever resolver reads the texts,
  whatever its builder answers and wherever its log goes, the file is the same, or the error for the
  same line. What is recorded on the way, the calls of the builder with their answers and the
  messages to the log, is the same in the same order.

**The proof is that reading looks at lines only.** Both changes are followed by induction on how the
text falls into lines, with no carriage return anywhere in it. A file of blank lines is read without
a resolver. In any other file one more blank line stands below the header and holds no point, so
neither the header nor the places of the other lines change. The record needs no proof of its own,
because a resolver that records is a resolver too.
-/

import Georeference.Proofs.ControlPoint.Lines
import Georeference.Proofs.Header.Exchange
import Georeference.Proofs.Text.Lines

namespace Georeference

deriving instance DecidableEq for Event

/-! ### The lines of a text -/

namespace Text

/-- The text with a carriage return before each line feed. -/
def withReturns (text : List Char) : List Char :=
  text.flatMap fun c => if c = '\n' then ['\r', '\n'] else [c]

variable {text line rest : List Char} {all : List (List Char)}

theorem withReturns_of_unbroken (unbroken : '\n' ∉ line) : withReturns line = line := by
  induction line with
  | nil => rfl
  | cons c later ih =>
    obtain ⟨other, unbroken⟩ := not_or.mp (mt List.mem_cons.mpr unbroken)
    rw [withReturns, List.flatMap_cons, if_neg (Ne.symm other)]
    exact congrArg (c :: ·) (ih unbroken)

theorem withReturns_append_feed (unbroken : '\n' ∉ line) :
    withReturns (line ++ '\n' :: rest) = line ++ '\r' :: '\n' :: withReturns rest := by
  have same := withReturns_of_unbroken unbroken
  rw [withReturns] at same ⊢
  rw [List.flatMap_append, List.flatMap_cons, if_pos rfl, same]
  rfl

/-- **With carriage returns before its line feeds** a text has the same lines. -/
theorem Lines.withReturns (falls : Lines text all) (bare : '\r' ∉ text) :
    Lines (withReturns text) all := by
  induction falls with
  | nil => exact .nil
  | last nonempty unbroken =>
    rw [withReturns_of_unbroken unbroken]
    exact .last nonempty unbroken
  | feed unbroken _ _ ih =>
    rw [withReturns_append_feed unbroken]
    exact .returnFeed unbroken (ih fun inside => bare (by simp [inside]))
  | returnFeed => exact absurd (by simp) bare

/-- **With one more line feed** a text has the same lines, or an empty one more. -/
theorem Lines.append_feed (falls : Lines text all) (bare : '\r' ∉ text) :
    Lines (text ++ ['\n']) all ∨ Lines (text ++ ['\n']) (all ++ [[]]) := by
  induction falls with
  | nil => exact Or.inr (.feed List.not_mem_nil nofun .nil)
  | last nonempty unbroken =>
    exact Or.inl (.feed unbroken (fun last => bare (List.mem_of_getLast? last)) .nil)
  | feed unbroken ended _ ih =>
    rw [List.append_assoc, List.cons_append]
    rcases ih fun inside => bare (by simp [inside]) with same | longer
    · exact Or.inl (.feed unbroken ended same)
    · exact Or.inr (.feed unbroken ended longer)
  | returnFeed => exact absurd (by simp) bare

end Text

/-! ### Points -/

/-- There is no point on a line that shows nothing. -/
theorem not_holdsData_of_blank {line : List Char} (blank : Text.allBlank line = true) :
    ¬ HoldsData line := by
  rintro ⟨first, found, -⟩
  have member := List.mem_of_find?_eq_some found
  have shown := List.find?_some found
  rw [List.all_eq_true.mp blank first member] at shown
  cases shown

/-- A line without a point behind others changes nothing. -/
theorem readPointsFrom_append_skip (earlier : Nat) (lines : List (List Char)) {line : List Char}
    (skipped : ¬ HoldsData line) :
    readPointsFrom earlier (lines ++ [line]) = readPointsFrom earlier lines := by
  rw [readPointsFrom, numberFrom_append, List.filter_append, numberFrom_cons, List.filter_cons,
    if_neg (mt holdsPoint_iff.mp skipped)]
  exact congrArg readPoints (List.append_nil _)

/-! ### Files -/

namespace ControlPointFile

/-- **Two texts that are read alike** by any resolver. -/
structure Alike (text other : String) : Prop where
  header : headerLine? text = headerLine? other
  reading {m : Type → Type} [Monad m] {System : Type} (resolver : Resolver m System) :
    read resolver text = read resolver other

variable {text other : String}

/-- Only the lines of a text are read. -/
theorem alike_of_lines (same : Text.lines text.toList = Text.lines other.toList) :
    Alike text other := by
  have numbered : Text.numberedLines text.toList = Text.numberedLines other.toList := by
    rw [Text.numberedLines, same, ← Text.numberedLines]
  have first : Text.firstShown? text.toList = Text.firstShown? other.toList := by
    rw [Text.firstShown?, numbered, ← Text.firstShown?]
  have below : ∀ position, pointLines position text = pointLines position other := by
    intro position
    rw [pointLines, numbered, ← pointLines]
  constructor
  · rw [headerLine?, first, ← headerLine?]
  · intro m _ System resolver
    rw [read, first, read]
    simp only [below]

/-- A line that shows nothing behind all others changes no outcome. -/
theorem outcome_append_blank {System : Type} (header : List Char) (position : Nat)
    (below : List (List Char)) {line : List Char} (blank : Text.allBlank line = true)
    (answer : Except HeaderError System) :
    outcome header position (below ++ [line]) answer = outcome header position below answer := by
  cases answer with
  | error error => rfl
  | ok system =>
    rw [outcome, readPointsFrom_append_skip position below (not_holdsData_of_blank blank)]
    rfl

/-- **A line that shows nothing behind all others** is not read. -/
theorem alike_of_blank_behind {line : List Char} (blank : Text.allBlank line = true)
    (longer : Text.lines text.toList = Text.lines other.toList ++ [line]) : Alike text other := by
  rcases Text.blank_or_shown other.toList with
    unshown | ⟨before, header, after, shape, front, shown⟩
  · have unshown' : ∀ line ∈ Text.lines text.toList, Text.allBlank line = true := by
      rw [longer]
      exact List.forall_mem_append.mpr ⟨unshown, List.forall_mem_singleton.mpr blank⟩
    constructor
    · rw [(read_of_blank Registry.builtin.resolver unshown').1,
        (read_of_blank Registry.builtin.resolver unshown).1]
    · intro m _ System resolver
      rw [(read_of_blank resolver unshown').2, (read_of_blank resolver unshown).2]
  · have shape' : Text.lines text.toList = before ++ header :: (after ++ [line]) := by
      rw [longer, shape, List.append_assoc, List.cons_append]
    constructor
    · rw [(read_of_lines Registry.builtin.resolver shape' front shown).1,
        (read_of_lines Registry.builtin.resolver shape front shown).1]
    · intro m _ System resolver
      rw [(read_of_lines resolver shape' front shown).2,
        (read_of_lines resolver shape front shown).2]
      simp only [outcome_append_blank header _ after blank]

/-! ### Line ends -/

theorem alike_withReturns (bare : '\r' ∉ text.toList) :
    Alike (String.ofList (Text.withReturns text.toList)) text := by
  obtain ⟨all, falls⟩ := Text.exists_lines text.toList
  refine alike_of_lines ?_
  rw [String.toList_ofList, (falls.withReturns bare).lines_eq, falls.lines_eq]

theorem alike_append_feed (bare : '\r' ∉ text.toList) : Alike (text ++ "\n") text := by
  obtain ⟨all, falls⟩ := Text.exists_lines text.toList
  have ended : (text ++ "\n").toList = text.toList ++ ['\n'] := String.toList_append
  rcases falls.append_feed bare with same | longer
  · refine alike_of_lines ?_
    rw [ended, same.lines_eq, falls.lines_eq]
  · refine alike_of_blank_behind (rfl : Text.allBlank [] = true) ?_
    rw [ended, longer.lines_eq, falls.lines_eq]

/-- **The ends of lines do not matter** to what is read and recorded. -/
theorem read_line_ends {m : Type → Type} [Monad m] {System : Type} (resolver : Resolver m System)
    {text other : String} (bare : '\r' ∉ text.toList)
    (ends : other = String.ofList (Text.withReturns text.toList) ∨ other = text ++ "\n") :
    headerLine? other = headerLine? text ∧
    read resolver other = read resolver text ∧
    ∀ earlier : List (Event System),
      (read resolver.recorded other).run earlier = (read resolver.recorded text).run earlier := by
  have alike : Alike other text := by
    rcases ends with rfl | rfl
    · exact alike_withReturns bare
    · exact alike_append_feed bare
  refine ⟨alike.header, alike.reading resolver, fun earlier => ?_⟩
  rw [alike.reading resolver.recorded]

/-- A file with a blank and a malformed line, and its ends changed twice. -/
theorem read_line_ends_of_four_lines :
    let resolver := Resolver.recording none
    let text := "\nEPSG:4326\n1 2 3 4 5 a.jpg\n1 2\n"
    let returned := "\r\nEPSG:4326\r\n1 2 3 4 5 a.jpg\r\n1 2\r\n"
    let answer : Except ControlPointError (ControlPointFile BuilderCall) × Transcript BuilderCall :=
      (.error (.point 4 (.tooFewFields 2)),
        [.told (.info "Parsing SRS header: EPSG:4326"),
          .asked (.fromEpsg "4326") (.ok (.fromEpsg "4326"))])
    headerLine? returned = some "EPSG:4326" ∧ headerLine? (text ++ "\n") = some "EPSG:4326" ∧
      ((read resolver returned).run .blank).run = answer ∧
      ((read resolver (text ++ "\n")).run .blank).run = answer := by
  intro resolver text returned answer
  have bare : '\r' ∉ text.toList := by decide
  have same : returned = String.ofList (Text.withReturns text.toList) := by decide
  have header : headerLine? text = some "EPSG:4326" := by decide +kernel
  have reading : ((read resolver text).run .blank).run = answer := by decide +kernel
  obtain ⟨header', reading', -⟩ := read_line_ends resolver bare (.inl same)
  obtain ⟨header'', reading'', -⟩ := read_line_ends resolver bare (.inr rfl)
  refine ⟨header'.trans header, header''.trans header, ?_, ?_⟩
  · rw [reading']
    exact reading
  · rw [reading'']
    exact reading

end ControlPointFile

end Georeference
