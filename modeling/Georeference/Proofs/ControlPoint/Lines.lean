/-
**What is read from the lines of a file of control points.**

The first line that shows something is the header, and the points are on the later lines whose first
shown character is not `#`. Lines are counted from one, blank ones and comments included.

### Lines

* `numberFrom`: lines with their positions, behind a number of earlier lines.
* `Text.blank_or_shown`, `Text.firstShown?_of_lines`: which line is the header, if any.
* `HoldsData`: a line on which there is a point.

### Points

`readPointsFrom_eq_ok_iff` and `readPointsFrom_eq_error_iff` say which points are read from the
lines below the header, and which line is blamed.

### The theorem

`ControlPointFile.reads_header_and_points`: if all lines of a file are blank, it has no header and
the resolver is not asked. Otherwise the first line that is not blank is the header, as it is
written, and the resolver is asked for it and for nothing else. If the header is refused, so is the
file, whatever stands below. If it is resolved, the file is read exactly when each line below that
holds a point can be read, and then it has those points in their order; otherwise the first line
that cannot be read is blamed, by its place among all lines of the file.

**The proof is by induction on the lines, for any number of earlier ones.** A line without a point
is passed over, one with a point that can be read adds it, and any other one ends the reading with
its own place, which is that number and one more. For the line that is blamed, the lines before it
are read first, and reading goes on behind them with their number (`readPointsFrom_append`).
-/

import Georeference.ControlPoint.File
import Mathlib.Data.List.Basic

namespace Georeference

/-! ### Positions -/

/-- Lines with their positions, behind a number of earlier lines. -/
def numberFrom (earlier : Nat) (lines : List (List Char)) : List (Nat × List Char) :=
  (lines.zipIdx earlier).map fun (line, index) => (index + 1, line)

theorem numberFrom_cons (earlier : Nat) (line : List Char) (rest : List (List Char)) :
    numberFrom earlier (line :: rest) = (earlier + 1, line) :: numberFrom (earlier + 1) rest := by
  rw [numberFrom, List.zipIdx_cons, List.map_cons]
  rfl

theorem numberFrom_append (earlier : Nat) (first second : List (List Char)) :
    numberFrom earlier (first ++ second) =
      numberFrom earlier first ++ numberFrom (earlier + first.length) second := by
  rw [numberFrom, List.zipIdx_append, List.map_append]
  rfl

theorem length_numberFrom (earlier : Nat) (lines : List (List Char)) :
    (numberFrom earlier lines).length = lines.length := by
  rw [numberFrom, List.length_map, List.length_zipIdx]

theorem mem_of_mem_numberFrom {earlier position : Nat} {lines : List (List Char)}
    {line : List Char} (member : (position, line) ∈ numberFrom earlier lines) : line ∈ lines := by
  obtain ⟨⟨found, index⟩, inside, same⟩ := List.mem_map.mp member
  obtain ⟨-, rfl⟩ := Prod.mk.inj same
  exact List.fst_mem_of_mem_zipIdx inside

/-! ### The header -/

namespace Text

variable {text : List Char}

/-- All lines are blank, or there is a first one that is not. -/
theorem blank_or_shown (text : List Char) :
    (∀ line ∈ lines text, allBlank line = true) ∨
      ∃ before header after, lines text = before ++ header :: after ∧
        (∀ line ∈ before, allBlank line = true) ∧ allBlank header = false := by
  cases found : (lines text).find? (fun line => !allBlank line) with
  | none =>
    refine Or.inl fun line member => ?_
    simpa using List.find?_eq_none.mp found line member
  | some header =>
    obtain ⟨shown, before, after, shape, blank⟩ := List.find?_eq_some_iff_append.mp found
    exact Or.inr ⟨before, header, after, shape, by simpa using blank, by simpa using shown⟩

theorem find?_numberFrom_eq_none {earlier : Nat} {lines : List (List Char)}
    (blank : ∀ line ∈ lines, allBlank line = true) :
    (numberFrom earlier lines).find? (fun (_, line) => !allBlank line) = none := by
  rw [List.find?_eq_none]
  rintro ⟨position, line⟩ member
  simp [blank line (mem_of_mem_numberFrom member)]

theorem firstShown?_of_blank (blank : ∀ line ∈ lines text, allBlank line = true) :
    firstShown? text = none :=
  find?_numberFrom_eq_none blank

/-- **The header** is the first line that is not blank. -/
theorem firstShown?_of_lines {before after : List (List Char)} {header : List Char}
    (shape : lines text = before ++ header :: after)
    (blank : ∀ line ∈ before, allBlank line = true) (shown : allBlank header = false) :
    firstShown? text = some (before.length + 1, header) := by
  have numbered : numberedLines text = numberFrom 0 (lines text) := rfl
  rw [firstShown?, numbered, shape, numberFrom_append, List.find?_append,
    find?_numberFrom_eq_none blank, Option.none_or, numberFrom_cons, Nat.zero_add,
    List.find?_cons_of_pos (by simp [shown])]

end Text

/-! ### The points -/

/-- The first shown character of a line, if there is one, is not `#`. -/
def HoldsData (line : List Char) : Prop :=
  ∃ first, line.find? (fun c => !Text.isBlank c) = some first ∧ first ≠ '#'

theorem holdsPoint_iff {line : List Char} : holdsPoint line = true ↔ HoldsData line := by
  unfold holdsPoint HoldsData Text.trimStart
  induction line with
  | nil => simp
  | cons c rest ih =>
    cases blank : Text.isBlank c with
    | true =>
      rw [List.dropWhile_cons_of_pos blank, List.find?_cons_of_neg (by simp [blank])]
      exact ih
    | false => simp [blank]

instance : DecidablePred HoldsData := fun _ => decidable_of_iff _ holdsPoint_iff

/-- The points on lines that stand behind a number of earlier ones. -/
def readPointsFrom (earlier : Nat) (lines : List (List Char)) :
    Except ControlPointError (List ControlPoint) :=
  readPoints ((numberFrom earlier lines).filter fun numbered => holdsPoint numbered.2)

/-- The points of a file are read from the lines behind its header. -/
theorem readPoints_pointLines {text : String} {before after : List (List Char)}
    {header : List Char} (shape : Text.lines text.toList = before ++ header :: after) :
    readPoints (pointLines (before.length + 1) text) =
      readPointsFrom (before.length + 1) after := by
  have numbered : Text.numberedLines text.toList = numberFrom 0 (Text.lines text.toList) := rfl
  rw [pointLines, numbered, shape, numberFrom_append, numberFrom_cons, Nat.zero_add,
    List.append_cons, List.drop_left' (by simp [length_numberFrom])]
  rfl

section Points

variable {earlier : Nat} {line : List Char} {lines : List (List Char)}

theorem readPointsFrom_skip (skipped : ¬ HoldsData line) :
    readPointsFrom earlier (line :: lines) = readPointsFrom (earlier + 1) lines := by
  rw [readPointsFrom, numberFrom_cons, List.filter_cons, if_neg (mt holdsPoint_iff.mp skipped)]
  rfl

theorem readPointsFrom_error (held : HoldsData line) {fault : PointFault}
    (failure : ControlPoint.read line = .error fault) :
    readPointsFrom earlier (line :: lines) = .error (.point (earlier + 1) fault) := by
  rw [readPointsFrom, numberFrom_cons, List.filter_cons, if_pos (holdsPoint_iff.mpr held),
    readPoints, failure]

theorem readPointsFrom_ok (held : HoldsData line) {point : ControlPoint}
    (success : ControlPoint.read line = .ok point) :
    readPointsFrom earlier (line :: lines) =
      (readPointsFrom (earlier + 1) lines).map (point :: ·) := by
  rw [readPointsFrom, numberFrom_cons, List.filter_cons, if_pos (holdsPoint_iff.mpr held),
    readPoints, success]
  rfl

/-- **The points that are read** are those of the lines with one. -/
theorem readPointsFrom_eq_ok_iff (earlier : Nat) {points : List ControlPoint} :
    readPointsFrom earlier lines = .ok points ↔
      (lines.filter HoldsData).map ControlPoint.read = points.map .ok := by
  induction lines generalizing earlier points with
  | nil =>
    rw [List.filter_nil, List.map_nil, eq_comm (a := []), List.map_eq_nil_iff]
    exact ⟨fun success => (Except.ok.inj success).symm, fun empty => congrArg Except.ok empty.symm⟩
  | cons line rest ih =>
    by_cases held : HoldsData line
    · rw [List.filter_cons_of_pos (by simpa using held), List.map_cons]
      cases first : ControlPoint.read line with
      | error fault =>
        rw [readPointsFrom_error held first]
        refine iff_of_false (by simp) fun same => ?_
        obtain ⟨point, others, -, head, -⟩ := List.map_eq_cons_iff.mp same.symm
        cases head
      | ok point =>
        rw [readPointsFrom_ok held first]
        cases later : readPointsFrom (earlier + 1) rest with
        | error error =>
          refine iff_of_false (by simp [Except.map]) fun same => ?_
          obtain ⟨other, others, -, -, tail⟩ := List.map_eq_cons_iff.mp same.symm
          rw [(ih (earlier + 1)).mpr tail.symm] at later
          cases later
        | ok others =>
          constructor
          · intro success
            rw [← Except.ok.inj success, List.map_cons, (ih (earlier + 1)).mp later]
          · intro same
            obtain ⟨other, behind, rfl, head, tail⟩ := List.map_eq_cons_iff.mp same.symm
            have others_eq := (ih (earlier + 1)).mpr tail.symm
            rw [later] at others_eq
            rw [Except.ok.inj head, ← Except.ok.inj others_eq]
            rfl
    · rw [readPointsFrom_skip held, List.filter_cons_of_neg (by simpa using held), ih (earlier + 1)]

/-- If a line holds a point, the point can be read. -/
def Readable (line : List Char) : Prop :=
  HoldsData line → ∃ point, ControlPoint.read line = .ok point

/-- **Behind readable lines** reading goes on, and keeps what they hold. -/
theorem readPointsFrom_append (earlier : Nat) (lines : List (List Char))
    {skipped : List (List Char)} (readable : ∀ line ∈ skipped, Readable line) :
    ∃ points, readPointsFrom earlier (skipped ++ lines) =
      (readPointsFrom (earlier + skipped.length) lines).map (points ++ ·) := by
  induction skipped generalizing earlier with
  | nil =>
    refine ⟨[], ?_⟩
    rw [List.nil_append, List.length_nil, Nat.add_zero]
    cases readPointsFrom earlier lines <;> rfl
  | cons line rest ih =>
    obtain ⟨first, others⟩ := List.forall_mem_cons.mp readable
    obtain ⟨points, later⟩ := ih (earlier + 1) others
    rw [List.cons_append, List.length_cons, ← Nat.add_assoc, Nat.add_right_comm]
    by_cases held : HoldsData line
    · obtain ⟨point, success⟩ := first held
      refine ⟨point :: points, ?_⟩
      rw [readPointsFrom_ok held success, later]
      cases readPointsFrom (earlier + 1 + rest.length) lines <;> rfl
    · exact ⟨points, by rw [readPointsFrom_skip held, later]⟩

/-- **Points are read from all lines** or from none. -/
theorem readPointsFrom_isOk_iff (earlier : Nat) :
    (∃ points, readPointsFrom earlier lines = .ok points) ↔ ∀ line ∈ lines, Readable line := by
  constructor
  · rintro ⟨points, success⟩ line member held
    have inside : ControlPoint.read line ∈ points.map .ok := by
      rw [← (readPointsFrom_eq_ok_iff earlier).mp success]
      exact List.mem_map_of_mem (List.mem_filter.mpr ⟨member, by simpa using held⟩)
    obtain ⟨point, -, same⟩ := List.mem_map.mp inside
    exact ⟨point, same.symm⟩
  · intro readable
    obtain ⟨points, success⟩ := readPointsFrom_append earlier [] readable
    rw [List.append_nil] at success
    exact ⟨_, success⟩

/-- **The line that is blamed** is the first that cannot be read. -/
theorem readPointsFrom_eq_error_iff {error : ControlPointError} :
    readPointsFrom earlier lines = .error error ↔
      ∃ skipped bad rest fault, lines = skipped ++ bad :: rest ∧
        (∀ line ∈ skipped, Readable line) ∧ HoldsData bad ∧
        ControlPoint.read bad = .error fault ∧
        error = .point (earlier + skipped.length + 1) fault := by
  constructor
  · intro failure
    induction lines generalizing earlier with
    | nil => cases failure
    | cons line rest ih =>
      by_cases readable : Readable line
      · obtain ⟨points, later⟩ := readPointsFrom_append earlier rest
          (List.forall_mem_singleton.mpr readable)
        rw [List.singleton_append, failure] at later
        cases behind : readPointsFrom (earlier + 1) rest with
        | ok others =>
          rw [List.length_singleton, behind] at later
          cases later
        | error cause =>
          rw [List.length_singleton, behind] at later
          obtain rfl : error = cause := Except.error.inj later
          obtain ⟨skipped, bad, more, fault, rfl, others, held, refused, rfl⟩ := ih behind
          refine ⟨line :: skipped, bad, more, fault, rfl,
            List.forall_mem_cons.mpr ⟨readable, others⟩, held, refused, ?_⟩
          rw [List.length_cons, Nat.add_right_comm earlier 1, Nat.add_assoc earlier]
      · obtain ⟨held, unread⟩ := Classical.not_imp.mp readable
        cases first : ControlPoint.read line with
        | ok point => exact absurd ⟨point, first⟩ unread
        | error fault =>
          rw [readPointsFrom_error held first] at failure
          exact ⟨[], line, rest, fault, rfl, by simp, held, first, (Except.error.inj failure).symm⟩
  · rintro ⟨skipped, bad, rest, fault, rfl, readable, held, refused, rfl⟩
    obtain ⟨points, later⟩ := readPointsFrom_append earlier (bad :: rest) readable
    rw [later, readPointsFrom_error held refused]
    rfl

end Points

/-! ### Files -/

namespace ControlPointFile

variable {m : Type → Type} [Monad m] {System : Type} (resolver : Resolver m System) {text : String}

/-- In a file of blank lines the resolver is not asked. -/
theorem read_of_blank (blank : ∀ line ∈ Text.lines text.toList, Text.allBlank line = true) :
    headerLine? text = none ∧ read resolver text = pure (.error .empty) := by
  have absent := Text.firstShown?_of_blank blank
  rw [headerLine?, read, absent]
  exact ⟨rfl, rfl⟩

/-- What becomes of a file with a header, once the header is resolved. -/
def outcome (header : List Char) (position : Nat) (below : List (List Char)) :
    Except HeaderError System → Except ControlPointError (ControlPointFile System)
  | .error error => .error (.header error)
  | .ok system => (readPointsFrom position below).map (⟨String.ofList header, system, ·⟩)

/-- **The resolver is asked for the header and for nothing else.** -/
theorem read_of_lines {before after : List (List Char)} {header : List Char}
    (shape : Text.lines text.toList = before ++ header :: after)
    (blank : ∀ line ∈ before, Text.allBlank line = true) (shown : Text.allBlank header = false) :
    headerLine? text = some (String.ofList header) ∧
      read resolver text = (do
        let answer ← resolver.resolve (String.ofList header)
        pure (outcome header (before.length + 1) after answer)) := by
  have first := Text.firstShown?_of_lines shape blank shown
  rw [headerLine?, read, first]
  refine ⟨rfl, ?_⟩
  dsimp only
  refine congrArg (resolver.resolve (String.ofList header) >>= ·) (funext fun answer => ?_)
  cases answer with
  | error error => rfl
  | ok system =>
    dsimp only [outcome]
    rw [readPoints_pointLines shape]

variable {header : List Char} {position : Nat} {below : List (List Char)} {system : System}

theorem outcome_eq_ok_iff {file : ControlPointFile System} :
    outcome header position below (.ok system) = .ok file ↔
      file.header = String.ofList header ∧ file.system = system ∧
        (below.filter HoldsData).map ControlPoint.read = file.points.map .ok := by
  obtain ⟨name, found, points⟩ := file
  rw [← readPointsFrom_eq_ok_iff position, outcome]
  cases readPointsFrom position below with
  | error error => simp [Except.map]
  | ok read => simp [Except.map, eq_comm]

theorem outcome_isOk_iff :
    (∃ file, outcome header position below (.ok system) = .ok file) ↔
      ∀ line ∈ below, Readable line := by
  rw [← readPointsFrom_isOk_iff position, outcome]
  cases readPointsFrom position below with
  | error error => simp [Except.map]
  | ok read => simp [Except.map]

theorem outcome_eq_error_iff {error : ControlPointError} :
    outcome header position below (.ok system) = .error error ↔
      readPointsFrom position below = .error error := by
  rw [outcome]
  cases readPointsFrom position below with
  | error error => simp [Except.map]
  | ok read => simp [Except.map]

/-- **A file is read as its header and the points below it.** -/
theorem reads_header_and_points (resolver : Resolver m System) (text : String) :
    ((∀ line ∈ Text.lines text.toList, Text.allBlank line = true) ∨
      ∃ before header after, Text.lines text.toList = before ++ header :: after ∧
        (∀ line ∈ before, Text.allBlank line = true) ∧ Text.allBlank header = false) ∧
    ((∀ line ∈ Text.lines text.toList, Text.allBlank line = true) →
      headerLine? text = none ∧ read resolver text = pure (.error .empty)) ∧
    ∀ before header after, Text.lines text.toList = before ++ header :: after →
      (∀ line ∈ before, Text.allBlank line = true) → Text.allBlank header = false →
      headerLine? text = some (String.ofList header) ∧
      ∃ result : Except HeaderError System → Except ControlPointError (ControlPointFile System),
        (read resolver text = do
          let answer ← resolver.resolve (String.ofList header)
          pure (result answer)) ∧
        (∀ error, result (.error error) = .error (.header error)) ∧
        ∀ system,
          ((∃ file, result (.ok system) = .ok file) ↔
            ∀ line ∈ after, HoldsData line → ∃ point, ControlPoint.read line = .ok point) ∧
          (∀ file, result (.ok system) = .ok file ↔
            file.header = String.ofList header ∧ file.system = system ∧
              (after.filter HoldsData).map ControlPoint.read = file.points.map .ok) ∧
          ∀ error, result (.ok system) = .error error ↔
            ∃ skipped bad rest fault, after = skipped ++ bad :: rest ∧
              (∀ line ∈ skipped,
                HoldsData line → ∃ point, ControlPoint.read line = .ok point) ∧
              HoldsData bad ∧ ControlPoint.read bad = .error fault ∧
              error = .point (before.length + 1 + skipped.length + 1) fault := by
  refine ⟨Text.blank_or_shown _, read_of_blank resolver, ?_⟩
  intro before header after shape blank shown
  obtain ⟨named, asked⟩ := read_of_lines resolver shape blank shown
  refine ⟨named, outcome header (before.length + 1) after, asked, fun error => rfl, ?_⟩
  intro system
  refine ⟨outcome_isOk_iff, fun file => outcome_eq_ok_iff, fun error => ?_⟩
  rw [outcome_eq_error_iff, readPointsFrom_eq_error_iff]
  rfl

/-- A file of seven lines of all kinds, the same without its fault, and a blank one. -/
theorem reads_header_and_points_of_seven_lines :
    let resolver := Registry.builtin.resolver
    let front := "\n\t\nEPSG:4326\r\n# note\n1 2 3 4 5 a.jpg left\n\n"
    headerLine? (front ++ "1 2\n") = some "EPSG:4326" ∧
      read resolver (front ++ "1 2\n") = .error (.point 7 (.tooFewFields 2)) ∧
      (∃ file, read resolver front = .ok file ∧ file.header = "EPSG:4326" ∧
        file.points.length = 1) ∧
      headerLine? "\n \t\n" = none ∧ read resolver "\n \t\n" = .error .empty := by
  intro resolver front
  let before : List (List Char) := [[], ['\t']]
  let header := "EPSG:4326".toList
  let point := "1 2 3 4 5 a.jpg left".toList
  have blank : ∀ line ∈ before, Text.allBlank line = true := by decide
  have shown : Text.allBlank header = false := by decide
  let crs : Crs :=
    ⟨⟨[.assign "proj" "longlat", .assign "datum" "WGS84", .flag "no_defs"]⟩,
      some 4326, some "WGS 84"⟩
  have accepted : Registry.builtin.resolve (String.ofList header) = .ok crs := by decide +kernel
  have passed : ∀ line ∈ ["# note".toList, point, []],
      HoldsData line → ∃ point, ControlPoint.read line = .ok point := by
    have comment : ¬ HoldsData "# note".toList := by decide
    have empty : ¬ HoldsData [] := by decide
    have isPoint : (ControlPoint.read point).toOption.isSome = true := by decide +kernel
    intro line member
    simp only [List.mem_cons, List.not_mem_nil, or_false] at member
    rcases member with rfl | rfl | rfl
    · exact fun held => absurd held comment
    · intro
      cases found : ControlPoint.read point with
      | error fault =>
        rw [found] at isPoint
        cases isPoint
      | ok point => exact ⟨point, rfl⟩
    · exact fun held => absurd held empty
  obtain ⟨named, result, asked, -, read⟩ :=
    (reads_header_and_points resolver (front ++ "1 2\n")).2.2 before header
      ["# note".toList, point, [], "1 2".toList] (by decide +kernel) blank shown
  obtain ⟨-, result', asked', -, read'⟩ :=
    (reads_header_and_points resolver front).2.2 before header
      ["# note".toList, point, []] (by decide +kernel) blank shown
  refine ⟨named, ?_, ?_, ?_⟩
  · rw [asked]
    show result (Registry.builtin.resolve (String.ofList header)) = _
    refine (congrArg result accepted).trans (((read crs).2.2 _).mpr ?_)
    exact ⟨["# note".toList, point, []], "1 2".toList, [], .tooFewFields 2, rfl, passed,
      by decide, rfl, rfl⟩
  · obtain ⟨file, success⟩ := (read' crs).1.mpr passed
    obtain ⟨name, -, points⟩ := ((read' crs).2.1 file).mp success
    refine ⟨file, ?_, name, ?_⟩
    · rw [asked']
      show result' (Registry.builtin.resolve (String.ofList header)) = _
      exact (congrArg result' accepted).trans success
    · have lengths := congrArg List.length points
      rw [List.length_map, List.length_map] at lengths
      rw [← lengths]
      decide
  · exact (reads_header_and_points resolver "\n \t\n").2.1 (by decide +kernel)

end ControlPointFile

end Georeference
