/-
**The reports of a run in text form.**

A run writes the reports on the headers that are resolved, in the order of the headers. In text form
an empty line is to stand between any two of them. It is written before the report on each header
but the first of the list, whether or not a report stands before it. So the empty lines separate the
reports, with one exception (`Belated`): where the first header is refused and another one is not,
the first report has an empty line before it as well.

### Runs and reports

* `Resolves`, `Resolves.run_eq`: the runs that resolve headers, and what they give.
* `reports`: the reports on the headers that are resolved.
* `spaced`, `preceded`: reports with an empty line between any two, and with one before each.

### What is written

* `output_headerOutcome`: for one header its report behind the separator, and nothing if it is
  refused.
* `outputFrom_of_pos`: for headers that are not the first, their reports with an empty line before
  each.
* `Resolves.output_eq_spaced_iff`: for all headers the reports with an empty line between any two,
  unless they are `Belated`; then an empty line stands before them. In that case alone the output
  begins with an empty line, and it is empty exactly when all headers are refused.

**The proof is by induction on the headers that are not the first.** From the second one on the
separator is always written, so where nothing is reported nothing is written, and every report has
an empty line before it. The first header decides the rest: a report on it has no empty line before
it, and without one the next report begins the output. That reports do not begin with an empty line
themselves is because each shows its header first.
-/

import Georeference.CommandLine.Run

namespace Georeference

/-- A report shows its header first. -/
theorem Report.text_eq (report : Report) : ∃ rest, report.text = "header" ++ rest := by
  obtain ⟨shown, rest, listed⟩ :
      ∃ shown rest, report.lines = ("header" ++ shown) :: rest :=
    ⟨": " ++ report.header, _, rfl⟩
  exact ⟨_, by rw [text, listed, String.intercalate_cons_append]⟩

namespace CommandLine

/-- **A run that resolves headers** over a registry, and no file. -/
structure Resolves (world : World) (arguments : Arguments) (registry : Registry)
    (headers : List String) : Prop where
  ready : ∃ ready, world.completed? = some ready ∧ ready.given = .ok arguments ∧
    ready.registry arguments.registry = .ok registry ∧
    ready.headers arguments.header = .ok headers
  unfiled : arguments.pointFile = none

/-- How the headers of a run are resolved and shown. -/
def settingsOf (arguments : Arguments) (registry : Registry) : BatchSettings :=
  ⟨registry, arguments.format.getD .text, arguments.registry.isSome⟩

variable {world : World} {arguments : Arguments} {registry : Registry} {settings : BatchSettings}
  {header report : String} {headers : List String}

/-- **What such a run gives** is the outcome of its headers. -/
theorem Resolves.run_eq (resolves : Resolves world arguments registry headers) :
    run world = batch (settingsOf arguments registry) headers := by
  obtain ⟨ready, completed, given, loaded, listed⟩ := resolves.ready
  simp only [run, completed, World.outcome, given, perform, loaded, resolves.unfiled, listed]
  rfl

/-! ### The reports on headers -/

/-- The report on a header in text form, if it is resolved. -/
def reportOn? (registry : Registry) (header : String) : Option String :=
  (registry.resolve header).toOption.map fun crs => (Report.ofCrs header crs).text

/-- The reports on the headers that are resolved. -/
def reports (registry : Registry) (headers : List String) : List String :=
  headers.filterMap (reportOn? registry)

theorem reportOn?_eq_none_iff :
    reportOn? registry header = none ↔ ∃ error, registry.resolve header = .error error := by
  unfold reportOn?
  cases registry.resolve header <;> simp [Except.toOption]

theorem reportOn?_eq_some_iff :
    reportOn? registry header = some report ↔
      ∃ crs, registry.resolve header = .ok crs ∧ (Report.ofCrs header crs).text = report := by
  unfold reportOn?
  cases registry.resolve header <;> simp [Except.toOption]

theorem reports_cons_of_none (refused : reportOn? registry header = none) (rest : List String) :
    reports registry (header :: rest) = reports registry rest :=
  List.filterMap_cons_none refused

theorem reports_cons_of_some (reported : reportOn? registry header = some report)
    (rest : List String) :
    reports registry (header :: rest) = report :: reports registry rest :=
  List.filterMap_cons_some reported

theorem mem_reports_iff :
    report ∈ reports registry headers ↔ ∃ header ∈ headers, ∃ crs,
      registry.resolve header = .ok crs ∧ (Report.ofCrs header crs).text = report := by
  simp only [reports, List.mem_filterMap, reportOn?_eq_some_iff]

/-- There are no reports exactly when all headers are refused. -/
theorem reports_eq_nil_iff :
    reports registry headers = [] ↔
      ∀ header ∈ headers, ∃ error, registry.resolve header = .error error := by
  simp only [reports, List.filterMap_eq_nil_iff, reportOn?_eq_none_iff]

theorem reports_ne_nil_iff :
    reports registry headers ≠ [] ↔
      ∃ header ∈ headers, ∃ crs, registry.resolve header = .ok crs := by
  constructor
  · intro reported
    obtain ⟨report, member⟩ := List.exists_mem_of_ne_nil _ reported
    obtain ⟨header, listed, crs, resolved, -⟩ := mem_reports_iff.mp member
    exact ⟨header, listed, crs, resolved⟩
  · rintro ⟨header, listed, crs, resolved⟩
    exact List.ne_nil_of_mem (mem_reports_iff.mpr ⟨header, listed, crs, resolved, rfl⟩)

/-! ### Reports with empty lines between them -/

/-- Reports with an empty line between any two, and a line feed behind the last. -/
def spaced : List String → String
  | [] => ""
  | report :: rest => "\n\n".intercalate (report :: rest) ++ "\n"

/-- Reports with an empty line before each. -/
def preceded (reports : List String) : String :=
  String.join (reports.map fun report => "\n" ++ report ++ "\n")

@[simp]
theorem preceded_nil : preceded [] = "" :=
  rfl

theorem preceded_cons (report : String) (rest : List String) :
    preceded (report :: rest) = "\n" ++ report ++ "\n" ++ preceded rest := by
  unfold preceded
  rw [List.map_cons, String.join_cons]

/-- **Behind the first report** each has an empty line before it. -/
theorem spaced_cons (report : String) (rest : List String) :
    spaced (report :: rest) = report ++ "\n" ++ preceded rest := by
  induction rest generalizing report with
  | nil => simp [spaced]
  | cons next rest ih =>
    calc "\n\n".intercalate (report :: next :: rest) ++ "\n"
      _ = report ++ "\n\n" ++ spaced (next :: rest) := by
        rw [String.intercalate_cons_cons, String.append_assoc]
        rfl
      _ = report ++ ("\n" ++ "\n") ++ (next ++ "\n" ++ preceded rest) := by
        rw [ih next]
        rfl
      _ = report ++ "\n" ++ preceded (next :: rest) := by
        simp only [preceded_cons, String.append_assoc]

/-- Reports with an empty line before each have one before all. -/
theorem preceded_of_ne_nil {reports : List String} (nonempty : reports ≠ []) :
    preceded reports = "\n" ++ spaced reports := by
  cases reports with
  | nil => exact absurd rfl nonempty
  | cons report rest => simp only [preceded_cons, spaced_cons, String.append_assoc]

/-! ### What is written -/

/-- **What is written for one header**: its separator and report, or nothing. -/
theorem output_headerOutcome (written : settings.format = .text) (index : Nat) (header : String) :
    (headerOutcome settings index header).output =
      match reportOn? settings.registry header with
      | some report => separator settings index ++ report ++ "\n"
      | none => "" := by
  unfold headerOutcome reportOn?
  cases settings.registry.resolve header with
  | ok crs =>
    simp only [written, Except.toOption, Option.map_some]
    rfl
  | error error => rfl

/-- What is written for headers that are counted from an index on. -/
def outputFrom (settings : BatchSettings) (index : Nat) (headers : List String) : String :=
  String.join (((headers.zipIdx index).map fun (header, index) =>
    headerOutcome settings index header).map HeaderOutcome.output)

theorem outputFrom_cons (settings : BatchSettings) (index : Nat) (header : String)
    (headers : List String) :
    outputFrom settings index (header :: headers) =
      (headerOutcome settings index header).output ++ outputFrom settings (index + 1) headers := by
  unfold outputFrom
  rw [List.zipIdx_cons, List.map_cons, List.map_cons, String.join_cons]

theorem output_batch (settings : BatchSettings) (headers : List String) :
    (batch settings headers).output = outputFrom settings 0 headers := by
  cases headers <;> rfl

/-- **What is written for later headers**: an empty line before each report. -/
theorem outputFrom_of_pos (written : settings.format = .text) (headers : List String) {index : Nat}
    (later : 0 < index) :
    outputFrom settings index headers = preceded (reports settings.registry headers) := by
  induction headers generalizing index with
  | nil => rfl
  | cons header headers ih =>
    have separated : separator settings index = "\n" := by
      simp [separator, written, later]
    rw [outputFrom_cons, output_headerOutcome written, ih (Nat.succ_pos index)]
    cases found : reportOn? settings.registry header with
    | none => rw [reports_cons_of_none found, String.empty_append]
    | some report => simp only [reports_cons_of_some found, preceded_cons, separated]

/-- **What is written for all headers**, by whether the first has a report. -/
theorem outputFrom_zero (written : settings.format = .text) (header : String)
    (headers : List String) :
    outputFrom settings 0 (header :: headers) =
      match reportOn? settings.registry header with
      | some report => spaced (report :: reports settings.registry headers)
      | none => preceded (reports settings.registry headers) := by
  have unseparated : separator settings 0 = "" := by
    simp [separator]
  rw [outputFrom_cons, output_headerOutcome written, outputFrom_of_pos written headers Nat.one_pos]
  cases reportOn? settings.registry header with
  | none => exact String.empty_append
  | some report => simp only [spaced_cons, unseparated, String.empty_append]

/-! ### The empty line before the first report -/

/-- The first header is refused and another one is not. -/
def Belated (registry : Registry) : List String → Prop
  | [] => False
  | header :: rest => (∃ error, registry.resolve header = .error error) ∧
      ∃ later ∈ rest, ∃ crs, registry.resolve later = .ok crs

theorem Belated.reports_ne_nil (belated : Belated registry headers) :
    reports registry headers ≠ [] := by
  cases headers with
  | nil => exact belated.elim
  | cons header rest =>
    obtain ⟨later, listed, resolved⟩ := belated.2
    exact reports_ne_nil_iff.mpr ⟨later, List.mem_cons_of_mem _ listed, resolved⟩

theorem outputFrom_of_belated (written : settings.format = .text)
    (belated : Belated settings.registry headers) :
    outputFrom settings 0 headers = "\n" ++ spaced (reports settings.registry headers) := by
  cases headers with
  | nil => exact belated.elim
  | cons header rest =>
    have refused := reportOn?_eq_none_iff.mpr belated.1
    rw [outputFrom_zero written, refused, reports_cons_of_none refused]
    exact preceded_of_ne_nil (reports_ne_nil_iff.mpr belated.2)

theorem outputFrom_of_not_belated (written : settings.format = .text)
    (timely : ¬ Belated settings.registry headers) :
    outputFrom settings 0 headers = spaced (reports settings.registry headers) := by
  cases headers with
  | nil => rfl
  | cons header rest =>
    rw [outputFrom_zero written]
    cases found : reportOn? settings.registry header with
    | some report => rw [reports_cons_of_some found]
    | none =>
      have refused := reportOn?_eq_none_iff.mp found
      rw [reports_cons_of_none found]
      by_cases silent : reports settings.registry rest = []
      · rw [silent]
        rfl
      · exact absurd ⟨refused, reports_ne_nil_iff.mp silent⟩ timely

/-- **Reports with empty lines between them** do not begin with one. -/
theorem head?_spaced_reports (registry : Registry) (headers : List String) :
    (spaced (reports registry headers)).toList.head? ≠ some '\n' := by
  cases shown : reports registry headers with
  | nil => decide
  | cons report rest =>
    have member : report ∈ reports registry headers := shown ▸ List.mem_cons_self
    obtain ⟨header, -, crs, -, rfl⟩ := mem_reports_iff.mp member
    obtain ⟨fields, text⟩ := (Report.ofCrs header crs).text_eq
    rw [spaced_cons, text, String.append_assoc, String.append_assoc, String.toList_append]
    exact fun same => absurd (Option.some.inj same) (by decide)

theorem spaced_eq_empty_iff {reports : List String} : spaced reports = "" ↔ reports = [] := by
  cases reports with
  | nil => exact iff_of_true rfl rfl
  | cons report rest => simp [spaced]

/-- **What a run in text form writes**, and where it begins with an empty line. -/
theorem Resolves.output_eq_spaced_iff (resolves : Resolves world arguments registry headers)
    (written : arguments.format.getD .text = .text) :
    ((run world).output = spaced (reports registry headers) ↔ ¬ Belated registry headers) ∧
    (Belated registry headers → (run world).output = "\n" ++ spaced (reports registry headers)) ∧
    ((run world).output.toList.head? = some '\n' ↔ Belated registry headers) ∧
    ((run world).output = "" ↔
      ∀ header ∈ headers, ∃ error, registry.resolve header = .error error) := by
  rw [resolves.run_eq, output_batch, ← reports_eq_nil_iff]
  by_cases belated : Belated registry headers
  · have output : outputFrom (settingsOf arguments registry) 0 headers =
        "\n" ++ spaced (reports registry headers) := outputFrom_of_belated written belated
    have begins : ("\n" ++ spaced (reports registry headers)).toList.head? = some '\n' := by
      rw [String.toList_append]
      rfl
    rw [output]
    refine ⟨iff_of_false (fun same => ?_) (not_not_intro belated), fun _ => rfl,
      iff_of_true begins belated, iff_of_false (by simp) belated.reports_ne_nil⟩
    exact head?_spaced_reports registry headers (same ▸ begins)
  · have output : outputFrom (settingsOf arguments registry) 0 headers =
        spaced (reports registry headers) := outputFrom_of_not_belated written belated
    rw [output]
    exact ⟨iff_of_true rfl belated, fun late => absurd late belated,
      iff_of_false (head?_spaced_reports registry headers) belated, spaced_eq_empty_iff⟩

/-- A refused header and a resolved one: an empty line before the report. -/
theorem Resolves.output_eq_spaced_iff_belated :
    let world : World := ⟨[], .empty, fun _ => .error .missing, .ok "bad\nEPSG:4326"⟩
    ∃ crs, Registry.builtin.resolve "EPSG:4326" = .ok crs ∧
      (run world).output = "\n" ++ (Report.ofCrs "EPSG:4326" crs).text ++ "\n" := by
  intro world
  have resolves : Resolves world .none .builtin ["bad", "EPSG:4326"] :=
    ⟨⟨world, rfl, rfl, rfl, rfl⟩, rfl⟩
  have refused : Registry.builtin.resolve "bad" = .error ⟨"bad", .unread .unrecognized⟩ := rfl
  have resolved : ∃ crs, Registry.builtin.resolve "EPSG:4326" = .ok crs := ⟨_, rfl⟩
  obtain ⟨crs, resolved⟩ := resolved
  have belated : Belated .builtin ["bad", "EPSG:4326"] :=
    ⟨⟨_, refused⟩, _, List.mem_singleton_self _, crs, resolved⟩
  have reported : reports .builtin ["bad", "EPSG:4326"] =
      [(Report.ofCrs "EPSG:4326" crs).text] := by
    rw [reports_cons_of_none (reportOn?_eq_none_iff.mpr ⟨_, refused⟩),
      reports_cons_of_some (reportOn?_eq_some_iff.mpr ⟨crs, resolved, rfl⟩)]
    rfl
  refine ⟨crs, resolved, ?_⟩
  rw [(output_eq_spaced_iff resolves rfl).2.1 belated, reported, spaced_cons, preceded_nil,
    String.append_empty, String.append_assoc]

end CommandLine

end Georeference
