/-
**What a run over several headers makes of each of them.**

The headers of a run are the argument or the lines of the standard input that are not blank. Each is
resolved for itself: what is complained of it, and the line that is written for it in JSON form, do
not depend on the other headers nor on its place among them.

### One header

* `World.alone`, `RunsAlone`, `Resolves.runsAlone`: runs of one header alone, as there always are.
* `Complains`: what is complained of one header. Of an accepted header nothing; of a refused one the
  wording of the refusal, and a hint if the refusal is one of looking up a code and no registry file
  is given.
* `ReportLine`: what is written for one header in JSON form. For an accepted header one line, and
  nothing for a refused one.

### All headers

* `forall₂_headerOutcomes`: each header has an outcome of its own.
* `refusals`: the number of headers that are refused.
* `Resolves.run_batch`: without headers a run fails and writes nothing. Otherwise its complaints are
  those of each header, in order, and behind them the count of the refused headers if there are any,
  with which it fails. Each complaint is of a single line if the argument is. In JSON form the
  output is what each header yields alone.

**The proof is by induction on the headers, from any index on.** The outcome of a header has its
index in it, but neither `Complains` nor `ReportLine` says anything of that, so the outcomes of all
headers are one for each. A run of one header alone resolves the list of that header over the same
registry, and what is written for it is the one thing that `ReportLine` allows
(`ReportLine.unique`).
-/

import Georeference.Proofs.CommandLine.Reports
import Georeference.Proofs.Header.Wording
import Georeference.Proofs.Json.SingleLine

namespace Georeference

/-- The mark of a refusal is that of the error of the builder. -/
theorem HeaderError.isRegistryMiss_eq_true_iff {error : HeaderError} :
    error.isRegistryMiss = true ↔
      ∃ cause, error.buildError? = some cause ∧ cause.isEpsgError = true := by
  unfold isRegistryMiss
  cases error.buildError? with
  | none => simp
  | some cause => simp

namespace CommandLine

open Text (SingleLine)

variable {world : World} {arguments : Arguments} {registry : Registry} {settings : BatchSettings}
  {header output : String} {headers : List String}

/-! ### The headers of a run -/

theorem mem_headersOf {text : String} (listed : header ∈ headersOf text) :
    SingleLine header ∧ Text.allBlank header.toList = false := by
  obtain ⟨line, kept, rfl⟩ := List.mem_map.mp listed
  obtain ⟨member, shown⟩ := List.mem_filter.mp kept
  refine ⟨.ofList (Text.notMem_of_mem_lines member), ?_⟩
  rw [String.toList_ofList]
  simpa using shown

/-- A line that is not blank is the only header in itself. -/
theorem headersOf_of_single (single : SingleLine header)
    (shown : Text.allBlank header.toList = false) : headersOf header = [header] := by
  have nonempty : header.toList ≠ [] := by
    intro empty
    rw [empty] at shown
    cases shown
  simp [headersOf, Text.lines_of_unbroken nonempty single, shown]

theorem input_of_completed? {ready : World} (completed : world.completed? = some ready) :
    ready.input = world.input := by
  unfold World.completed? at completed
  split at completed
  · obtain ⟨environment, -, rfl⟩ := Option.map_eq_some_iff.mp completed
    rfl
  · rw [Option.some.inj completed]

/-- **The headers of a run** are the argument, or lines of the input. -/
theorem Resolves.headers_cases (resolves : Resolves world arguments registry headers) :
    (∃ header, arguments.header = some header ∧ headers = [header]) ∨
      arguments.header = none ∧ ∃ text lines, world.input = .ok text ∧
        Text.Lines text.toList lines ∧
        headers = (lines.filter fun line => !Text.allBlank line).map String.ofList := by
  obtain ⟨ready, completed, -, -, named⟩ := resolves.ready
  unfold World.headers at named
  split at named
  · rename_i header known
    exact .inl ⟨header, known, (Except.ok.inj named).symm⟩
  · rename_i unnamed
    split at named
    · cases named
    · rename_i text read
      rw [input_of_completed? completed] at read
      exact .inr ⟨unnamed, text, _, read, Text.lines_iff.mpr rfl, (Except.ok.inj named).symm⟩

/-- **Each header of a run is of a single line** if the argument is. -/
theorem Resolves.singleLine_of_mem (resolves : Resolves world arguments registry headers)
    (single : ∀ header, arguments.header = some header → SingleLine header)
    (listed : header ∈ headers) : SingleLine header := by
  rcases resolves.headers_cases with
    ⟨given, known, rfl⟩ | ⟨-, text, lines, -, falls, rfl⟩
  · rw [List.mem_singleton.mp listed]
    exact single given known
  · obtain rfl := falls.lines_eq
    exact (mem_headersOf listed).1

/-! ### Runs of one header alone -/

/-- The same world with a header in place of the standard input. -/
def World.alone (world : World) (header : String) : World :=
  { world with input := .ok header }

/-- A run resolves one header alone, over the same registry. -/
def RunsAlone (arguments : Arguments) (registry : Registry) (header : String) (alone : World) :
    Prop :=
  ∃ given, Resolves alone given registry [header] ∧ given.format = arguments.format

theorem completed?_alone (world : World) (header : String) :
    (world.alone header).completed? = world.completed?.map fun ready => ready.alone header := by
  unfold World.completed? World.alone
  dsimp only
  cases world.file environmentFileName with
  | error fault => rfl
  | ok text =>
    dsimp only
    rw [Option.map_map]
    rfl

theorem headers_alone (single : SingleLine header) (listed : header ∈ headers)
    (named : world.headers arguments.header = .ok headers) :
    (world.alone header).headers arguments.header = .ok [header] := by
  unfold World.headers at named ⊢
  split at named
  · rw [← Except.ok.inj named] at listed
    rw [List.mem_singleton.mp listed]
  · split at named
    · cases named
    · rw [← Except.ok.inj named] at listed
      exact congrArg Except.ok (headersOf_of_single single (mem_headersOf listed).2)

/-- **Each header of a run can be run alone.** -/
theorem Resolves.runsAlone (resolves : Resolves world arguments registry headers)
    (single : SingleLine header) (listed : header ∈ headers) :
    RunsAlone arguments registry header (world.alone header) := by
  obtain ⟨ready, completed, given, loaded, named⟩ := resolves.ready
  refine ⟨arguments, ⟨⟨ready.alone header, ?_, given, loaded, ?_⟩, resolves.unfiled⟩, rfl⟩
  · rw [completed?_alone, completed]
    rfl
  · exact headers_alone single listed named

/-! ### What one header gives -/

/-- **What is complained of one header.** -/
inductive Complains (arguments : Arguments) (registry : Registry) (header : String) :
    List String → Prop
  | accepted {crs : Crs} (resolved : registry.resolve header = .ok crs) :
      Complains arguments registry header []
  | hinted {error : HeaderError} {cause : BuildError}
      (refused : registry.resolve header = .error error)
      (blamed : error.buildError? = some cause) (looked : cause.isEpsgError = true)
      (unloaded : arguments.registry = none) :
      Complains arguments registry header
        ["error: " ++ error.message, "hint: extra EPSG codes can be loaded with --registry"]
  | refused {error : HeaderError} (refused : registry.resolve header = .error error)
      (unhinted : (∀ cause, error.buildError? = some cause → cause.isEpsgError = false) ∨
        arguments.registry ≠ none) :
      Complains arguments registry header ["error: " ++ error.message]

/-- **What is written for one header in JSON form.** -/
inductive ReportLine (registry : Registry) (header : String) : String → Prop
  | accepted {crs : Crs} (resolved : registry.resolve header = .ok crs)
      (single : SingleLine (Report.ofCrs header crs).json) :
      ReportLine registry header ((Report.ofCrs header crs).json ++ "\n")
  | refused {error : HeaderError} (refused : registry.resolve header = .error error) :
      ReportLine registry header ""

theorem ReportLine.unique {other : String} (line : ReportLine registry header output)
    (again : ReportLine registry header other) : output = other := by
  cases line with
  | accepted resolved single =>
    cases again with
    | accepted resolved' single' =>
      obtain rfl := Except.ok.inj (resolved.symm.trans resolved')
      rfl
    | refused refused' => cases resolved.symm.trans refused'
  | refused refused =>
    cases again with
    | accepted resolved' single' => cases refused.symm.trans resolved'
    | refused refused' => rfl

/-- The number of headers that are refused. -/
def refusals (registry : Registry) (headers : List String) : Nat :=
  headers.countP fun header => !(registry.resolve header).isOk

theorem refusals_eq_zero_iff :
    refusals registry headers = 0 ↔
      ∀ header ∈ headers, ∃ crs, registry.resolve header = .ok crs := by
  rw [refusals, List.countP_eq_zero]
  refine forall₂_congr fun header _ => ?_
  cases registry.resolve header with
  | ok crs => simp [Except.isOk, Except.toBool]
  | error error => simp [Except.isOk, Except.toBool]

theorem complains_headerOutcome (index : Nat) (header : String) :
    Complains arguments registry header
      (headerOutcome (settingsOf arguments registry) index header).complaints := by
  unfold headerOutcome
  split
  · rename_i crs resolved
    exact .accepted resolved
  · rename_i error refused
    unfold complaintsAbout
    split
    · rename_i hinted
      rw [Bool.and_eq_true, HeaderError.isRegistryMiss_eq_true_iff] at hinted
      obtain ⟨⟨cause, blamed, looked⟩, unloaded⟩ := hinted
      exact .hinted refused blamed looked (by simpa [settingsOf] using unloaded)
    · rename_i unhinted
      refine .refused refused ?_
      rw [Bool.and_eq_true, HeaderError.isRegistryMiss_eq_true_iff, not_and_or] at unhinted
      refine unhinted.imp (fun unblamed cause blamed => ?_) fun loaded absent => loaded ?_
      · exact Bool.eq_false_iff.mpr fun looked => unblamed ⟨cause, blamed, looked⟩
      · simp [settingsOf, absent]

theorem reportLine_headerOutcome (written : settings.format = .json) (index : Nat)
    (header : String) :
    ReportLine settings.registry header (headerOutcome settings index header).output := by
  unfold headerOutcome
  split
  · rename_i crs resolved
    have unseparated : separator settings index = "" := by
      simp [separator, written]
    dsimp only
    rw [unseparated, String.empty_append, written]
    exact .accepted resolved (Report.singleLine_json _)
  · rename_i error refused
    exact .refused refused

theorem rejected_headerOutcome (index : Nat) (header : String) :
    (headerOutcome settings index header).rejected = !(settings.registry.resolve header).isOk := by
  unfold headerOutcome
  cases settings.registry.resolve header <;> rfl

theorem Complains.singleLine {complaints : List String}
    (complains : Complains arguments registry header complaints) (single : SingleLine header) :
    ∀ complaint ∈ complaints, SingleLine complaint := by
  have worded : ∀ {error}, registry.resolve header = .error error →
      SingleLine ("error: " ++ error.message) := fun refused =>
    .append (by decide) (Registry.singleLine_message single refused)
  cases complains with
  | accepted resolved => exact List.forall_mem_nil _
  | hinted refused blamed looked unloaded =>
    exact List.forall_mem_cons.mpr ⟨worded refused, List.forall_mem_singleton.mpr (by decide)⟩
  | refused refused unhinted => exact List.forall_mem_singleton.mpr (worded refused)

/-! ### What all headers give -/

/-- The outcomes of headers that are counted from an index on. -/
def outcomesFrom (settings : BatchSettings) (index : Nat) (headers : List String) :
    List HeaderOutcome :=
  (headers.zipIdx index).map fun (header, index) => headerOutcome settings index header

theorem forall₂_outcomesFrom (settings : BatchSettings) (headers : List String) (index : Nat) :
    List.Forall₂ (fun header outcome => ∃ index, headerOutcome settings index header = outcome)
      headers (outcomesFrom settings index headers) := by
  induction headers generalizing index with
  | nil => exact .nil
  | cons header rest ih => exact .cons ⟨index, rfl⟩ (ih (index + 1))

/-- **Each header has an outcome of its own**, wherever it stands. -/
theorem forall₂_headerOutcomes (settings : BatchSettings) (headers : List String) :
    List.Forall₂ (fun header outcome => ∃ index, headerOutcome settings index header = outcome)
      headers (headerOutcomes settings headers) :=
  forall₂_outcomesFrom settings headers 0

theorem countP_rejected (settings : BatchSettings) (headers : List String) :
    (headerOutcomes settings headers).countP HeaderOutcome.rejected =
      refusals settings.registry headers := by
  have each := forall₂_headerOutcomes settings headers
  unfold refusals
  generalize headerOutcomes settings headers = outcomes at each
  induction each with
  | nil => rfl
  | cons own others ih =>
    obtain ⟨index, rfl⟩ := own
    rw [List.countP_cons, List.countP_cons, ih, rejected_headerOutcome]

theorem batch_of_ne_nil (nonempty : headers ≠ []) :
    batch settings headers =
      { exit := if refusals settings.registry headers = 0 then 0 else 1
        output := String.join ((headerOutcomes settings headers).map HeaderOutcome.output)
        complaints := (headerOutcomes settings headers).flatMap HeaderOutcome.complaints ++
          verdict (refusals settings.registry headers) headers.length } := by
  rw [batch, if_neg (by simpa using nonempty)]
  simp only [countP_rejected]

theorem singleLine_verdict (rejected total : Nat) :
    ∀ complaint ∈ verdict rejected total, SingleLine complaint := by
  unfold verdict
  split
  · exact List.forall_mem_nil _
  · refine List.forall_mem_singleton.mpr ?_
    have front := (by decide : SingleLine "Error: ").append (.toString_nat rejected)
    have middle := (front.append (by decide : SingleLine " of ")).append (.toString_nat total)
    exact middle.append (by decide : SingleLine " headers could not be parsed")

/-- **The complaints of a run** are those of each header, and the count. -/
theorem Resolves.run_complaints (resolves : Resolves world arguments registry headers)
    (nonempty : headers ≠ []) :
    ∃ groups, List.Forall₂ (Complains arguments registry) headers groups ∧
      (run world).complaints =
        groups.flatten ++ verdict (refusals registry headers) headers.length := by
  have each := forall₂_headerOutcomes (settingsOf arguments registry) headers
  refine ⟨(headerOutcomes (settingsOf arguments registry) headers).map HeaderOutcome.complaints,
    List.forall₂_map_right_iff.mpr (each.imp ?_), ?_⟩
  · rintro header outcome ⟨index, rfl⟩
    exact complains_headerOutcome index header
  · rw [resolves.run_eq, batch_of_ne_nil nonempty, ← List.flatMap_def]
    rfl

theorem singleLine_of_complains {groups : List (List String)}
    (each : List.Forall₂ (Complains arguments registry) headers groups)
    (single : ∀ header ∈ headers, SingleLine header) :
    ∀ complaint ∈ groups.flatten, SingleLine complaint := by
  induction each with
  | nil => exact List.forall_mem_nil _
  | cons own others ih =>
    obtain ⟨front, back⟩ := List.forall_mem_cons.mp single
    rw [List.flatten_cons, List.forall_mem_append]
    exact ⟨own.singleLine front, ih back⟩

theorem Resolves.singleLine_complaints (resolves : Resolves world arguments registry headers)
    (single : ∀ header ∈ headers, SingleLine header) :
    ∀ complaint ∈ (run world).complaints, SingleLine complaint := by
  by_cases empty : headers = []
  · rw [resolves.run_eq, empty]
    exact List.forall_mem_singleton.mpr (by decide)
  · obtain ⟨groups, each, complaints⟩ := resolves.run_complaints empty
    rw [complaints]
    exact List.forall_mem_append.mpr ⟨singleLine_of_complains each single, singleLine_verdict _ _⟩

/-- **The output of a run in JSON form** is what each header is written as. -/
theorem Resolves.run_output_json (resolves : Resolves world arguments registry headers)
    (written : arguments.format = some .json) :
    ∃ outputs, List.Forall₂ (ReportLine registry) headers outputs ∧
      (run world).output = String.join outputs := by
  have each := forall₂_headerOutcomes (settingsOf arguments registry) headers
  have form : (settingsOf arguments registry).format = .json := by
    rw [settingsOf, written]
    rfl
  refine ⟨(headerOutcomes (settingsOf arguments registry) headers).map HeaderOutcome.output,
    List.forall₂_map_right_iff.mpr (each.imp ?_), ?_⟩
  · rintro header outcome ⟨index, rfl⟩
    exact reportLine_headerOutcome form index header
  · rw [resolves.run_eq, output_batch]
    rfl

/-- **What a header yields alone** in JSON form. -/
theorem RunsAlone.output_eq {alone : World} (runs : RunsAlone arguments registry header alone)
    (written : arguments.format = some .json) (line : ReportLine registry header output) :
    (run alone).output = output := by
  obtain ⟨given, resolves, same⟩ := runs
  obtain ⟨outputs, each, joined⟩ := resolves.run_output_json (same.trans written)
  cases each with
  | cons own others =>
    cases others
    rw [joined, String.join_cons, String.join_nil, String.append_empty]
    exact own.unique line

/-- **What a run makes of its headers**, one by one and together. -/
theorem Resolves.run_batch (resolves : Resolves world arguments registry headers)
    (single : ∀ header, arguments.header = some header → SingleLine header) :
    ((∃ header, arguments.header = some header ∧ headers = [header]) ∨
      arguments.header = none ∧ ∃ text lines, world.input = .ok text ∧
        Text.Lines text.toList lines ∧
        headers = (lines.filter fun line => !Text.allBlank line).map String.ofList) ∧
    (headers = [] → run world = ⟨1, "", ["Error: No SRS header given"]⟩) ∧
    (headers ≠ [] →
      ∃ groups, List.Forall₂ (Complains arguments registry) headers groups ∧
        ((refusals registry headers = 0 ∧ (run world).exit = 0 ∧
            (run world).complaints = groups.flatten) ∨
          (refusals registry headers ≠ 0 ∧ (run world).exit = 1 ∧
            (run world).complaints = groups.flatten ++
              ["Error: " ++ toString (refusals registry headers) ++ " of " ++
                toString headers.length ++ " headers could not be parsed"]))) ∧
    (refusals registry headers = 0 ↔
      ∀ header ∈ headers, ∃ crs, registry.resolve header = .ok crs) ∧
    (∀ complaint ∈ (run world).complaints, SingleLine complaint) ∧
    (∀ header ∈ headers, RunsAlone arguments registry header (world.alone header)) ∧
    (arguments.format = some .json →
      ∃ outputs, (run world).output = String.join outputs ∧
        List.Forall₂ (fun header output => ReportLine registry header output ∧
          ∀ alone, RunsAlone arguments registry header alone → (run alone).output = output)
          headers outputs) := by
  have singles : ∀ header ∈ headers, SingleLine header := fun header listed =>
    resolves.singleLine_of_mem single listed
  refine ⟨resolves.headers_cases, fun empty => ?_, fun nonempty => ?_, refusals_eq_zero_iff,
    resolves.singleLine_complaints singles,
    fun header listed => resolves.runsAlone (singles header listed) listed, fun written => ?_⟩
  · rw [resolves.run_eq, empty]
    rfl
  · obtain ⟨groups, each, complaints⟩ := resolves.run_complaints nonempty
    have exit : (run world).exit = if refusals registry headers = 0 then 0 else 1 := by
      rw [resolves.run_eq, batch_of_ne_nil nonempty]
      rfl
    refine ⟨groups, each, ?_⟩
    unfold verdict at complaints
    by_cases accepted : refusals registry headers = 0
    · rw [if_pos accepted] at exit complaints
      exact .inl ⟨accepted, exit, complaints.trans (List.append_nil _)⟩
    · rw [if_neg accepted] at exit complaints
      exact .inr ⟨accepted, exit, complaints⟩
  · obtain ⟨outputs, each, joined⟩ := resolves.run_output_json written
    refine ⟨outputs, joined, each.imp fun header output line => ?_⟩
    exact ⟨line, fun alone runs => runs.output_eq written line⟩

/-- An accepted header between two refused ones, and a blank line. -/
theorem Resolves.run_batch_mixed :
    let world : World := ⟨["--format", "json"], .empty, fun _ => .error .missing,
      .ok "bad\nEPSG:4326\n\t\nEPSG:99999"⟩
    (run world).exit = 1 ∧ (run world).output = (run (world.alone "EPSG:4326")).output ∧
      ∃ groups : List (List String), (run world).complaints =
        groups.flatten ++ ["Error: 2 of 3 headers could not be parsed"] := by
  intro world
  let arguments : Arguments := { Arguments.none with format := some .json }
  have resolves : Resolves world arguments .builtin ["bad", "EPSG:4326", "EPSG:99999"] :=
    ⟨⟨world, rfl, rfl, rfl, rfl⟩, rfl⟩
  have counted : refusals .builtin ["bad", "EPSG:4326", "EPSG:99999"] = 2 := rfl
  obtain ⟨-, -, complained, -, -, alone, written⟩ :=
    run_batch resolves fun _ given => nomatch given
  obtain ⟨groups, -, ⟨unblamed, -, -⟩ | ⟨-, exit, complaints⟩⟩ := complained (List.cons_ne_nil _ _)
  · rw [counted] at unblamed
    cases unblamed
  refine ⟨exit, ?_, groups, by rwa [counted] at complaints⟩
  obtain ⟨outputs, joined, each⟩ := written rfl
  cases each with
  | cons first rest => cases rest with
    | cons second rest => cases rest with
      | cons third rest =>
        cases rest
        have bad : (run (world.alone "bad")).output = "" := rfl
        have unknown : (run (world.alone "EPSG:99999")).output = "" := rfl
        rw [joined, ← first.2 _ (alone _ (by simp)), ← second.2 _ (alone _ (by simp)),
          ← third.2 _ (alone _ (by simp)), bad, unknown]
        simp [String.join_cons]

end CommandLine

end Georeference
