/-
**What the answer to a header depends on.**

A resolver asks its registry for one thing only: what the code of the header is looked up as. So two
registries that agree on that cannot be told apart by the header, neither by the answer nor by what
is said to the log, and what goes for a header goes for a file below it.

### The relation

`Registry.AlikeFor` says that a header makes no difference between two registries: it asks for no
code, or for the text of none, or its code is looked up as the same entry in both.
`Registry.alikeFor_iff` says that the text of the code is then answered alike.

### The theorem

`Registry.resolve_depends_on_code` has three parts.

* If a header makes no difference, it is answered alike, and the same is said to the log, whatever
  the log does and keeps.
* A file is read in the same way over both registries if that holds of its first line that is not
  blank, or if there is none.
* If the answers are the same, the header makes no difference.

**The proof is that the builders are all that differs.** A resolver asks its builder for the request
of the header and for nothing else (`Resolver.resolve_congr`), and a file asks its resolver for its
header (`ControlPointFile.read_congr`). The two registries answer a zone or a text alike, and a code
if the text of it is answered alike. The last part needs no log, because an answer can be taken from
what it is wrapped in.
-/

import Georeference.ControlPoint.File
import Georeference.Proofs.Header.Resolution
import Georeference.Proofs.Registry.CodeText

namespace Georeference

section Monadic

variable {m : Type → Type} [Monad m] {System : Type}

/-- **Builders that answer alike to a request** cannot be told apart. -/
theorem Resolver.resolve_congr {first second : Builder m System} (logger : Logger m)
    {header : String}
    (same : ∀ request, classify header = .ok request →
      build ⟨first, logger⟩ request = build ⟨second, logger⟩ request) :
    resolve ⟨first, logger⟩ header = resolve ⟨second, logger⟩ header := by
  have attempts : attempt ⟨first, logger⟩ header = attempt ⟨second, logger⟩ header := by
    unfold attempt
    cases asked : classify header with
    | error fault => rfl
    | ok request =>
      dsimp only
      rw [same request asked]
  unfold resolve
  rw [attempts]

/-- **Resolvers that answer alike to a header** read the same file. -/
theorem ControlPointFile.read_congr {first second : Resolver m System} {text : String}
    (same : ∀ header, headerLine? text = some header →
      first.resolve header = second.resolve header) :
    read first text = read second text := by
  unfold read
  cases found : Text.firstShown? text.toList with
  | none => rfl
  | some shown =>
    have named : headerLine? text = some (String.ofList shown.2) := by
      rw [headerLine?, found]
      rfl
    dsimp only
    rw [same _ named]

/-- The resolver over a registry that reports to a log. -/
def Registry.resolverWith (registry : Registry) (logger : Logger m) : Resolver m Crs :=
  ⟨registry.builder m, logger⟩

end Monadic

namespace Registry

variable {first second : Registry} {header : String}

/-- A header makes no difference between two registries. -/
inductive AlikeFor (first second : Registry) (header : String) : Prop
  | uncoded (other : ∀ text, classify header ≠ .ok (.epsg text))
  | undenoted {text : String} (asked : classify header = .ok (.epsg text))
      (refused : ∀ code, ¬ DenotesCode text code)
  | lookup {text : String} {code : Nat} (asked : classify header = .ok (.epsg text))
      (denotes : DenotesCode text code) (same : first.lookup code = second.lookup code)

theorem alikeFor_iff :
    first.AlikeFor second header ↔
      ∀ text, classify header = .ok (.epsg text) →
        first.crsOfCode text = second.crsOfCode text := by
  constructor
  · intro alike text asked
    cases alike with
    | uncoded other => exact absurd asked (other text)
    | @undenoted other asked' refused =>
      obtain rfl : other = text := by simpa [asked'] using asked
      exact crsOfCode_eq_iff.mpr fun code denotes => absurd denotes (refused code)
    | @lookup other code asked' denotes same =>
      obtain rfl : other = text := by simpa [asked'] using asked
      refine crsOfCode_eq_iff.mpr fun found denotes' => ?_
      rw [← denotes.unique denotes', same]
  · intro same
    by_cases coded : ∃ text, classify header = .ok (.epsg text)
    · obtain ⟨text, asked⟩ := coded
      by_cases denoted : ∃ code, DenotesCode text code
      · obtain ⟨code, denotes⟩ := denoted
        exact .lookup asked denotes (crsOfCode_eq_iff.mp (same text asked) code denotes)
      · exact .undenoted asked (not_exists.mp denoted)
    · exact .uncoded (not_exists.mp coded)

/-- A request that makes no difference is answered alike. -/
theorem AlikeFor.build {m : Type → Type} [Monad m] (alike : first.AlikeFor second header)
    (logger : Logger m) {request : Request} (asked : classify header = .ok request) :
    (first.resolverWith logger).build request = (second.resolverWith logger).build request := by
  cases request with
  | utm datum zone hemisphere => rfl
  | proj4 text => rfl
  | epsg text =>
    show pure (first.crsOfCode text) = pure (second.crsOfCode text)
    rw [alikeFor_iff.mp alike text asked]

/-- **A header that makes no difference** is answered and logged alike. -/
theorem AlikeFor.resolve {m : Type → Type} [Monad m] (alike : first.AlikeFor second header)
    (logger : Logger m) :
    (first.resolverWith logger).resolve header = (second.resolverWith logger).resolve header :=
  Resolver.resolve_congr logger fun _ asked => alike.build logger asked

/-- A header that is answered alike makes no difference. -/
theorem alikeFor_of_resolve (same : first.resolve header = second.resolve header) :
    first.AlikeFor second header := by
  refine alikeFor_iff.mpr fun text asked => ?_
  rw [← build_epsg, ← build_epsg]
  exact (resolve_eq_resolve_iff asked).mp same

/-- **The answer to a header depends on the registry only through its own code.** -/
theorem resolve_depends_on_code (first second : Registry) :
    (∀ header, first.AlikeFor second header →
      ∀ (m : Type → Type) [Monad m] (logger : Logger m),
        (first.resolverWith logger).resolve header =
          (second.resolverWith logger).resolve header) ∧
    (∀ text, (∀ header, headerLine? text = some header → first.AlikeFor second header) →
      ∀ (m : Type → Type) [Monad m] (logger : Logger m),
        ControlPointFile.read (first.resolverWith logger) text =
          ControlPointFile.read (second.resolverWith logger) text) ∧
    ∀ header, first.resolve header = second.resolve header → first.AlikeFor second header := by
  refine ⟨?_, ?_, fun header => alikeFor_of_resolve⟩
  · intro header alike m _ logger
    exact alike.resolve logger
  · intro text alike m _ logger
    exact ControlPointFile.read_congr fun header named => (alike header named).resolve logger

/-- Two registries with different systems, told apart by one header of four and no file. -/
theorem resolve_depends_on_code_elsewhere :
    let first := Registry.builtin.add ⟨2154, "Lambert", ⟨[.assign "proj" "lcc"]⟩⟩
    let second := Registry.builtin.add ⟨4326, "World", ⟨[.assign "proj" "longlat"]⟩⟩
    let file := "\n epsg:04269\n1 2 3 4 5 a.jpg"
    first.loggingResolver.resolve "WGS84 UTM 32N" =
        second.loggingResolver.resolve "WGS84 UTM 32N" ∧
      first.loggingResolver.resolve "EPSG:+2154" = second.loggingResolver.resolve "EPSG:+2154" ∧
      first.loggingResolver.resolve " epsg:04269" = second.loggingResolver.resolve " epsg:04269" ∧
      ControlPointFile.read first.loggingResolver file =
        ControlPointFile.read second.loggingResolver file ∧
      first.resolve "EPSG:2154" ≠ second.resolve "EPSG:2154" := by
  intro first second file
  obtain ⟨headers, files, converse⟩ := resolve_depends_on_code first second
  have zone : first.AlikeFor second "WGS84 UTM 32N" := by
    have asked : classify "WGS84 UTM 32N" = .ok (.utm "WGS84" 32 .north) := by decide +kernel
    exact .uncoded (by simp [asked])
  have signed : first.AlikeFor second "EPSG:+2154" := by
    have asked : classify "EPSG:+2154" = .ok (.epsg "+2154") := by decide +kernel
    refine .undenoted asked fun code denotes => ?_
    exact absurd (denotes.digits.2 '+' (by decide)) (by decide)
  have known : first.AlikeFor second " epsg:04269" := by
    have asked : classify " epsg:04269" = .ok (.epsg "04269") := by decide +kernel
    have denotes : DenotesCode "04269" 4269 := readCode_eq_ok_iff.mp (by decide +kernel)
    exact .lookup asked denotes (by decide +kernel)
  have named : headerLine? file = some " epsg:04269" := by decide +kernel
  refine ⟨headers _ zone _ .keeping, headers _ signed _ .keeping, headers _ known _ .keeping,
    files file ?_ _ .keeping, fun same => ?_⟩
  · intro header shown
    rw [named, Option.some.injEq] at shown
    exact shown ▸ known
  · have asked : classify "EPSG:2154" = .ok (.epsg "2154") := by decide +kernel
    have answers := alikeFor_iff.mp (converse "EPSG:2154" same) "2154" asked
    have different : first.crsOfCode "2154" ≠ second.crsOfCode "2154" := by decide +kernel
    exact different answers

end Registry

end Georeference
