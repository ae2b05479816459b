/-
**What a template stands for.**

A text stands for what its parts stand for, one after the other. Nothing that is put in is looked at
again, since the parts are those of the text alone.

### One part

What a part stands for is said by the relation `Stands`: a character for itself, and a substitution
that is not closed for an error. An expression is cut at the first `:-` into a name and a default.
It stands for the value of the trimmed name if that is set and not empty, and otherwise for the
default as it is written. An expression without `:-` is a name as a whole, whose value may be empty
but has to be set. Every part stands for one thing, and is resolved as that (`stands_iff_resolve`).

### All parts

* `resolveAll_eq_ok_iff`, `resolveAll_isOk_iff`: parts stand for what each of them stands for,
  joined.
* `resolveAll_eq_error_iff`: or the leftmost one that stands for nothing is blamed.

### The theorem

`expand_by_parts`: a text falls into parts in one way, stands for a text exactly when each part
does, and otherwise for the error of the leftmost part that does not. The error names the expression
of a name that is not set, or all that stands behind an opening brace without a closing one.

**The proof is by induction on the parts.** The first part is blamed, or it stands for something and
the rest decides. For the leftmost part that is blamed the parts before it are resolved first, and
resolving then goes on behind them (`resolveAll_append`).
-/

import Georeference.Proofs.Template.Parts
import Georeference.Proofs.Text.Search

namespace Georeference.Template

open Text (FirstAt trim)

/-- **What a part stands for**: a text, or an error. -/
inductive Stands (lookup : String → Option String) : Part → Except Fault (List Char) → Prop
  | literal (c : Char) : Stands lookup (.literal c) (.ok [c])
  | value {expression name default : List Char} {value : String}
      (cut : FirstAt [':', '-'] expression name default)
      (set : lookup (String.ofList (trim name)) = some value) (nonempty : value ≠ "") :
      Stands lookup (.substitution expression) (.ok value.toList)
  | default {expression name default : List Char}
      (cut : FirstAt [':', '-'] expression name default)
      (missing : ∀ value, lookup (String.ofList (trim name)) = some value → value = "") :
      Stands lookup (.substitution expression) (.ok default)
  | bare {expression : List Char} {value : String} (uncut : ¬ [':', '-'] <:+: expression)
      (set : lookup (String.ofList (trim expression)) = some value) :
      Stands lookup (.substitution expression) (.ok value.toList)
  | unset {expression : List Char} (uncut : ¬ [':', '-'] <:+: expression)
      (missing : lookup (String.ofList (trim expression)) = none) :
      Stands lookup (.substitution expression) (.error (.unset (String.ofList expression)))
  | unclosed (expression : List Char) :
      Stands lookup (.unclosed expression) (.error (.unclosed (String.ofList expression)))

variable {lookup : String → Option String} {part : Part} {all : List Part}

/-! ### One part -/

theorem Stands.resolve_eq {answer : Except Fault (List Char)} (stands : Stands lookup part answer) :
    resolve lookup part = answer := by
  cases stands with
  | literal c => rfl
  | value cut set nonempty =>
    rw [resolve, evaluate, Text.cut?_eq_some_iff.mpr cut]
    dsimp only
    rw [valueOf, set]
    exact if_neg (by simpa using nonempty)
  | @default expression name default cut missing =>
    rw [resolve, evaluate, Text.cut?_eq_some_iff.mpr cut]
    dsimp only [valueOf]
    cases found : lookup (String.ofList (trim name)) with
    | none => rfl
    | some value => exact if_pos (by simpa using missing value found)
  | bare uncut set =>
    rw [resolve, evaluate, Text.cut?_eq_none_iff.mpr uncut]
    dsimp only
    rw [valueOf, set]
  | unset uncut missing =>
    rw [resolve, evaluate, Text.cut?_eq_none_iff.mpr uncut]
    dsimp only
    rw [valueOf, missing]
  | unclosed expression => rfl

/-- **Every part stands for something**, or for an error. -/
theorem exists_stands (lookup : String → Option String) (part : Part) :
    ∃ answer, Stands lookup part answer := by
  cases part with
  | literal c => exact ⟨_, .literal c⟩
  | unclosed expression => exact ⟨_, .unclosed expression⟩
  | substitution expression =>
    cases cut : Text.cut? [':', '-'] expression with
    | none =>
      have uncut := Text.cut?_eq_none_iff.mp cut
      cases found : lookup (String.ofList (trim expression)) with
      | none => exact ⟨_, .unset uncut found⟩
      | some value => exact ⟨_, .bare uncut found⟩
    | some both =>
      have first := Text.cut?_eq_some_iff.mp cut
      by_cases missing : ∀ value, lookup (String.ofList (trim both.1)) = some value → value = ""
      · exact ⟨_, .default first missing⟩
      · obtain ⟨value, missing⟩ := not_forall.mp missing
        obtain ⟨set, nonempty⟩ := Classical.not_imp.mp missing
        exact ⟨_, .value first set nonempty⟩

/-- **A part is resolved as what it stands for.** -/
theorem stands_iff_resolve {answer : Except Fault (List Char)} :
    Stands lookup part answer ↔ resolve lookup part = answer := by
  constructor
  · exact Stands.resolve_eq
  · rintro rfl
    obtain ⟨found, stands⟩ := exists_stands lookup part
    rwa [stands.resolve_eq]

/-! ### All parts -/

theorem resolveAll_cons_eq_ok_iff {text : List Char} :
    resolveAll lookup (part :: all) = .ok text ↔
      ∃ piece behind, Stands lookup part (.ok piece) ∧ resolveAll lookup all = .ok behind ∧
        text = piece ++ behind := by
  simp only [stands_iff_resolve, resolveAll]
  cases resolve lookup part with
  | error fault => simp
  | ok piece =>
    cases resolveAll lookup all with
    | error fault => simp [Except.map]
    | ok behind => simp [Except.map, eq_comm]

/-- The first part is blamed, or one of those behind it. -/
theorem resolveAll_cons_eq_error_iff {fault : Fault} :
    resolveAll lookup (part :: all) = .error fault ↔
      Stands lookup part (.error fault) ∨
        ∃ piece, Stands lookup part (.ok piece) ∧ resolveAll lookup all = .error fault := by
  simp only [stands_iff_resolve, resolveAll]
  cases resolve lookup part with
  | error cause => simp
  | ok piece =>
    cases resolveAll lookup all with
    | error cause => simp [Except.map]
    | ok behind => simp [Except.map]

/-- Behind parts that stand for a text, resolving goes on with the rest. -/
theorem resolveAll_append {front : List Char} {later : List Part}
    (resolved : resolveAll lookup all = .ok front) :
    resolveAll lookup (all ++ later) = (resolveAll lookup later).map (front ++ ·) := by
  induction all generalizing front with
  | nil =>
    obtain rfl : [] = front := Except.ok.inj resolved
    rw [List.nil_append]
    cases resolveAll lookup later <;> rfl
  | cons part rest ih =>
    obtain ⟨piece, behind, stands, others, rfl⟩ := resolveAll_cons_eq_ok_iff.mp resolved
    rw [List.cons_append, resolveAll, stands.resolve_eq, ih others]
    cases resolveAll lookup later with
    | error fault => rfl
    | ok more => exact congrArg Except.ok (List.append_assoc piece behind more).symm

/-- **Parts stand for what each of them stands for**, joined. -/
theorem resolveAll_eq_ok_iff {text : List Char} :
    resolveAll lookup all = .ok text ↔
      ∃ pieces, List.Forall₂ (fun part piece => Stands lookup part (.ok piece)) all pieces ∧
        text = pieces.flatten := by
  induction all generalizing text with
  | nil =>
    constructor
    · intro resolved
      exact ⟨[], .nil, (Except.ok.inj resolved).symm⟩
    · rintro ⟨pieces, stand, rfl⟩
      cases stand
      rfl
  | cons part rest ih =>
    rw [resolveAll_cons_eq_ok_iff]
    constructor
    · rintro ⟨piece, behind, stands, others, rfl⟩
      obtain ⟨pieces, stand, rfl⟩ := ih.mp others
      exact ⟨piece :: pieces, .cons stands stand, rfl⟩
    · rintro ⟨pieces, stand, rfl⟩
      cases stand with
      | @cons _ piece _ later stands others =>
        exact ⟨piece, later.flatten, stands, ih.mpr ⟨later, others, rfl⟩, rfl⟩

theorem resolveAll_isOk_iff :
    (∃ text, resolveAll lookup all = .ok text) ↔
      ∀ part ∈ all, ∃ piece, Stands lookup part (.ok piece) := by
  induction all with
  | nil => exact iff_of_true ⟨[], rfl⟩ (by simp)
  | cons part rest ih =>
    rw [List.forall_mem_cons, ← ih]
    simp only [resolveAll_cons_eq_ok_iff]
    constructor
    · rintro ⟨text, piece, behind, stands, others, -⟩
      exact ⟨⟨piece, stands⟩, behind, others⟩
    · rintro ⟨⟨piece, stands⟩, behind, others⟩
      exact ⟨piece ++ behind, piece, behind, stands, others, rfl⟩

/-- **The part that is blamed** is the leftmost one that stands for nothing. -/
theorem resolveAll_eq_error_iff {fault : Fault} :
    resolveAll lookup all = .error fault ↔
      ∃ before bad after, all = before ++ bad :: after ∧
        (∀ part ∈ before, ∃ piece, Stands lookup part (.ok piece)) ∧
        Stands lookup bad (.error fault) := by
  constructor
  · intro failed
    induction all with
    | nil => cases failed
    | cons part rest ih =>
      obtain blamed | ⟨piece, stands, others⟩ := resolveAll_cons_eq_error_iff.mp failed
      · exact ⟨[], part, rest, rfl, by simp, blamed⟩
      · obtain ⟨before, bad, after, rfl, stand, blamed⟩ := ih others
        exact ⟨part :: before, bad, after, rfl,
          List.forall_mem_cons.mpr ⟨⟨piece, stands⟩, stand⟩, blamed⟩
  · rintro ⟨before, bad, after, rfl, stand, blamed⟩
    obtain ⟨front, resolved⟩ := resolveAll_isOk_iff.mpr stand
    rw [resolveAll_append resolved, resolveAll_cons_eq_error_iff.mpr (.inl blamed)]
    rfl

/-! ### Texts -/

theorem expand_eq_ok_iff {text result : String} :
    expand lookup text = .ok result ↔
      resolveAll lookup (parts text.toList) = .ok result.toList := by
  unfold expand
  cases resolveAll lookup (parts text.toList) with
  | error fault => simp [Except.map]
  | ok found => simp [Except.map, ← String.toList_inj]

theorem expand_eq_error_iff {text : String} {fault : Fault} :
    expand lookup text = .error fault ↔
      resolveAll lookup (parts text.toList) = .error fault := by
  unfold expand
  cases resolveAll lookup (parts text.toList) with
  | error cause => simp [Except.map]
  | ok found => simp [Except.map]

/-- **A text stands for what its parts stand for**, or the leftmost fault is blamed. -/
theorem expand_by_parts (lookup : String → Option String) (text : String) :
    ∃ all, (∀ other, Cuts text.toList other ↔ other = all) ∧
      ((∃ result, expand lookup text = .ok result) ↔
        ∀ part ∈ all, ∃ piece, Stands lookup part (.ok piece)) ∧
      (∀ result, expand lookup text = .ok result ↔
        ∃ pieces, List.Forall₂ (fun part piece => Stands lookup part (.ok piece)) all pieces ∧
          result.toList = pieces.flatten) ∧
      ∀ fault, expand lookup text = .error fault ↔
        ∃ before bad after, all = before ++ bad :: after ∧
          (∀ part ∈ before, ∃ piece, Stands lookup part (.ok piece)) ∧
          Stands lookup bad (.error fault) := by
  refine ⟨parts text.toList, fun other => cuts_iff.trans eq_comm, ?_, ?_, ?_⟩
  · rw [← resolveAll_isOk_iff]
    constructor
    · rintro ⟨result, expanded⟩
      exact ⟨_, expand_eq_ok_iff.mp expanded⟩
    · rintro ⟨found, resolved⟩
      refine ⟨String.ofList found, expand_eq_ok_iff.mpr ?_⟩
      rw [resolved, String.toList_ofList]
  · intro result
    rw [expand_eq_ok_iff, resolveAll_eq_ok_iff]
  · intro fault
    rw [expand_eq_error_iff, resolveAll_eq_error_iff]

/-- A value that looks like a substitution, a name that is not set, and an open brace. -/
theorem expand_by_parts_dollars :
    let lookup : String → Option String := fun name =>
      if name = "A" then some "$\x7bB\x7d" else if name = "E" then some "" else none
    expand lookup "$$\x7bA:-x\x7d$\x7b E :-d:-e\x7d" = .ok "$$\x7bB\x7dd:-e" ∧
    expand lookup "$\x7b A\x7d$\x7b B \x7d$\x7bC" = .error (.unset " B ") ∧
    expand lookup "$\x7bE\x7d$\x7bB:-" = .error (.unclosed "B:-") := by
  intro lookup
  have stands : ∀ {part piece}, resolve lookup part = .ok piece → Stands lookup part (.ok piece) :=
    stands_iff_resolve.mpr
  refine ⟨?_, ?_, ?_⟩
  · obtain ⟨all, falls, -, expanded, -⟩ :=
      expand_by_parts lookup "$$\x7bA:-x\x7d$\x7b E :-d:-e\x7d"
    obtain rfl := (falls [.literal '$', .substitution "A:-x".toList,
      .substitution " E :-d:-e".toList]).mp (cuts_iff.mpr (by decide))
    exact (expanded _).mpr ⟨[['$'], "$\x7bB\x7d".toList, "d:-e".toList],
      .cons (.literal '$') (.cons (stands (by decide)) (.cons (stands (by decide)) .nil)),
      by decide⟩
  · obtain ⟨all, falls, -, -, blamed⟩ :=
      expand_by_parts lookup "$\x7b A\x7d$\x7b B \x7d$\x7bC"
    obtain rfl := (falls [.substitution " A".toList, .substitution " B ".toList,
      .unclosed ['C']]).mp (cuts_iff.mpr (by decide))
    refine (blamed _).mpr ⟨[_], _, _, rfl, ?_, stands_iff_resolve.mpr (by decide)⟩
    exact List.forall_mem_singleton.mpr ⟨"$\x7bB\x7d".toList, stands (by decide)⟩
  · obtain ⟨all, falls, -, -, blamed⟩ := expand_by_parts lookup "$\x7bE\x7d$\x7bB:-"
    obtain rfl := (falls [.substitution ['E'], .unclosed "B:-".toList]).mp
      (cuts_iff.mpr (by decide))
    refine (blamed _).mpr ⟨[_], _, _, rfl, ?_, .unclosed _⟩
    exact List.forall_mem_singleton.mpr ⟨[], stands (by decide)⟩

end Georeference.Template
