/-
**What the expansion of a template depends on.**

A template is expanded part by part, so texts can be expanded apart and joined afterwards, as long
as no part reaches from one into the other; and of the environment only the names count that the
substitutions of the text ask for.

### Names

* `Asks`: the name that an expression asks for, which is what stands before the first `:-` in it or
  else all of it, without the blank characters around that.
* `Mentions`: the names that the closed substitutions of a text ask for.

### The theorem

`expand_compositional` has three parts.

* If a text is expanded, what stands behind it is expanded as it would be alone, to a text or to an
  error, unless a dollar sign at the end of the former meets an opening brace at the front of the
  latter (`expand_append`).
* A text in which no substitution begins is expanded to itself (`expand_of_plain`).
* Environments that agree on the names that a text mentions expand it to the same text or the same
  error (`expand_congr`).

**The proof is on the parts.** A text that is expanded leaves no substitution open, because an open
one stands for an error, so the parts of the two texts are those of both together (`Cuts.append`),
and resolving goes on behind the first ones. For environments the relation `Stands` is enough: each
of its cases looks up one name at most, and that is the one the expression asks for
(`Stands.congr`).
-/

import Georeference.Proofs.Template.Expansion

namespace Georeference.Template

open Text (FirstAt trim)

/-- **The name that an expression asks for**, without blank characters around it. -/
inductive Asks (expression : List Char) : String → Prop
  | before {name default : List Char} (cut : FirstAt [':', '-'] expression name default) :
      Asks expression (String.ofList (trim name))
  | whole (uncut : ¬ [':', '-'] <:+: expression) :
      Asks expression (String.ofList (trim expression))

/-- A name that one of the closed substitutions of a text asks for. -/
def Mentions (text name : String) : Prop :=
  ∃ all expression, Cuts text.toList all ∧ .substitution expression ∈ all ∧ Asks expression name

variable {lookup other : String → Option String} {first second text : String}

/-! ### Two texts -/

/-- Nothing is left open in a text that is expanded. -/
theorem unclosed_notMem_of_expand {front : String} (expanded : expand lookup first = .ok front)
    (expression : List Char) : .unclosed expression ∉ parts first.toList := by
  intro member
  obtain ⟨piece, stands⟩ :=
    resolveAll_isOk_iff.mp ⟨_, expand_eq_ok_iff.mp expanded⟩ _ member
  cases stands

/-- **A text behind one that is expanded** is expanded as if it stood alone. -/
theorem expand_append {front : String} (expanded : expand lookup first = .ok front)
    (apart : first.toList.getLast? = some '$' → second.toList.head? ≠ some '\x7b') :
    expand lookup (first ++ second) = (expand lookup second).map (front ++ ·) := by
  have cuts : Cuts (first ++ second).toList (parts first.toList ++ parts second.toList) := by
    rw [String.toList_append]
    exact (cuts_iff.mpr rfl).append (cuts_iff.mpr rfl) (unclosed_notMem_of_expand expanded) apart
  unfold expand
  rw [cuts.parts_eq, resolveAll_append (expand_eq_ok_iff.mp expanded)]
  cases resolveAll lookup (parts second.toList) with
  | error fault => rfl
  | ok back =>
    refine congrArg Except.ok ?_
    rw [String.ofList_append, String.ofList_toList]

/-! ### Plain texts -/

theorem resolveAll_literals (lookup : String → Option String) (text : List Char) :
    resolveAll lookup (text.map .literal) = .ok text := by
  induction text with
  | nil => rfl
  | cons c rest ih =>
    rw [List.map_cons, resolveAll, ih]
    rfl

/-- **A text in which no substitution begins** stands for itself. -/
theorem expand_of_plain (plain : ¬ ['$', '\x7b'] <:+: text.toList) :
    expand lookup text = .ok text := by
  rw [expand_eq_ok_iff, (cuts_of_plain plain).parts_eq, resolveAll_literals]

/-! ### Two environments -/

/-- A part stands for the same where its name has the same value. -/
theorem Stands.congr {part : Part} {answer : Except Fault (List Char)}
    (stands : Stands lookup part answer)
    (agree : ∀ expression name, part = .substitution expression → Asks expression name →
      lookup name = other name) : Stands other part answer := by
  cases stands with
  | literal c => exact .literal c
  | value cut set nonempty =>
    rw [agree _ _ rfl (.before cut)] at set
    exact .value cut set nonempty
  | default cut missing =>
    rw [agree _ _ rfl (.before cut)] at missing
    exact .default cut missing
  | bare uncut set =>
    rw [agree _ _ rfl (.whole uncut)] at set
    exact .bare uncut set
  | unset uncut missing =>
    rw [agree _ _ rfl (.whole uncut)] at missing
    exact .unset uncut missing
  | unclosed expression => exact .unclosed expression

theorem resolveAll_congr {all : List Part}
    (same : ∀ part ∈ all, resolve lookup part = resolve other part) :
    resolveAll lookup all = resolveAll other all := by
  induction all with
  | nil => rfl
  | cons part rest ih =>
    obtain ⟨here, behind⟩ := List.forall_mem_cons.mp same
    rw [resolveAll, resolveAll, here, ih behind]

/-- **Environments that agree on the names of a text** expand it alike. -/
theorem expand_congr (agree : ∀ name, Mentions text name → lookup name = other name) :
    expand lookup text = expand other text := by
  unfold expand
  refine congrArg (Except.map String.ofList) (resolveAll_congr fun part member => ?_)
  obtain ⟨answer, stands⟩ := exists_stands lookup part
  have stands' : Stands other part answer := by
    refine stands.congr ?_
    rintro expression name rfl asks
    exact agree name ⟨_, expression, cuts_iff.mpr rfl, member, asks⟩
  rw [stands.resolve_eq, stands'.resolve_eq]

/-! ### All of it together -/

/-- **Expansion is compositional and local.** -/
theorem expand_compositional :
    (∀ (lookup : String → Option String) (first second front : String),
      expand lookup first = .ok front →
      ¬ (first.toList.getLast? = some '$' ∧ second.toList.head? = some '\x7b') →
      (∀ back, expand lookup second = .ok back →
        expand lookup (first ++ second) = .ok (front ++ back)) ∧
      ∀ fault, expand lookup second = .error fault →
        expand lookup (first ++ second) = .error fault) ∧
    (∀ (lookup : String → Option String) (text : String),
      ¬ ['$', '\x7b'] <:+: text.toList → expand lookup text = .ok text) ∧
    ∀ (lookup other : String → Option String) (text : String),
      (∀ name, Mentions text name → lookup name = other name) →
        expand lookup text = expand other text := by
  refine ⟨?_, fun _ _ => expand_of_plain, fun _ _ _ => expand_congr⟩
  intro lookup first second front expanded apart
  have joined := expand_append expanded (not_and.mp apart)
  constructor
  · intro back expanded'
    rw [joined, expanded']
    rfl
  · intro fault failed
    rw [joined, failed]
    rfl

/-- A text that ends with a dollar sign, a plain one, and two environments for one name. -/
theorem expand_compositional_dollar :
    let lookup : String → Option String := fun name => if name = "A" then some "x" else none
    let other : String → Option String := fun name => if name = "B" then none else some "x"
    expand lookup ("$\x7b A \x7d$" ++ "\x7d$\x7bB:-\x7d") = .ok ("x$" ++ "\x7d") ∧
    expand lookup ("$\x7b A \x7d$" ++ "$\x7bB\x7d") = .error (.unset "B") ∧
    expand lookup "\x7b$A\x7d" = .ok "\x7b$A\x7d" ∧
    expand lookup "$\x7bA:-D\x7d" = expand other "$\x7bA:-D\x7d" := by
  intro lookup other
  obtain ⟨joined, plain, alike⟩ := expand_compositional
  have front : expand lookup "$\x7b A \x7d$" = .ok "x$" := by decide +kernel
  refine ⟨?_, ?_, ?_, ?_⟩
  · exact (joined lookup _ _ _ front (by decide)).1 _ (by decide +kernel)
  · exact (joined lookup _ _ _ front (by decide)).2 _ (by decide +kernel)
  · exact plain lookup _ (by decide)
  · refine alike lookup other _ ?_
    rintro name ⟨all, expression, cuts, member, asks⟩
    have found : parts "$\x7bA:-D\x7d".toList = [.substitution "A:-D".toList] := by decide
    rw [← cuts_iff.mp cuts, found, List.mem_singleton] at member
    obtain rfl := Part.substitution.inj member
    have cut : Text.cut? [':', '-'] "A:-D".toList = some (['A'], ['D']) := by decide
    cases asks with
    | before first =>
      rw [Text.cut?_eq_some_iff.mpr first, Option.some.injEq, Prod.mk.injEq] at cut
      rw [cut.1]
      decide
    | whole uncut =>
      rw [Text.cut?_eq_none_iff.mpr uncut] at cut
      cases cut

end Georeference.Template
