/-
**The words of a text are its maximal runs.**

The words are cut out of the pieces between blank characters. Here they are described without that:
blank characters, then a run that no blank character interrupts and that a blank character or the
end of the text ends, and so on.

### Maximal runs

* `Runs`: the maximal runs of characters that are not blank, from left to right.
* `exists_runs`: every text has such runs.
* `runs_iff_words`: they are its words, and nothing else is.

### Joined words

`Joined` are words that are written one after the other with blank characters between any two of
them. Which ones and how many is left open, but there is at least one. If no word has a blank
character itself, they are the runs of what is written (`Joined.runs`).

**The proof is one character at a time, from the end of the text.** A blank character in front of a
text starts no run (`Runs.cons_blank`). Another character is a run of its own where the text goes on
with a blank one, and lengthens the first run where it does not (`Runs.cons_shown`). So every text
has runs. That these are the words is an induction on the runs: blank characters in front of a text
change no word, and a run that ends where it should is the first one. Since a text has one list of
words, it has one list of runs.
-/

import Georeference.Proofs.Text.Words

namespace Georeference.Text

/-- **The maximal runs** of characters that are not blank, from left to right. -/
inductive Runs : List Char → List (List Char) → Prop
  | none {blanks : List Char} (blank : ∀ c ∈ blanks, isBlank c = true) : Runs blanks []
  | next {blanks run rest : List Char} {later : List (List Char)}
      (blank : ∀ c ∈ blanks, isBlank c = true) (nonempty : run ≠ [])
      (shown : ∀ c ∈ run, isBlank c = false) (ends : ∀ c ∈ rest.head?, isBlank c = true)
      (behind : Runs rest later) : Runs (blanks ++ (run ++ rest)) (run :: later)

variable {text : List Char} {all : List (List Char)}

/-! ### Words behind blank characters, and behind a word -/

theorem words_blanks_append {blanks : List Char} (blank : ∀ c ∈ blanks, isBlank c = true)
    (text : List Char) : words (blanks ++ text) = words text := by
  induction blanks with
  | nil => rfl
  | cons c rest ih =>
    obtain ⟨first, others⟩ := List.forall_mem_cons.mp blank
    have cut := words_append_cons first [] (rest ++ text)
    rw [List.nil_append] at cut
    rw [List.cons_append, cut, ih others]
    rfl

theorem words_run_append {run rest : List Char} (nonempty : run ≠ [])
    (shown : ∀ c ∈ run, isBlank c = false) (ends : ∀ c ∈ rest.head?, isBlank c = true) :
    words (run ++ rest) = run :: words rest := by
  cases rest with
  | nil =>
    rw [List.append_nil, words_of_shown nonempty shown]
    rfl
  | cons c after =>
    have blank : isBlank c = true := ends c rfl
    have single : ∀ d ∈ [c], isBlank d = true := List.forall_mem_singleton.mpr blank
    have skipped : words (c :: after) = words after := words_blanks_append single after
    rw [words_append_cons blank, words_of_shown nonempty shown, skipped]
    rfl

/-! ### Runs -/

/-- **Maximal runs are words.** -/
theorem Runs.words_eq (runs : Runs text all) : words text = all := by
  induction runs with
  | none blank =>
    have skipped := words_blanks_append blank []
    rwa [List.append_nil] at skipped
  | next blank nonempty shown ends behind ih =>
    rw [words_blanks_append blank, words_run_append nonempty shown ends, ih]

/-- A blank character in front of a text starts no run. -/
theorem Runs.cons_blank {c : Char} (blank : isBlank c = true) (runs : Runs text all) :
    Runs (c :: text) all := by
  cases runs with
  | none others => exact .none (List.forall_mem_cons.mpr ⟨blank, others⟩)
  | next others nonempty shown ends behind =>
    exact .next (List.forall_mem_cons.mpr ⟨blank, others⟩) nonempty shown ends behind

/-- A run at the front has no blank characters before it. -/
theorem Runs.front {run rest : List Char} (nonempty : run ≠ [])
    (shown : ∀ c ∈ run, isBlank c = false) (ends : ∀ c ∈ rest.head?, isBlank c = true)
    (behind : Runs rest all) : Runs (run ++ rest) (run :: all) := by
  have blank : ∀ c ∈ [], isBlank c = true := List.forall_mem_nil _
  have runs := Runs.next blank nonempty shown ends behind
  exact runs

/-- **Another character** is a run of its own, or it lengthens the first one. -/
theorem Runs.cons_shown {c : Char} (shown : isBlank c = false) (runs : Runs text all) :
    ∃ longer, Runs (c :: text) longer := by
  by_cases ends : ∀ d ∈ text.head?, isBlank d = true
  · exact ⟨[c] :: all, .front (List.cons_ne_nil c []) (List.forall_mem_singleton.mpr shown) ends
      runs⟩
  · cases runs with
    | none blank => exact absurd (fun d first => blank d (List.mem_of_mem_head? first)) ends
    | @next blanks run rest later blank nonempty unblank stops behind =>
      cases blanks with
      | nil =>
        exact ⟨(c :: run) :: later, .front (List.cons_ne_nil c run)
          (List.forall_mem_cons.mpr ⟨shown, unblank⟩) stops behind⟩
      | cons d others =>
        have first : isBlank d = true := blank d List.mem_cons_self
        refine absurd (fun e front => ?_) ends
        rwa [← Option.some.inj front]

/-- **Every text has maximal runs.** -/
theorem exists_runs (text : List Char) : ∃ all, Runs text all := by
  induction text with
  | nil => exact ⟨[], .none (List.forall_mem_nil _)⟩
  | cons c rest ih =>
    obtain ⟨all, runs⟩ := ih
    cases blank : isBlank c with
    | true => exact ⟨all, runs.cons_blank blank⟩
    | false => exact runs.cons_shown blank

/-- **The maximal runs of a text are its words**, and nothing else is. -/
theorem runs_iff_words : Runs text all ↔ words text = all := by
  refine ⟨Runs.words_eq, ?_⟩
  rintro rfl
  obtain ⟨found, runs⟩ := exists_runs text
  rwa [runs.words_eq]

/-! ### Words with blank characters between them -/

/-- **Words that are written one after the other**, with blank characters between them. -/
inductive Joined : List (List Char) → List Char → Prop
  | none : Joined [] []
  | last (word : List Char) : Joined [word] word
  | next {word follower blanks rest : List Char} {later : List (List Char)}
      (apart : blanks ≠ []) (blank : ∀ c ∈ blanks, isBlank c = true)
      (behind : Joined (follower :: later) rest) :
      Joined (word :: follower :: later) (word ++ (blanks ++ rest))

/-- Single spaces are enough. -/
theorem joined_intercalate (all : List (List Char)) : Joined all ([' '].intercalate all) := by
  induction all with
  | nil => exact .none
  | cons word rest ih =>
    cases rest with
    | nil =>
      rw [List.intercalate_singleton]
      exact .last word
    | cons follower later =>
      rw [List.intercalate_cons_cons, List.append_assoc]
      exact .next (List.cons_ne_nil _ _) (List.forall_mem_singleton.mpr rfl) ih

/-- Blank characters in front of a text start no run. -/
theorem Runs.blanks_append {blanks : List Char} (blank : ∀ c ∈ blanks, isBlank c = true)
    (runs : Runs text all) : Runs (blanks ++ text) all := by
  induction blanks with
  | nil => exact runs
  | cons c rest ih =>
    obtain ⟨first, others⟩ := List.forall_mem_cons.mp blank
    exact (ih others).cons_blank first

/-- **Joined words are the runs of what is written**, if none has a blank character. -/
theorem Joined.runs (joined : Joined all text)
    (shown : ∀ word ∈ all, word ≠ [] ∧ ∀ c ∈ word, isBlank c = false) : Runs text all := by
  induction joined with
  | none => exact .none (List.forall_mem_nil _)
  | last word =>
    obtain ⟨nonempty, unblank⟩ := shown word List.mem_cons_self
    have runs := Runs.front nonempty unblank (by simp) (.none (List.forall_mem_nil _))
    rwa [List.append_nil] at runs
  | @next word follower blanks rest later apart blank behind ih =>
    obtain ⟨⟨nonempty, unblank⟩, others⟩ := List.forall_mem_cons.mp shown
    refine .front nonempty unblank ?_ ((ih others).blanks_append blank)
    intro c first
    rw [List.head?_append_of_ne_nil _ apart] at first
    exact blank c (List.mem_of_mem_head? first)

end Georeference.Text
