/-
**What each of the three notations looks like, and which of them a header has.**

The notations are described by relations on texts. A text can have the look of more than one of
them, so the theorem says which comes first.

### The notations

* `WritesZone`: a zone in full. That is two words, a numeral that fits into a word of 32 bits, and
  one character; what follows is kept apart by a space.
* `NamesZones`: at least the two words for a zone stand in front.
* `Unquoted`: a text without one single quote in front, if there is one, and without one at the end
  of what is left, if there is one there.
* `WritesCode`: `epsg:` in any case, and a code behind it.

### The theorem

`classify_outcomes`: with `shown` the header without the blank characters at its ends, a header asks
for a zone exactly when `shown` writes one. Otherwise it asks for nothing if the two words for a
zone stand in front, for a definition if `+proj` occurs, for a code if `shown` writes one, and for
nothing in all other cases.

**The proof is in two halves, split by the words for a zone.** If they stand in front, the field
behind them decides (`readZone_headD_eq_ok_iff`): it is a numeral and one character exactly when
`shown` writes a zone, because the pieces between spaces joined by spaces are the text again. A text
with two or more pieces that are not these words goes on to the other notations, as do texts with
fewer. There `+proj` decides, and then `epsg:` (`classifyOther_eq_proj4_iff`,
`classifyOther_eq_epsg_iff`).
-/

import Georeference.Header.Request
import Georeference.Proofs.Decimal.Integer
import Georeference.Proofs.Text.Search
import Georeference.Proofs.Text.Words
import Mathlib.Data.List.TakeWhile

namespace Georeference

/-! ### The notations -/

/-- A zone as it is written. -/
structure WritesZone (text numeral : List Char) (letter : Char) (rest : List Char) (zone : Int) :
    Prop where
  shape : text = "WGS84 UTM ".toList ++ (numeral ++ [letter]) ++ rest
  unspaced : ' ' ∉ numeral ++ [letter]
  apart : rest = [] ∨ ∃ after, rest = ' ' :: after
  denotes : Decimal.Denotes numeral zone
  fits : -2147483648 ≤ zone ∧ zone < 2147483648

/-- The two words in front of a zone. -/
def NamesZones (text : List Char) : Prop :=
  ∃ fields, Text.pieces (· == ' ') text = "WGS84".toList :: "UTM".toList :: fields

/-- One single quote less at each end, where there is one. -/
def Unquoted (text inner : List Char) : Prop :=
  ∃ middle, (text = '\'' :: middle ∨ text = middle ∧ middle.head? ≠ some '\'') ∧
    (middle = inner ++ ['\''] ∨ middle = inner ∧ inner.getLast? ≠ some '\'')

/-- A text is `epsg:` in any case and a code. -/
def WritesCode (text code : List Char) : Prop :=
  ∃ word, text = word ++ code ∧ word.map Char.toLower = "epsg:".toList

/-! ### The field of a zone -/

/-- Only `S` in either case means the south. -/
theorem ofLetter_eq_iff {letter : Char} {hemisphere : Hemisphere} :
    Hemisphere.ofLetter letter = hemisphere ↔
      (hemisphere = .south ↔ letter = 'S' ∨ letter = 's') := by
  unfold Hemisphere.ofLetter
  by_cases south : letter = 'S' ∨ letter = 's'
  · cases hemisphere <;> simp [south]
  · cases hemisphere <;> simp [not_or.mp south]

theorem readZone_append (numeral : List Char) (letter : Char) :
    readZone (numeral ++ [letter]) =
      match Decimal.boundedInteger? UInt32.size numeral with
      | none => .error (.zoneNumber (String.ofList numeral))
      | some number => .ok (number, .ofLetter letter) := by
  rewrite [readZone, List.getLast?_concat, List.dropLast_concat]
  rfl

/-- **The field of a zone** is a numeral and one character. -/
theorem readZone_eq_ok_iff {field : List Char} {zone : Int} {hemisphere : Hemisphere} :
    readZone field = .ok (zone, hemisphere) ↔
      ∃ numeral letter, field = numeral ++ [letter] ∧ Decimal.Denotes numeral zone ∧
        (-2147483648 ≤ zone ∧ zone < 2147483648) ∧ Hemisphere.ofLetter letter = hemisphere := by
  constructor
  · intro read
    cases last : field.getLast? with
    | none =>
      rw [readZone, last] at read
      cases read
    | some letter =>
      obtain ⟨numeral, rfl⟩ := List.getLast?_eq_some_iff.mp last
      rw [readZone_append] at read
      cases found : Decimal.boundedInteger? UInt32.size numeral with
      | none =>
        rw [found] at read
        cases read
      | some number =>
        rw [found] at read
        obtain ⟨rfl, rfl⟩ := Prod.mk.inj (Except.ok.inj read)
        obtain ⟨denotes, fits⟩ := Decimal.boundedInteger?_eq_some_iff.mp found
        rw [Decimal.half_word] at fits
        exact ⟨numeral, letter, rfl, denotes, fits, rfl⟩
  · rintro ⟨numeral, letter, rfl, denotes, fits, rfl⟩
    have found : Decimal.boundedInteger? UInt32.size numeral = some zone := by
      rw [Decimal.boundedInteger?_eq_some_iff, Decimal.half_word]
      exact ⟨denotes, fits⟩
    rw [readZone_append, found]

/-! ### The text of a zone -/

theorem eq_append_of_pieces {text field : List Char} {others : List (List Char)}
    (cut : Text.pieces (· == ' ') text = "WGS84".toList :: "UTM".toList :: field :: others) :
    ∃ rest, text = "WGS84 UTM ".toList ++ field ++ rest ∧
      (rest = [] ∨ ∃ after, rest = ' ' :: after) := by
  have joined := Text.intercalate_pieces text
  rw [cut] at joined
  cases others with
  | nil => exact ⟨[], by rw [← joined]; simp, Or.inl rfl⟩
  | cons next later =>
    refine ⟨' ' :: [' '].intercalate (next :: later), ?_, Or.inr ⟨_, rfl⟩⟩
    rw [← joined]
    simp

theorem pieces_of_eq_append {field rest : List Char} (unspaced : ' ' ∉ field)
    (apart : rest = [] ∨ ∃ after, rest = ' ' :: after) :
    ∃ others, Text.pieces (· == ' ') ("WGS84 UTM ".toList ++ field ++ rest) =
      "WGS84".toList :: "UTM".toList :: field :: others := by
  obtain ⟨others, cut⟩ := Text.pieces_append_of_apart unspaced apart
  refine ⟨others, ?_⟩
  have shape : "WGS84 UTM ".toList ++ field ++ rest =
      "WGS84".toList ++ ' ' :: ("UTM".toList ++ ' ' :: (field ++ rest)) := by
    simp
  rw [shape, Text.pieces_append_cons (by decide), Text.pieces_append_cons (by decide), cut]
  rfl

theorem WritesZone.pieces {text numeral rest : List Char} {letter : Char} {zone : Int}
    (writes : WritesZone text numeral letter rest zone) :
    ∃ others, Text.pieces (· == ' ') text =
      "WGS84".toList :: "UTM".toList :: (numeral ++ [letter]) :: others := by
  rw [writes.shape]
  exact pieces_of_eq_append writes.unspaced writes.apart

theorem WritesZone.namesZones {text numeral rest : List Char} {letter : Char} {zone : Int}
    (writes : WritesZone text numeral letter rest zone) : NamesZones text := by
  obtain ⟨others, cut⟩ := writes.pieces
  exact ⟨_, cut⟩

/-- **The fields behind the two words** give the zone that is written. -/
theorem readZone_headD_eq_ok_iff {text : List Char} {fields : List (List Char)}
    (cut : Text.pieces (· == ' ') text = "WGS84".toList :: "UTM".toList :: fields) {zone : Int}
    {hemisphere : Hemisphere} :
    readZone (fields.headD []) = .ok (zone, hemisphere) ↔
      ∃ numeral letter rest, WritesZone text numeral letter rest zone ∧
        (hemisphere = .south ↔ letter = 'S' ∨ letter = 's') := by
  constructor
  · intro read
    cases fields with
    | nil => cases read
    | cons field others =>
      obtain ⟨rest, shape, apart⟩ := eq_append_of_pieces cut
      have unspaced : ' ' ∉ field := Text.space_notMem_of_mem_pieces (by rw [cut]; simp)
      obtain ⟨numeral, letter, rfl, denotes, fits, hemi⟩ := readZone_eq_ok_iff.mp read
      exact ⟨numeral, letter, rest, ⟨shape, unspaced, apart, denotes, fits⟩,
        ofLetter_eq_iff.mp hemi⟩
  · rintro ⟨numeral, letter, rest, writes, hemi⟩
    obtain ⟨others, again⟩ := writes.pieces
    rw [cut] at again
    simp only [List.cons.injEq, true_and] at again
    rw [again]
    exact readZone_eq_ok_iff.mpr
      ⟨numeral, letter, rfl, writes.denotes, writes.fits, ofLetter_eq_iff.mpr hemi⟩

/-- They give no zone when none is written. -/
theorem readZone_headD_eq_error_iff {text : List Char} {fields : List (List Char)}
    (cut : Text.pieces (· == ' ') text = "WGS84".toList :: "UTM".toList :: fields) :
    (∃ fault, readZone (fields.headD []) = .error fault) ↔
      ¬ ∃ numeral letter rest zone, WritesZone text numeral letter rest zone := by
  cases read : readZone (fields.headD []) with
  | error fault =>
    refine iff_of_true ⟨fault, rfl⟩ ?_
    rintro ⟨numeral, letter, rest, zone, writes⟩
    have written := (readZone_headD_eq_ok_iff cut).mpr
      ⟨numeral, letter, rest, writes, ofLetter_eq_iff.mp rfl⟩
    rw [read] at written
    cases written
  | ok found =>
    refine iff_of_false (by simp) (not_not_intro ?_)
    obtain ⟨numeral, letter, rest, writes, -⟩ := (readZone_headD_eq_ok_iff cut).mp read
    exact ⟨numeral, letter, rest, found.1, writes⟩

theorem NamesZones.head? {text : List Char} (named : NamesZones text) : text.head? = some 'W' := by
  obtain ⟨fields, cut⟩ := named
  have joined := Text.intercalate_pieces text
  rw [cut, List.intercalate_cons_cons] at joined
  rw [← joined]
  rfl

/-! ### Quotes and codes -/

theorem dropFrontQuote_eq_iff {text middle : List Char} :
    dropFrontQuote text = middle ↔
      text = '\'' :: middle ∨ text = middle ∧ middle.head? ≠ some '\'' := by
  unfold dropFrontQuote
  split
  · rename_i rest
    constructor
    · rintro rfl
      exact Or.inl rfl
    · rintro (same | ⟨rfl, other⟩)
      · exact (List.cons.inj same).2
      · exact absurd rfl other
  · rename_i unquoted
    constructor
    · rintro rfl
      refine Or.inr ⟨rfl, fun first => ?_⟩
      obtain ⟨rest, shape⟩ := List.head?_eq_some_iff.mp first
      exact unquoted rest shape
    · rintro (same | ⟨same, -⟩)
      · exact absurd same (unquoted middle)
      · exact same

theorem dropBackQuote_eq_iff {text inner : List Char} :
    dropBackQuote text = inner ↔
      text = inner ++ ['\''] ∨ text = inner ∧ inner.getLast? ≠ some '\'' := by
  unfold dropBackQuote
  by_cases quoted : text.getLast? = some '\''
  · rw [if_pos quoted]
    obtain ⟨before, rfl⟩ := List.getLast?_eq_some_iff.mp quoted
    rw [List.dropLast_concat]
    constructor
    · rintro rfl
      exact Or.inl rfl
    · rintro (same | ⟨rfl, other⟩)
      · exact List.append_cancel_right same
      · exact absurd quoted other
  · rw [if_neg quoted]
    constructor
    · rintro rfl
      exact Or.inr ⟨rfl, quoted⟩
    · rintro (rfl | ⟨same, -⟩)
      · exact absurd List.getLast?_concat quoted
      · exact same

/-- **One quote at either end** is dropped, and no more. -/
theorem stripQuotes_eq_iff {text inner : List Char} :
    stripQuotes text = inner ↔ Unquoted text inner := by
  unfold stripQuotes Unquoted
  constructor
  · intro same
    exact ⟨dropFrontQuote text, dropFrontQuote_eq_iff.mp rfl, dropBackQuote_eq_iff.mp same⟩
  · rintro ⟨middle, front, back⟩
    rw [dropFrontQuote_eq_iff.mpr front]
    exact dropBackQuote_eq_iff.mpr back

/-- **The code behind `epsg:`**, which may be in any case. -/
theorem afterEpsg?_eq_some_iff {text code : List Char} :
    afterEpsg? text = some code ↔ WritesCode text code := by
  rw [afterEpsg?, Option.ite_none_right_eq_some, Option.some.injEq, Text.sameIgnoringCase,
    beq_iff_eq]
  constructor
  · rintro ⟨same, rfl⟩
    exact ⟨text.take 5, (List.take_append_drop 5 text).symm, same⟩
  · rintro ⟨word, rfl, same⟩
    have long : word.length = 5 := by
      have lengths := congrArg List.length same
      rwa [List.length_map] at lengths
    rw [List.take_left' long, List.drop_left' long]
    exact ⟨same, rfl⟩

/-! ### Headers without the words for a zone -/

theorem classifyOther_of_mentioned {shown : List Char} (mentioned : "+proj".toList <:+: shown) :
    classifyOther shown = .ok (.proj4 (String.ofList (stripQuotes shown))) := by
  rw [classifyOther, if_pos ((Text.contains_iff_infix _ _).mpr mentioned)]

theorem classifyOther_of_unmentioned {shown : List Char}
    (unmentioned : ¬ "+proj".toList <:+: shown) :
    classifyOther shown =
      match afterEpsg? shown with
      | some code => .ok (.epsg (String.ofList code))
      | none => .error .unrecognized := by
  rewrite [classifyOther, if_neg (mt (Text.contains_iff_infix _ _).mp unmentioned)]
  rfl

theorem classifyOther_ne_utm (shown : List Char) {datum : String} {zone : Int}
    {hemisphere : Hemisphere} : classifyOther shown ≠ .ok (.utm datum zone hemisphere) := by
  unfold classifyOther
  split
  · simp
  · split <;> simp

theorem classifyOther_eq_proj4_iff {shown : List Char} {text : String} :
    classifyOther shown = .ok (.proj4 text) ↔
      "+proj".toList <:+: shown ∧ Unquoted shown text.toList := by
  by_cases mentioned : "+proj".toList <:+: shown
  · rw [classifyOther_of_mentioned mentioned, and_iff_right mentioned, ← stripQuotes_eq_iff,
      Except.ok.injEq, Request.proj4.injEq, Text.ofList_eq_iff]
  · rw [classifyOther_of_unmentioned mentioned]
    refine iff_of_false ?_ fun both => mentioned both.1
    split <;> simp

theorem classifyOther_eq_epsg_iff {shown : List Char} {code : String} :
    classifyOther shown = .ok (.epsg code) ↔
      ¬ "+proj".toList <:+: shown ∧ WritesCode shown code.toList := by
  by_cases mentioned : "+proj".toList <:+: shown
  · rw [classifyOther_of_mentioned mentioned]
    exact iff_of_false (by simp) fun both => both.1 mentioned
  · rw [classifyOther_of_unmentioned mentioned, and_iff_right mentioned, ← afterEpsg?_eq_some_iff]
    cases afterEpsg? shown with
    | none => simp
    | some found => simp [Text.ofList_eq_iff]

theorem classifyOther_eq_error_iff {shown : List Char} :
    (∃ fault, classifyOther shown = .error fault) ↔
      ¬ "+proj".toList <:+: shown ∧ ∀ code, ¬ WritesCode shown code := by
  by_cases mentioned : "+proj".toList <:+: shown
  · rw [classifyOther_of_mentioned mentioned]
    exact iff_of_false (by simp) fun both => both.1 mentioned
  · rw [classifyOther_of_unmentioned mentioned, and_iff_right mentioned]
    simp only [← afterEpsg?_eq_some_iff]
    cases afterEpsg? shown with
    | none => simp
    | some found => simp

/-! ### The request of a header -/

theorem classify_trim (header : String) :
    classify (String.ofList (Text.trim header.toList)) = classify header := by
  unfold classify
  rw [String.toList_ofList, Text.trim_trim]

/-- A header in which nothing is shown is no notation. -/
theorem classify_of_blank {header : String} (blank : Text.allBlank header.toList = true) :
    classify header = .error .unrecognized := by
  have nothing : Text.trim header.toList = [] := by
    rw [Text.trim, Text.trimStart, List.dropWhile_eq_nil_iff.mpr (List.all_eq_true.mp blank)]
    rfl
  simp only [classify, nothing]
  rfl

/-- Behind the two words for a zone the fields decide. -/
theorem classify_of_pieces {header : String} {fields : List (List Char)}
    (cut : Text.pieces (· == ' ') (Text.trim header.toList) =
      "WGS84".toList :: "UTM".toList :: fields) :
    classify header =
      match readZone (fields.headD []) with
      | .error fault => .error fault
      | .ok (number, hemisphere) => .ok (.utm "WGS84" number hemisphere) := by
  simp only [classify, cut]
  rfl

/-- A header without the two words is a text or a code. -/
theorem classify_of_not_namesZones {header : String}
    (unnamed : ¬ NamesZones (Text.trim header.toList)) :
    classify header = classifyOther (Text.trim header.toList) := by
  simp only [classify]
  split
  · rename_i datum system fields cut
    rw [if_neg]
    rw [Bool.and_eq_true, decide_eq_true_eq, decide_eq_true_eq]
    rintro ⟨rfl, rfl⟩
    exact unnamed ⟨fields, cut⟩
  · rfl

theorem classify_eq_utm_iff {header datum : String} {zone : Int} {hemisphere : Hemisphere} :
    classify header = .ok (.utm datum zone hemisphere) ↔
      datum = "WGS84" ∧ ∃ numeral letter rest,
        WritesZone (Text.trim header.toList) numeral letter rest zone ∧
          (hemisphere = .south ↔ letter = 'S' ∨ letter = 's') := by
  by_cases named : NamesZones (Text.trim header.toList)
  · obtain ⟨fields, cut⟩ := named
    rw [classify_of_pieces cut, ← readZone_headD_eq_ok_iff cut]
    cases readZone (fields.headD []) with
    | error fault => simp
    | ok read => simp [Prod.ext_iff, eq_comm]
  · rw [classify_of_not_namesZones named]
    constructor
    · intro asked
      exact absurd asked (classifyOther_ne_utm _)
    · rintro ⟨-, numeral, letter, rest, writes, -⟩
      exact absurd writes.namesZones named

theorem classify_eq_proj4_iff {header text : String} :
    classify header = .ok (.proj4 text) ↔
      ¬ NamesZones (Text.trim header.toList) ∧ "+proj".toList <:+: Text.trim header.toList ∧
        Unquoted (Text.trim header.toList) text.toList := by
  by_cases named : NamesZones (Text.trim header.toList)
  · obtain ⟨fields, cut⟩ := named
    rw [classify_of_pieces cut]
    cases readZone (fields.headD []) with
    | error fault => simp [show NamesZones _ from ⟨fields, cut⟩]
    | ok read => simp [show NamesZones _ from ⟨fields, cut⟩]
  · rw [classify_of_not_namesZones named, classifyOther_eq_proj4_iff]
    exact (and_iff_right named).symm

theorem classify_eq_epsg_iff {header code : String} :
    classify header = .ok (.epsg code) ↔
      ¬ NamesZones (Text.trim header.toList) ∧ ¬ "+proj".toList <:+: Text.trim header.toList ∧
        WritesCode (Text.trim header.toList) code.toList := by
  by_cases named : NamesZones (Text.trim header.toList)
  · obtain ⟨fields, cut⟩ := named
    rw [classify_of_pieces cut]
    cases readZone (fields.headD []) with
    | error fault => simp [show NamesZones _ from ⟨fields, cut⟩]
    | ok read => simp [show NamesZones _ from ⟨fields, cut⟩]
  · rw [classify_of_not_namesZones named, classifyOther_eq_epsg_iff]
    exact (and_iff_right named).symm

theorem classify_eq_error_iff {header : String} :
    (∃ fault, classify header = .error fault) ↔
      (NamesZones (Text.trim header.toList) ∧
        ¬ ∃ numeral letter rest zone,
          WritesZone (Text.trim header.toList) numeral letter rest zone) ∨
      (¬ NamesZones (Text.trim header.toList) ∧ ¬ "+proj".toList <:+: Text.trim header.toList ∧
        ∀ code, ¬ WritesCode (Text.trim header.toList) code) := by
  by_cases named : NamesZones (Text.trim header.toList)
  · obtain ⟨fields, cut⟩ := named
    rw [classify_of_pieces cut, ← readZone_headD_eq_error_iff cut]
    have named : NamesZones (Text.trim header.toList) := ⟨fields, cut⟩
    cases readZone (fields.headD []) with
    | error fault => simp [named]
    | ok read => simp [named]
  · rw [classify_of_not_namesZones named, classifyOther_eq_error_iff]
    simp [named]

/-- **Which request a header makes.** -/
theorem classify_outcomes (header : String) :
    let shown := Text.trim header.toList
    (∀ datum zone hemisphere, classify header = .ok (.utm datum zone hemisphere) ↔
      datum = "WGS84" ∧ ∃ numeral letter rest, WritesZone shown numeral letter rest zone ∧
        (hemisphere = .south ↔ letter = 'S' ∨ letter = 's')) ∧
    (∀ text, classify header = .ok (.proj4 text) ↔
      ¬ NamesZones shown ∧ "+proj".toList <:+: shown ∧ Unquoted shown text.toList) ∧
    (∀ code, classify header = .ok (.epsg code) ↔
      ¬ NamesZones shown ∧ ¬ "+proj".toList <:+: shown ∧ WritesCode shown code.toList) ∧
    ((∃ fault, classify header = .error fault) ↔
      (NamesZones shown ∧ ¬ ∃ numeral letter rest zone, WritesZone shown numeral letter rest zone) ∨
      (¬ NamesZones shown ∧ ¬ "+proj".toList <:+: shown ∧ ∀ code, ¬ WritesCode shown code)) ∧
    classify (String.ofList shown) = classify header := by
  exact ⟨fun _ _ _ => classify_eq_utm_iff, fun _ => classify_eq_proj4_iff,
    fun _ => classify_eq_epsg_iff, classify_eq_error_iff, classify_trim header⟩

end Georeference
