/-
**Which number of a zone is read from a header.**

The last character of the field behind the words `WGS84 UTM` is taken for the letter of the
hemisphere, whatever it is. So where the letter is missing, the last digit of the number is taken
for it.

### Fields

* `HoldsZone`: a field holds the number of a zone and, behind all of its digits, one character that
  decides the hemisphere.
* `holdsZone_iff`: what is read from a field is what it holds, unless it ends with a digit.
* `whole_of_endsWithDigit`: in that case all of the field is a number of which a tenth is read, and
  the hemisphere is the north.
* `readZone_of_digits`: a field of digits only is read when there are two or more, and those before
  the last one fit into a word.

### The theorem

`zone_is_written_iff` says the same for headers and for the systems that they are resolved to: the
number of a zone is the one that is written, unless its field ends with a digit, and then it is
another one.

**The proof is that only zero is a tenth of itself.** Both numbers begin with the same digits, the
one that is written and the one that is read, and one digit more makes a number ten times as large
(`Denotes.append_digit`). Numbers of zones begin at one, so for them the two differ
(`leads_iff_eq_zone`). Where the field does not end with a digit, the numeral ends before its last
character and is the number in front.
-/

import Georeference.Proofs.Header.Zones

namespace Georeference

open Decimal (Denotes Digits Leads)

/-- A number, and behind its digits the character of the hemisphere. -/
def HoldsZone (field : List Char) (zone : Int) (hemisphere : Hemisphere) : Prop :=
  ∃ numeral letter, field = numeral ++ [letter] ∧ Denotes numeral zone ∧
    letter.isDigit = false ∧ (hemisphere = .south ↔ letter = 'S' ∨ letter = 's')

/-- The last character of a field is a digit. -/
def EndsWithDigit (field : List Char) : Prop :=
  ∃ last ∈ field.getLast?, last.isDigit = true

/-! ### What is read from a field -/

section Fields

variable {field numeral : List Char} {letter : Char} {zone : Int} {hemisphere : Hemisphere}

theorem endsWithDigit_append :
    EndsWithDigit (numeral ++ [letter]) ↔ letter.isDigit = true := by
  unfold EndsWithDigit
  rw [List.getLast?_concat]
  simp

theorem ofLetter_of_isDigit (digit : letter.isDigit = true) :
    Hemisphere.ofLetter letter = .north := by
  cases south : Hemisphere.ofLetter letter with
  | north => rfl
  | south =>
    rcases (ofLetter_eq_iff.mp south).mp rfl with rfl | rfl
    · exact absurd digit (by decide)
    · exact absurd digit (by decide)

/-- **What is read from a field is what it holds**, if no digit ends it. -/
theorem holdsZone_iff (read : readZone field = .ok (zone, hemisphere)) :
    HoldsZone field zone hemisphere ↔ ¬ EndsWithDigit field := by
  constructor
  · rintro ⟨numeral, letter, rfl, -, stops, -⟩ ends
    rw [endsWithDigit_append, stops] at ends
    cases ends
  · intro ends
    obtain ⟨numeral, letter, rfl, denotes, -, south⟩ := readZone_eq_ok_iff.mp read
    rw [endsWithDigit_append, Bool.not_eq_true] at ends
    exact ⟨numeral, letter, rfl, denotes, ends, ofLetter_eq_iff.mp south⟩

/-- **A digit at the end of a field is lost**, and the north is read. -/
theorem whole_of_endsWithDigit (read : readZone field = .ok (zone, hemisphere))
    (ends : EndsWithDigit field) :
    hemisphere = .north ∧ ∃ whole, Denotes field whole ∧ whole.tdiv 10 = zone := by
  obtain ⟨numeral, letter, rfl, denotes, -, rfl⟩ := readZone_eq_ok_iff.mp read
  rw [endsWithDigit_append] at ends
  exact ⟨ofLetter_of_isDigit ends, denotes.append_digit ends⟩

/-- **The number that is read is written in front** if no digit ends the field. -/
theorem leads_iff_eq_zone (read : readZone field = .ok (zone, hemisphere)) (positive : 1 ≤ zone) :
    ∃ number, (∀ other, Leads field other ↔ other = number) ∧
      (zone = number ↔ ¬ EndsWithDigit field) := by
  by_cases ends : EndsWithDigit field
  · obtain ⟨-, whole, denotes, tenth⟩ := whole_of_endsWithDigit read ends
    refine ⟨whole, fun _ => denotes.leads.iff_eq, iff_of_false ?_ (not_not_intro ends)⟩
    rintro rfl
    rw [Int.tdiv_eq_ediv_of_nonneg (by omega)] at tenth
    omega
  · obtain ⟨numeral, letter, rfl, denotes, stops, -⟩ := (holdsZone_iff read).mpr ends
    have leads : Leads (numeral ++ [letter]) zone := by
      refine ⟨numeral, [letter], rfl, denotes, ?_⟩
      intro c first
      rw [← Option.some.inj first]
      exact stops
    exact ⟨zone, fun _ => leads.iff_eq, iff_of_true rfl ends⟩

/-- **A field of digits** is read when there are two or more. -/
theorem readZone_of_digits (digits : ∀ c ∈ field, c.isDigit = true) :
    (∃ found, readZone field = .ok found) ↔
      2 ≤ field.length ∧ Nat.ofDigitChars 10 field.dropLast 0 < 2147483648 := by
  constructor
  · rintro ⟨⟨zone, hemisphere⟩, read⟩
    obtain ⟨numeral, letter, rfl, denotes, fits, -⟩ := readZone_eq_ok_iff.mp read
    have shape : Digits numeral :=
      ⟨denotes.ne_nil, fun c member => digits c (List.mem_append_left _ member)⟩
    have long : 0 < numeral.length := List.length_pos_iff.mpr denotes.ne_nil
    have value := denotes.of_digits shape
    rw [List.dropLast_concat, List.length_append, List.length_singleton]
    omega
  · rintro ⟨long, fits⟩
    have nonempty : field ≠ [] := List.ne_nil_of_length_pos (by omega)
    have shorter : field.dropLast.length = field.length - 1 := List.length_dropLast
    have shape : Digits field.dropLast :=
      ⟨List.ne_nil_of_length_pos (by omega),
        fun c member => digits c (List.dropLast_subset field member)⟩
    refine ⟨(_, _), readZone_eq_ok_iff.mpr ⟨field.dropLast, field.getLast nonempty, ?_,
      .bare shape, by omega, rfl⟩⟩
    exact (List.dropLast_append_getLast nonempty).symm

end Fields

/-! ### What is read from a header -/

/-- A header that asks for a zone has a field for it. -/
theorem readZone_of_classify {header datum : String} {zone : Int} {hemisphere : Hemisphere}
    (asked : classify header = .ok (.utm datum zone hemisphere)) :
    ∃ field others, Text.pieces (· == ' ') (Text.trim header.toList) =
        "WGS84".toList :: "UTM".toList :: field :: others ∧
      readZone field = .ok (zone, hemisphere) := by
  obtain ⟨-, numeral, letter, rest, writes, south⟩ := classify_eq_utm_iff.mp asked
  obtain ⟨others, cut⟩ := writes.pieces
  have read := (readZone_headD_eq_ok_iff cut).mpr ⟨numeral, letter, rest, writes, south⟩
  exact ⟨numeral ++ [letter], others, cut, read⟩

theorem classify_ok_iff_of_pieces {header : String} {field : List Char} {others : List (List Char)}
    (cut : Text.pieces (· == ' ') (Text.trim header.toList) =
      "WGS84".toList :: "UTM".toList :: field :: others) :
    (∃ request, classify header = .ok request) ↔ ∃ found, readZone field = .ok found := by
  rw [classify_of_pieces cut, List.headD_cons]
  cases readZone field with
  | error fault => simp
  | ok found => simp

/-- **The number of a zone is the one that is written, unless a digit ends its field.** -/
theorem zone_is_written_iff (header : String) :
    (∀ datum zone hemisphere, classify header = .ok (.utm datum zone hemisphere) →
      ∃ field others,
        Text.pieces (· == ' ') (Text.trim header.toList) =
          "WGS84".toList :: "UTM".toList :: field :: others ∧
        (HoldsZone field zone hemisphere ↔ ¬ EndsWithDigit field) ∧
        (EndsWithDigit field → hemisphere = .north ∧
          ∃ whole, Denotes field whole ∧ whole.tdiv 10 = zone) ∧
        ∀ (registry : Registry) crs, registry.resolve header = .ok crs →
          ∃ found number, crs.utmZone? = some found ∧ found.hemisphere = hemisphere ∧
            (∀ other, Leads field other ↔ other = number) ∧
            ((found.number : Int) = number ↔ ¬ EndsWithDigit field)) ∧
    ∀ field others,
      Text.pieces (· == ' ') (Text.trim header.toList) =
        "WGS84".toList :: "UTM".toList :: field :: others →
      (∀ c ∈ field, c.isDigit = true) →
      ((∃ request, classify header = .ok request) ↔
        2 ≤ field.length ∧ Nat.ofDigitChars 10 field.dropLast 0 < 2147483648) := by
  constructor
  · intro datum zone hemisphere asked
    obtain ⟨field, others, cut, read⟩ := readZone_of_classify asked
    refine ⟨field, others, cut, holdsZone_iff read, whole_of_endsWithDigit read, ?_⟩
    intro registry crs accepted
    obtain ⟨inside, rfl⟩ := (Registry.resolve_zone_eq_ok_iff asked).mp accepted
    obtain ⟨number, only, written⟩ := leads_iff_eq_zone read inside.1
    refine ⟨_, number, Crs.utmZone?_ofValid_zone hemisphere inside, rfl, only, ?_⟩
    rw [← written, Int.toNat_of_nonneg (by omega)]
  · intro field others cut digits
    rw [classify_ok_iff_of_pieces cut, readZone_of_digits digits]

/-- Zone 32 is written without a letter, and zone 3 is resolved. -/
theorem zone_of_missing_letter :
    let header := "WGS84 UTM 32"
    classify header = .ok (.utm "WGS84" 3 .north) ∧ ¬ HoldsZone "32".toList 3 .north ∧
      ∃ crs found, Registry.builtin.resolve header = .ok crs ∧ crs.utmZone? = some found ∧
        Leads "32".toList 32 ∧ found.number ≠ 32 := by
  intro header
  have asked : classify header = .ok (.utm "WGS84" 3 .north) := by decide +kernel
  obtain ⟨field, others, cut, holds, -, resolved⟩ := (zone_is_written_iff header).1 _ _ _ asked
  have pieces : Text.pieces (· == ' ') (Text.trim header.toList) =
      ["WGS84".toList, "UTM".toList, "32".toList] := by decide +kernel
  rw [pieces, List.cons.injEq, List.cons.injEq, List.cons.injEq] at cut
  obtain ⟨-, -, rfl, -⟩ := cut
  have ends : EndsWithDigit "32".toList := ⟨'2', rfl, rfl⟩
  have accepted : ∃ crs, Registry.builtin.resolve header = .ok crs :=
    ⟨_, (Registry.resolve_zone_eq_ok_iff asked).mpr ⟨by decide, rfl⟩⟩
  obtain ⟨crs, success⟩ := accepted
  obtain ⟨found, number, zone, -, only, written⟩ := resolved _ crs success
  have leads : Leads "32".toList 32 := by
    have denotes : Denotes "32".toList 32 := Decimal.integer?_eq_some_iff.mp (by decide)
    exact denotes.leads
  refine ⟨asked, fun held => holds.mp held ends, crs, found, success, zone, leads, ?_⟩
  intro same
  have number_eq : (32 : Int) = number := (only 32).mp leads
  exact written.mp (by rw [same, ← number_eq]; rfl) ends

end Georeference
