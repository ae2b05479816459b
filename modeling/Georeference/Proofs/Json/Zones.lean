/-
**Zones that are read from JSON.**

A zone that is made from a number, or found under a code, is one of the system. One that is read
from a text can have any number of eight bits, since the reader asks for no more than that.

### Reading

* `Json.Value.readValue_toDigits`, `Json.Value.readMembers_cons`, `Json.Value.readValue_object`:
  numbers, members and objects that are read.
* `UtmZone.read_json`, `UtmZone.ofJson?_jsonValue`: what a zone is written as is read back.
* `UtmZone.number_lt_of_ofJson?`: no number of more than eight bits is read.

### The theorem

`UtmZone.made_and_read` says where zones come from. Those that are made from numbers and those that
are found under codes are the zones of the system; those that are read from texts are all with
numbers of eight bits. A zone is one of the system exactly when its own code leads back to it, and
exactly when its longitudes are on the globe; worked out in floating point they are there too, and
so is the whole area of the zone. Zones of the system are told apart by their codes. Others share
theirs with a zone of the other hemisphere whose number is a hundred away, and with no zone else.

**The proof reads what the writer writes.** The first character decides what kind of value is read,
and a number begins with a digit while every other value does not. That digit is zero for zero
alone, so no zero stands in front of another digit. The fuel of the reader is more than it uses,
since each value takes a character at least. What is said of codes and longitudes is arithmetic of
the number of the zone.
-/

import Georeference.Json.Records
import Georeference.Proofs.Crs.AreaOfUse
import Georeference.Proofs.Decimal.Reading
import Georeference.Proofs.Registry.Codes

namespace Georeference

/-! ### Numbers that are read -/

namespace Json

variable {number : Nat} {rest : List Char}

/-- Only zero is written with a zero in front. -/
theorem ne_zero_of_mem_head?_toDigits (positive : 0 < number) {c : Char}
    (front : c ∈ (Nat.toDigits 10 number).head?) : c ≠ '0' := by
  induction number using Nat.strongRecOn with
  | ind number ih =>
    rw [Nat.toDigits_eq_if (by decide)] at front
    split at front
    · rename_i small
      obtain rfl : number.digitChar = c := Option.some.inj front
      exact (by decide : ∀ digit < 10, 0 < digit → digit.digitChar ≠ '0') number small positive
    · rename_i large
      rw [List.head?_append_of_ne_nil _ Nat.toDigits_ne_nil] at front
      exact ih (number / 10) (by omega) (by omega) front

theorem readWhole_toDigits (ends : ∀ c ∈ rest.head?, c.isDigit = false) :
    readWhole (Nat.toDigits 10 number ++ rest) = some (Nat.toDigits 10 number, rest) := by
  rw [readWhole, Decimal.spanDigits_append (Decimal.digits_toDigits number).2 ends]
  split
  · rename_i shape
    exact absurd (Prod.mk.inj shape).1 Nat.toDigits_ne_nil
  · rename_i shape
    have shape := (Prod.mk.inj shape).1
    rcases Nat.eq_zero_or_pos number with rfl | positive
    · cases shape
    · have front : '0' ∈ (Nat.toDigits 10 number).head? := by
        rw [shape]
        rfl
      exact absurd rfl (ne_zero_of_mem_head?_toDigits positive front)
  · rename_i shape
    rw [(Prod.mk.inj shape).1, (Prod.mk.inj shape).2]

/-- A number that is written with its digits alone. -/
def Literal.ofNat (number : Nat) : Literal :=
  ⟨false, Nat.toDigits 10 number, [], 0, true⟩

theorem Literal.natural?_ofNat (number : Nat) : (Literal.ofNat number).natural? = some number :=
  Decimal.natural?_eq_some_iff.mpr
    ⟨Decimal.digits_toDigits number, Nat.ofDigitChars_ten_toDigits⟩

theorem readNumber_toDigits :
    readNumber false (Nat.toDigits 10 number ++ ',' :: rest) =
      some (Literal.ofNat number, ',' :: rest) := by
  have ends : ∀ c ∈ (',' :: rest).head?, c.isDigit = false := by
    rintro c ⟨⟩
    rfl
  rw [readNumber, readWhole_toDigits ends]
  rfl

/-! ### Values that are read -/

namespace Value

variable {fuel : Nat} {text more : List Char} {value : Value}
  {members : List (Option String × Value)}

theorem toDigits_append_ne_cons {c : Char} (other : c.isDigit = false) :
    Nat.toDigits 10 number ++ rest ≠ c :: more := by
  intro same
  obtain ⟨first, others, shape⟩ :=
    List.exists_cons_of_ne_nil (Nat.toDigits_ne_nil (n := number) (b := 10))
  have digit : first.isDigit = true :=
    (Decimal.digits_toDigits number).2 first (shape ▸ List.mem_cons_self)
  rw [shape, List.cons_append] at same
  rw [(List.cons.inj same).1, other] at digit
  cases digit

theorem skipWhite_toDigits :
    skipWhite (Nat.toDigits 10 number ++ rest) = Nat.toDigits 10 number ++ rest := by
  cases shape : Nat.toDigits 10 number ++ rest with
  | nil => rfl
  | cons first others =>
    have shown : isWhite first ≠ true := by
      intro white
      simp only [isWhite, Bool.or_eq_true, beq_iff_eq] at white
      rcases white with ((rfl | rfl) | rfl) | rfl <;>
        exact absurd shape (toDigits_append_ne_cons rfl)
    rw [skipWhite, List.dropWhile_cons_of_neg shown]

theorem readValue_toDigits (number : Nat) :
    readValue (fuel + 1) (Nat.toDigits 10 number ++ ',' :: rest) =
      some (.number (Literal.ofNat number), ',' :: rest) := by
  unfold readValue
  rw [skipWhite_toDigits]
  split
  case h_8 =>
    rw [readNumber_toDigits]
    rfl
  all_goals
    rename_i shape
    exact absurd shape (toDigits_append_ne_cons rfl)

theorem readMembers_cons (name : String)
    (named : readString (name.toList ++ '"' :: ':' :: text) = some (some name, ':' :: text))
    (valued : readValue fuel text = some (value, ',' :: more))
    (others : readMembers fuel more = some (members, rest)) :
    readMembers (fuel + 1) ('"' :: (name.toList ++ '"' :: ':' :: text)) =
      some ((some name, value) :: members, rest) := by
  rw [readMembers]
  show (readString (name.toList ++ '"' :: ':' :: text)).bind _ = _
  rw [named]
  show (readValue fuel text).bind _ = _
  rw [valued]
  show (readMembers fuel more).map _ = _
  rw [others]
  rfl

theorem readMembers_last (name : String)
    (named : readString (name.toList ++ '"' :: ':' :: text) = some (some name, ':' :: text))
    (valued : readValue fuel text = some (value, '\x7d' :: rest)) :
    readMembers (fuel + 1) ('"' :: (name.toList ++ '"' :: ':' :: text)) =
      some ([(some name, value)], rest) := by
  rw [readMembers]
  show (readString (name.toList ++ '"' :: ':' :: text)).bind _ = _
  rw [named]
  show (readValue fuel text).bind _ = _
  rw [valued]
  rfl

theorem readValue_object (listed : readMembers fuel ('"' :: text) = some (members, rest)) :
    readValue (fuel + 1) ('\x7b' :: '"' :: text) = some (.object members, rest) := by
  rw [readValue]
  show (readMembers fuel ('"' :: text)).map _ = _
  rw [listed]
  rfl

theorem readValue_hemisphere (hemisphere : Hemisphere) :
    readValue (fuel + 1) (hemisphere.json.toList ++ rest) =
      some (.text (some hemisphere.name), rest) := by
  cases hemisphere <;> rfl

end Value

end Json

/-! ### Zones that are read -/

namespace UtmZone

open Json (Value Literal)

variable {zone other : UtmZone}

/-- The value that a zone is written as. -/
def jsonValue (zone : UtmZone) : Value :=
  .object [(some "number", .number (Literal.ofNat zone.number)),
    (some "hemisphere", .text (some zone.hemisphere.name))]

theorem toList_json (zone : UtmZone) :
    zone.json.toList =
      '\x7b' :: '"' :: ("number".toList ++ '"' :: ':' :: (Nat.toDigits 10 zone.number ++
        ',' :: '"' :: ("hemisphere".toList ++ '"' :: ':' ::
          (zone.hemisphere.json.toList ++ ['\x7d'])))) := by
  simp [json, Hemisphere.json, Json.object, Json.quoted, Json.escaped, String.toList_append]

/-- **What a zone is written as** is read as its value. -/
theorem read_json (zone : UtmZone) : Value.read zone.json = some zone.jsonValue := by
  have enough : ∃ fuel, 2 * zone.json.length + 2 = fuel + 4 := by
    have long : 1 ≤ zone.json.length := by
      rw [← String.length_toList, toList_json, List.length_cons]
      omega
    exact ⟨2 * zone.json.length - 2, by omega⟩
  obtain ⟨fuel, steps⟩ := enough
  have hemisphere : Value.readMembers (fuel + 2) ('"' :: ("hemisphere".toList ++ '"' :: ':' ::
      (zone.hemisphere.json.toList ++ ['\x7d']))) =
        some ([(some "hemisphere", .text (some zone.hemisphere.name))], []) :=
    Value.readMembers_last "hemisphere" rfl (Value.readValue_hemisphere zone.hemisphere)
  have both := Value.readMembers_cons "number" rfl (Value.readValue_toDigits zone.number) hemisphere
  rw [Value.read, steps, toList_json, Value.readValue_object both]
  rfl

theorem ofJson?_jsonValue (small : zone.number < UInt8.size) :
    ofJson? zone.jsonValue = some zone := by
  have fits : Value.natural? UInt8.size (.number (Literal.ofNat zone.number)) =
      some zone.number := by
    rw [Value.natural?, Literal.natural?_ofNat, Option.filter_some, if_pos (decide_eq_true small)]
  show (Value.natural? UInt8.size (.number (Literal.ofNat zone.number))).bind
    (fun number => (Hemisphere.ofName? zone.hemisphere.name).bind
      fun hemisphere => some ⟨number, hemisphere⟩) = some zone
  rw [fits, Hemisphere.ofName?_name]
  rfl

/-- **No number of more than eight bits** is read. -/
theorem number_lt_of_ofJson? {value : Value} (read : ofJson? value = some zone) :
    zone.number < UInt8.size := by
  unfold ofJson? at read
  split at read
  · obtain ⟨number, found, read⟩ := Option.bind_eq_some_iff.mp read
    obtain ⟨hemisphere, -, same⟩ := Option.bind_eq_some_iff.mp read
    obtain rfl := Option.some.inj same
    unfold Value.natural? at found
    split at found
    · exact of_decide_eq_true (Option.filter_eq_some_iff.mp found).2
    · cases found
  · cases read

/-! ### Zones that the system does not have -/

/-- **Zones share a code** when their numbers are a hundred apart. -/
theorem epsg_eq_iff :
    zone.epsg = other.epsg ↔ zone = other ∨
      (zone.hemisphere = .north ∧ other.hemisphere = .south ∧ zone.number = other.number + 100) ∨
      (zone.hemisphere = .south ∧ other.hemisphere = .north ∧
        zone.number + 100 = other.number) := by
  obtain ⟨number, hemisphere⟩ := zone
  obtain ⟨number', hemisphere'⟩ := other
  cases hemisphere <;> cases hemisphere' <;> simp [epsg, epsgBase] <;> omega

theorem mem_all_iff_longitudes :
    zone ∈ all ↔ -180 ≤ zone.longitudes.1 ∧ zone.longitudes.2 ≤ 180 := by
  rw [mem_all_iff]
  show _ ↔ -180 ≤ 6 * (zone.number : Int) - 183 - 3 ∧ 6 * (zone.number : Int) - 183 + 3 ≤ 180
  omega

theorem roundedLongitudes_onGlobe (member : zone ∈ all) :
    -180 ≤ zone.roundedLongitudes.1 ∧ zone.roundedLongitudes.2 ≤ 180 := by
  obtain ⟨-, west, -, east, -⟩ := bounds_onGlobe (mem_all_iff.mp member)
  obtain ⟨number, hemisphere⟩ := zone
  cases hemisphere <;> exact ⟨west, east⟩

/-- **Where zones come from, and what tells those of the system from the others.** -/
theorem made_and_read (zone : UtmZone) :
    ((∃ number hemisphere, ofNumber? number hemisphere = some zone) ↔ zone ∈ all) ∧
    ((∃ code, ofEpsg? code = some zone) ↔ zone ∈ all) ∧
    ((∃ text value, Value.read text = some value ∧ ofJson? value = some zone) ↔
      zone.number < UInt8.size) ∧
    (zone ∈ all ↔ 1 ≤ zone.number ∧ zone.number ≤ 60) ∧
    (zone ∈ all ↔ ofEpsg? zone.epsg = some zone) ∧
    (zone ∈ all ↔ -180 ≤ zone.longitudes.1 ∧ zone.longitudes.2 ≤ 180) ∧
    (zone ∈ all → -180 ≤ zone.roundedLongitudes.1 ∧ zone.roundedLongitudes.2 ≤ 180) ∧
    (zone ∈ all → zone.bounds.OnGlobe) ∧
    (zone ∈ all → ∀ other ∈ all, zone.epsg = other.epsg → zone = other) ∧
    ∀ other : UtmZone, zone.epsg = other.epsg ↔ zone = other ∨
      (zone.hemisphere = .north ∧ other.hemisphere = .south ∧ zone.number = other.number + 100) ∨
      (zone.hemisphere = .south ∧ other.hemisphere = .north ∧
        zone.number + 100 = other.number) := by
  refine ⟨?numbers, ?codes, ?texts, mem_all_iff, ?back, mem_all_iff_longitudes,
    roundedLongitudes_onGlobe, fun member => bounds_onGlobe (mem_all_iff.mp member),
    fun member other member' => eq_of_epsg (mem_all_iff.mp member) (mem_all_iff.mp member'),
    fun other => epsg_eq_iff⟩
  case numbers =>
    simp only [ofNumber?_eq_some_iff, mem_all_iff]
    constructor
    · rintro ⟨number, hemisphere, -, -, inside⟩
      exact inside
    · intro inside
      exact ⟨zone.number, zone.hemisphere, rfl, rfl, inside⟩
  case codes =>
    simp only [ofEpsg?_eq_some_iff]
    constructor
    · rintro ⟨code, member, -⟩
      exact member
    · intro member
      exact ⟨zone.epsg, member, rfl⟩
  case texts =>
    constructor
    · rintro ⟨text, value, -, read⟩
      exact number_lt_of_ofJson? read
    · intro small
      exact ⟨zone.json, zone.jsonValue, read_json zone, ofJson?_jsonValue small⟩
  case back => simp only [ofEpsg?_eq_some_iff, and_true]

/-- Zone 0 is read, and a zone 160 with the code of the last southern one. -/
theorem made_and_read_zone_zero :
    (∃ value, Value.read "\x7b\"number\":0,\"hemisphere\":\"North\"\x7d" = some value ∧
      ofJson? value = some ⟨0, .north⟩) ∧
    (⟨0, .north⟩ : UtmZone) ∉ all ∧ ofEpsg? (⟨0, .north⟩ : UtmZone).epsg = none ∧
    (⟨0, .north⟩ : UtmZone).longitudes.1 = -186 ∧
    ¬ -180 ≤ (⟨0, .north⟩ : UtmZone).roundedLongitudes.1 ∧
    (∃ text value, Value.read text = some value ∧ ofJson? value = some ⟨160, .north⟩) ∧
    (⟨160, .north⟩ : UtmZone).epsg = (⟨60, .south⟩ : UtmZone).epsg := by
  obtain ⟨-, -, -, inside, -⟩ := made_and_read ⟨0, .north⟩
  obtain ⟨-, -, texts, -, -, -, -, -, -, shared⟩ := made_and_read ⟨160, .north⟩
  refine ⟨⟨jsonValue ⟨0, .north⟩, ?_, ofJson?_jsonValue (by decide)⟩, ?_, rfl, rfl,
    by decide +kernel, texts.mpr (by decide), ?_⟩
  · exact read_json ⟨0, .north⟩
  · rw [inside]
    decide
  · exact (shared _).mpr (Or.inr (Or.inl ⟨rfl, rfl, rfl⟩))

end UtmZone

end Georeference
