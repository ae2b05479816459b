/-
**What is built in, read once and for all.**

Systems are built in as texts, and a text is read again whenever its code is looked up. What is read
never depends on when that happens. So the texts can be read here, one time, and every later proof
speaks of definitions only.

### Texts and definitions

* `Entry.offer`: the system whose text is the definition of an entry as it is written.
  `Entry.read?_offer` says that it is read as the entry.
* `Builtin.entries`, `Builtin.systems_eq`: the eight systems that are built in one by one are offers
  of these entries.
* `Builtin.zoneDefinition`, `Builtin.zoneEntry`, `Builtin.ofZone_eq`: so is the system of a zone,
  for any number and either hemisphere.

### What a code is looked up as

* `Builtin.find?_eq`: the code of a zone is looked up as the zone, and any other code as one of the
  eight systems or as nothing.
* `Builtin.find?_valid`: whatever is found has a valid definition.

**The proof is that every text is that of a definition.** No text is read to show it. A definition
that is well formed is read back from its text (`Definition.read_text`), so it is enough that the
texts are those of definitions that are. The eight of them are compared as closed terms. The number
of a zone is not known, but its text is put together from the same pieces as the text of
`Definition.ofZone` with bare switches. Since an offer keeps the code of its entry, looking a code
up before and after reading come to the same.
-/

import Georeference.Proofs.Definition.Validity
import Georeference.Registry.Builtin

namespace Georeference

/-- The system that is read as an entry. -/
def Entry.offer (entry : Entry) : SystemDefinition :=
  ⟨entry.code, entry.name, entry.definition.text⟩

/-- **An entry is read back** from its offer. -/
theorem Entry.read?_offer {entry : Entry} (wellFormed : entry.definition.WellFormed) :
    entry.offer.read? = some entry := by
  rw [SystemDefinition.read?, offer, Definition.read_text wellFormed]

/-- **The zone of a code** has a number of the system, and the code. -/
theorem UtmZone.zone_of_ofEpsg? {code : Nat} {zone : UtmZone} (found : ofEpsg? code = some zone) :
    (1 ≤ zone.number ∧ zone.number ≤ 60) ∧ zone.epsg = code := by
  unfold ofEpsg? at found
  split at found
  · rename_i inside
    rw [← Option.some.inj found]
    simp only [Bool.and_eq_true, decide_eq_true_eq] at inside
    have number : 1 ≤ code - 32600 ∧ code - 32600 ≤ 60 := by omega
    have epsg : 32600 + (code - 32600) = code := by omega
    exact ⟨number, epsg⟩
  · split at found
    · rename_i inside
      rw [← Option.some.inj found]
      simp only [Bool.and_eq_true, decide_eq_true_eq] at inside
      have number : 1 ≤ code - 32700 ∧ code - 32700 ≤ 60 := by omega
      have epsg : 32700 + (code - 32700) = code := by omega
      exact ⟨number, epsg⟩
    · cases found

namespace Builtin

open Parameter (assign flag)

/-! ### The eight systems -/

/-- Longitudes and latitudes on a datum or an ellipsoid. -/
def geographic (reference : Parameter) : Definition :=
  ⟨[assign "proj" "longlat", reference, flag "no_defs"]⟩

/-- The spherical Mercator projection of web maps. -/
def webMercator : Definition :=
  ⟨[assign "proj" "merc", assign "a" "6378137", assign "b" "6378137", assign "lat_ts" "0",
    assign "lon_0" "0", assign "x_0" "0", assign "y_0" "0", assign "k" "1", assign "units" "m",
    assign "nadgrids" "@null", flag "wktext", flag "no_defs"]⟩

/-- The equal-area conic projection of the conterminous United States. -/
def conusAlbers : Definition :=
  ⟨[assign "proj" "aea", assign "lat_0" "23", assign "lon_0" "-96", assign "lat_1" "29.5",
    assign "lat_2" "45.5", assign "x_0" "0", assign "y_0" "0", assign "datum" "NAD83",
    assign "units" "m", flag "no_defs"]⟩

/-- A stereographic projection of a polar region. -/
def polarStereographic (pole trueScale meridian : String) : Definition :=
  ⟨[assign "proj" "stere", assign "lat_0" pole, assign "lat_ts" trueScale,
    assign "lon_0" meridian, assign "k" "1", assign "x_0" "0", assign "y_0" "0",
    assign "datum" "WGS84", assign "units" "m", flag "no_defs"]⟩

/-- The entries of the systems that are built in one by one. -/
def entries : List Entry :=
  [⟨4326, "WGS 84", geographic (assign "datum" "WGS84")⟩,
   ⟨4269, "NAD83", geographic (assign "datum" "NAD83")⟩,
   ⟨4258, "ETRS89", geographic (assign "ellps" "GRS80")⟩,
   ⟨3857, "WGS 84 / Pseudo-Mercator", webMercator⟩,
   ⟨900913, "Google Maps Global Mercator", webMercator⟩,
   ⟨5070, "NAD83 / Conus Albers", conusAlbers⟩,
   ⟨3413, "WGS 84 / NSIDC Sea Ice Polar Stereographic North",
    polarStereographic "90" "70" "-45"⟩,
   ⟨3031, "WGS 84 / Antarctic Polar Stereographic", polarStereographic "-90" "-71" "0"⟩]

theorem entries_valid : ∀ entry ∈ entries, entry.definition.Valid := by
  decide +kernel

/-- **The eight texts** are those of the eight entries. -/
theorem systems_eq : systems = entries.map Entry.offer := by
  decide +kernel

/-! ### Zones -/

def zoneDefinition (zone : UtmZone) : Definition :=
  let common := [assign "proj" "utm", assign "zone" (toString zone.number),
    assign "datum" "WGS84", assign "units" "m", flag "no_defs"]
  match zone.hemisphere with
  | .north => ⟨common⟩
  | .south => ⟨common ++ [flag "south"]⟩

/-- The entry of a zone. -/
def zoneEntry (zone : UtmZone) : Entry :=
  ⟨zone.epsg, "WGS 84 / UTM zone " ++ zone.text, zoneDefinition zone⟩

/-- The definition of a zone that is built in has its switches bare. -/
theorem zoneDefinition_eq (zone : UtmZone) :
    zoneDefinition zone = Definition.ofZone (toString zone.number) none zone.hemisphere := by
  obtain ⟨number, hemisphere⟩ := zone
  cases hemisphere <;> rfl

theorem zoneDefinition_wellFormed (zone : UtmZone) : (zoneDefinition zone).WellFormed := by
  rw [zoneDefinition_eq, ← Decimal.toString_natCast]
  exact Definition.ofZone_wellFormed (Decimal.Denotes.toString _).shown (Or.inl rfl)

/-- **The text of a zone** is that of its definition. -/
theorem ofZone_eq (zone : UtmZone) : ofZone zone = (zoneEntry zone).offer := by
  have text : (ofZone zone).proj4 = (zoneDefinition zone).text := by
    rw [zoneDefinition_eq, ← String.toList_inj, Definition.toList_text_ofZone]
    unfold ofZone
    generalize toString zone.number = numeral
    cases zone.hemisphere with
    | north => simp [Parameter.toList_text]
    | south => simp [Parameter.toList_text]
  exact congrArg (SystemDefinition.mk zone.epsg ("WGS 84 / UTM zone " ++ zone.text)) text

theorem zoneDefinition_valid {zone : UtmZone} (inside : 1 ≤ zone.number ∧ zone.number ≤ 60) :
    (zoneDefinition zone).Valid := by
  refine ⟨zoneDefinition_wellFormed zone, ?_⟩
  rw [zoneDefinition_eq, ← Decimal.toString_natCast]
  have fits : -2147483648 ≤ (zone.number : Int) ∧ (zone.number : Int) < 2147483648 := by omega
  have read := Decimal.boundedInteger?_long_toString fits
  rw [Definition.validate_ofZone read, if_pos (by omega)]

/-! ### Looking a code up -/

/-- **What a code is looked up as**, after reading. -/
theorem find?_eq (code : Nat) :
    find? code =
      match UtmZone.ofEpsg? code with
      | some zone => some (zoneEntry zone)
      | none => entries.find? fun entry => entry.code == code := by
  unfold find?
  cases UtmZone.ofEpsg? code with
  | some zone =>
    dsimp only
    rw [ofZone_eq, Entry.read?_offer (zoneDefinition_wellFormed zone)]
  | none =>
    dsimp only
    rw [systems_eq, List.find?_map]
    show ((entries.find? fun entry => entry.code == code).map Entry.offer).bind _ = _
    cases found : entries.find? fun entry => entry.code == code with
    | none => rfl
    | some entry =>
      exact Entry.read?_offer (entries_valid entry (List.mem_of_find?_eq_some found)).wellFormed

/-- **Every entry that is built in has a valid definition.** -/
theorem find?_valid {code : Nat} {entry : Entry} (found : find? code = some entry) :
    entry.definition.Valid := by
  rw [find?_eq] at found
  split at found
  · rename_i zone known
    rw [← Option.some.inj found]
    exact zoneDefinition_valid (UtmZone.zone_of_ofEpsg? known).1
  · exact entries_valid entry (List.mem_of_find?_eq_some found)

end Builtin

end Georeference
