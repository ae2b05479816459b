/-
**What a header asks for.**

A header is the line at the top of a file of coordinates that names their reference system. Three
notations are understood and tried in this order: `WGS84 UTM 32N` with exactly these two words at
the front, any text that contains `+proj`, and `EPSG:` in any case before a code.

* `Request`: what is to be built.
* `readZone`: the number and the hemisphere in the field of a zone.
* `classify`: the request of a header, or the `HeaderFault` that none can be made out.
* `zoneText`: the proj4 text of a zone.

The pieces of a header between single spaces are looked at for the two words, so two spaces or a tab
between them are not understood; and once the two words are there, no other notation is tried. The
last character of the field behind them decides the hemisphere and is no part of the number. A text
is passed on without one single quote at either end, and the text of a code as it is.
-/

import Georeference.Decimal.Integer
import Georeference.Text.Blank
import Georeference.Text.Search
import Georeference.Utm

namespace Georeference

/-- What a header asks to be built. The number of a zone is any that was written, and the texts are
as they were written. -/
inductive Request where
  | utm (datum : String) (zone : Int) (hemisphere : Hemisphere)
  | proj4 (text : String)
  | epsg (code : String)
deriving DecidableEq, Repr

/-- Why a header asks for nothing. -/
inductive HeaderFault where
  | missingZone
  | zoneNumber (text : String)
  | unrecognized
deriving DecidableEq, Repr

def HeaderFault.message : HeaderFault → String
  | .missingZone => "missing UTM zone"
  | .zoneNumber text => "invalid UTM zone '" ++ text ++ "'"
  | .unrecognized => "unrecognized SRS notation"

/-- A text without one single quote at its front. -/
def dropFrontQuote : List Char → List Char
  | '\'' :: rest => rest
  | text => text

/-- A text without one single quote at its end. -/
def dropBackQuote (text : List Char) : List Char :=
  if text.getLast? = some '\'' then text.dropLast else text

/-- A text without one single quote at either end. -/
def stripQuotes (text : List Char) : List Char :=
  dropBackQuote (dropFrontQuote text)

/-- The number and the hemisphere in a field such as `32N`, whose last character is the letter. -/
def readZone (field : List Char) : Except HeaderFault (Int × Hemisphere) :=
  match field.getLast? with
  | none => .error .missingZone
  | some letter =>
    match Decimal.boundedInteger? UInt32.size field.dropLast with
    | none => .error (.zoneNumber (String.ofList field.dropLast))
    | some number => .ok (number, .ofLetter letter)

/-- The text after `epsg:` in any case, if the header begins with that. -/
def afterEpsg? (header : List Char) : Option (List Char) :=
  if Text.sameIgnoringCase (header.take 5) "epsg:".toList then some (header.drop 5) else none

/-- The request of a header that begins with neither of the two words for a zone. -/
def classifyOther (header : List Char) : Except HeaderFault Request :=
  if Text.contains "+proj".toList header then
    .ok (.proj4 (String.ofList (stripQuotes header)))
  else match afterEpsg? header with
    | some code => .ok (.epsg (String.ofList code))
    | none => .error .unrecognized

/-- The request of a header, once blank characters at its ends are dropped. -/
def classify (header : String) : Except HeaderFault Request :=
  let shown := Text.trim header.toList
  match Text.pieces (· == ' ') shown with
  | datum :: system :: fields =>
    if datum = "WGS84".toList && system = "UTM".toList then
      match readZone (fields.headD []) with
      | .error fault => .error fault
      | .ok (number, hemisphere) => .ok (.utm (String.ofList datum) number hemisphere)
    else classifyOther shown
  | _ => classifyOther shown

/-- The proj4 text of a zone on a datum. -/
def zoneText (datum : String) (zone : Int) (hemisphere : Hemisphere) : String :=
  "+proj=utm +zone=" ++ toString zone ++ " +datum=" ++ datum ++ " +units=m +no_defs=True" ++
    match hemisphere with
    | .north => ""
    | .south => " +south=True"

end Georeference
