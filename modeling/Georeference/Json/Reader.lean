/-
**Reading JSON.**

A text is read into a value that keeps what its numbers and strings were written with, so that only
those that are asked for have to make sense: a number may be too large, and a string may hold half
of a surrogate pair.

* `Literal`, `Value`.
* `Value.read`: the value of a text.
* `Value.fields?`: the values of the fields of a record.
-/

import Georeference.Decimal.Reader
import Georeference.Text.Hexadecimal

namespace Georeference.Json

/-- A number as it is written: digits, digits behind the point if there is one, and an exponent. -/
structure Literal where
  negative : Bool
  whole : List Char
  fraction : List Char
  exponent : Int
  isWhole : Bool
deriving DecidableEq, Repr

/-- A value. A string is missing its content if its escapes make no text. -/
inductive Value where
  | null
  | bool (value : Bool)
  | number (literal : Literal)
  | text (content : Option String)
  | array (items : List Value)
  | object (members : List (Option String × Value))

/-! ### Strings -/

/-- A character of a string, or one half of a surrogate pair. -/
inductive StringUnit where
  | character (c : Char)
  | surrogate (code : Nat)
deriving DecidableEq, Repr

/-- Joins the halves of surrogate pairs, each of which needs the other. -/
def joinUnits : List StringUnit → Option (List Char)
  | [] => some []
  | .character c :: rest => (joinUnits rest).map (c :: ·)
  | .surrogate high :: .surrogate low :: rest =>
    if high < 0xDC00 && 0xDC00 ≤ low then
      (joinUnits rest).map (Char.ofNat (0x10000 + (high - 0xD800) * 0x400 + (low - 0xDC00)) :: ·)
    else none
  | .surrogate _ :: _ => none

/-- The character that a letter after a backslash stands for. -/
def escapedCharacter? (c : Char) : Option Char :=
  match c with
  | '"' => some '"'
  | '\\' => some '\\'
  | '/' => some '/'
  | 'b' => some '\u0008'
  | 'f' => some '\u000c'
  | 'n' => some '\n'
  | 'r' => some '\r'
  | 't' => some '\t'
  | _ => none

/-- The unit with a code of sixteen bits. -/
def unitOf (code : Nat) : StringUnit :=
  if 0xD800 ≤ code && code ≤ 0xDFFF then .surrogate code else .character (Char.ofNat code)

/-- How far an escape has been read. -/
inductive Escape where
  | outside
  | opened
  | digits (left value : Nat)
deriving DecidableEq, Repr

/-- Reads a string from behind its opening quote, its units last one first. Control characters have
to be escaped. -/
def stringUnits : Escape → List StringUnit → List Char → Option (List StringUnit × List Char)
  | _, _, [] => none
  | .outside, units, c :: rest =>
    if c == '"' then some (units.reverse, rest)
    else if c == '\\' then stringUnits .opened units rest
    else if c.toNat < 0x20 then none
    else stringUnits .outside (.character c :: units) rest
  | .opened, units, c :: rest =>
    if c == 'u' then stringUnits (.digits 4 0) units rest
    else match escapedCharacter? c with
      | some escaped => stringUnits .outside (.character escaped :: units) rest
      | none => none
  | .digits left value, units, c :: rest =>
    match Text.hexValue? c with
    | none => none
    | some digit =>
      let total := 16 * value + digit
      if left ≤ 1 then stringUnits .outside (unitOf total :: units) rest
      else stringUnits (.digits (left - 1) total) units rest

/-- Reads a string from behind its opening quote. -/
def readString (text : List Char) : Option (Option String × List Char) :=
  (stringUnits .outside [] text).map fun (units, rest) =>
    ((joinUnits units).map String.ofList, rest)

/-! ### Numbers -/

/-- The digits of a whole number: one zero, or digits that begin with another. -/
def readWhole (text : List Char) : Option (List Char × List Char) :=
  match Decimal.spanDigits text with
  | ([], _) => none
  | ('0' :: _ :: _, _) => none
  | (digits, rest) => some (digits, rest)

/-- The digits behind a point, if there is one. -/
def readFraction : List Char → Option (List Char × List Char)
  | '.' :: rest =>
    match Decimal.spanDigits rest with
    | ([], _) => none
    | (digits, rest) => some (digits, rest)
  | rest => some ([], rest)

/-- The digits of an exponent behind its sign. -/
def readExponentDigits (negative : Bool) (text : List Char) : Option (Int × List Char) :=
  let (digits, rest) := Decimal.spanDigits text
  (Decimal.natural? digits).map fun size => (if negative then -(size : Int) else size, rest)

def readExponent : List Char → Option (Option Int × List Char)
  | [] => some (none, [])
  | c :: rest =>
    if c == 'e' || c == 'E' then
      (match rest with
        | '+' :: digits => readExponentDigits false digits
        | '-' :: digits => readExponentDigits true digits
        | digits => readExponentDigits false digits).map fun (power, rest) => (some power, rest)
    else some (none, c :: rest)

/-- Reads a number from behind its sign. -/
def readNumber (negative : Bool) (text : List Char) : Option (Literal × List Char) :=
  (readWhole text).bind fun (whole, afterWhole) =>
    (readFraction afterWhole).bind fun (fraction, afterFraction) =>
      (readExponent afterFraction).map fun (exponent, rest) =>
        ({ negative
           whole
           fraction
           exponent := exponent.getD 0
           isWhole := fraction.isEmpty && exponent.isNone }, rest)

/-! ### Values -/

def isWhite (c : Char) : Bool :=
  c == ' ' || c == '\n' || c == '\t' || c == '\r'

def skipWhite (text : List Char) : List Char := text.dropWhile isWhite

namespace Value

mutual

/-- Reads a value from behind white space. -/
def readValue : Nat → List Char → Option (Value × List Char)
  | 0, _ => none
  | fuel + 1, input =>
    match skipWhite input with
    | 'n' :: 'u' :: 'l' :: 'l' :: rest => some (.null, rest)
    | 't' :: 'r' :: 'u' :: 'e' :: rest => some (.bool true, rest)
    | 'f' :: 'a' :: 'l' :: 's' :: 'e' :: rest => some (.bool false, rest)
    | '"' :: rest => (readString rest).map fun (content, rest) => (.text content, rest)
    | '[' :: rest =>
      match skipWhite rest with
      | ']' :: rest => some (.array [], rest)
      | rest => (readItems fuel rest).map fun (items, rest) => (.array items, rest)
    | '\x7b' :: rest =>
      match skipWhite rest with
      | '\x7d' :: rest => some (.object [], rest)
      | rest => (readMembers fuel rest).map fun (members, rest) => (.object members, rest)
    | '-' :: rest => (readNumber true rest).map fun (literal, rest) => (.number literal, rest)
    | digits => (readNumber false digits).map fun (literal, rest) => (.number literal, rest)

/-- Reads the items of an array that has one at least. -/
def readItems : Nat → List Char → Option (List Value × List Char)
  | 0, _ => none
  | fuel + 1, input =>
    (readValue fuel input).bind fun (item, rest) =>
      match skipWhite rest with
      | ',' :: rest => (readItems fuel rest).map fun (items, rest) => (item :: items, rest)
      | ']' :: rest => some ([item], rest)
      | _ => none

/-- Reads the members of an object that has one at least. -/
def readMembers : Nat → List Char → Option (List (Option String × Value) × List Char)
  | 0, _ => none
  | fuel + 1, input =>
    match skipWhite input with
    | '"' :: rest =>
      (readString rest).bind fun (name, rest) =>
        match skipWhite rest with
        | ':' :: rest =>
          (readValue fuel rest).bind fun (value, rest) =>
            match skipWhite rest with
            | ',' :: rest =>
              (readMembers fuel rest).map fun (members, rest) => ((name, value) :: members, rest)
            | '\x7d' :: rest => some ([(name, value)], rest)
            | _ => none
        | _ => none
    | _ => none

end

/-- The value of a text. Every value, item and member uses up a character, and no more than two
steps lie between one character and the next. -/
def read (text : String) : Option Value :=
  match readValue (2 * text.length + 2) text.toList with
  | some (value, rest) => if (skipWhite rest).isEmpty then some value else none
  | none => none

/-! ### Typed access -/

/-- The only value under a name. -/
def only? (name : String) (members : List (String × Value)) : Option Value :=
  match members.filter fun member => member.1 == name with
  | [(_, value)] => some value
  | _ => none

/-- A member with the text of its name. -/
def withName? (member : Option String × Value) : Option (String × Value) :=
  member.1.map fun name => (name, member.2)

/-- The values of the fields of a record: the members of an object by their names, each of which
occurs once, or the items of an array as long as the record. Other members are passed over. -/
def fields? (names : List String) : Value → Option (List Value)
  | .array items => if items.length = names.length then some items else none
  | .object members =>
    (members.mapM withName?).bind fun named => names.mapM fun name => only? name named
  | _ => none

def text? : Value → Option String
  | .text content => content
  | _ => none

end Value

end Georeference.Json
