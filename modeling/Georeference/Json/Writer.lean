/-
**Writing JSON.**

Values are written without spaces, and the members of an object in the order in which they are
given.

* `Json.quoted`: a string, with escapes for quotes, backslashes and control characters only.
* `Json.number`: a binary64 number, or `null` where there is none to write.
* `Json.object`, `Json.array`, `Json.orNull`: values that are put together from written ones.

Values are written as texts at once and have no tree of their own. A number keeps a point or an
exponent, so that it is seen to be one of binary64, while counts and codes are written by their
digits. Infinities and what is no number have no form in JSON.
-/

import Georeference.Decimal.Shortest

namespace Georeference.Json

/-- A character as it stands inside a string: the control characters below the space have escapes
of one letter or of four hexadecimal digits. -/
def escaped (c : Char) : List Char :=
  match c with
  | '"' => ['\\', '"']
  | '\\' => ['\\', '\\']
  | '\n' => ['\\', 'n']
  | '\r' => ['\\', 'r']
  | '\t' => ['\\', 't']
  | c =>
    let code := c.toNat
    if code = 0x8 then ['\\', 'b']
    else if code = 0xC then ['\\', 'f']
    else if code < 0x20 then
      ['\\', 'u', '0', '0', (code / 16).digitChar, (code % 16).digitChar]
    else [c]

def quoted (text : String) : String :=
  String.ofList ('"' :: text.toList.flatMap escaped ++ ['"'])

/-- A binary64 number; `null` for an infinity and for what is not a number. -/
def number (x : Float) : String :=
  (Decimal.pointedText? x).getD "null"

/-- What is written for a value that may be absent. -/
def orNull {α : Type} (write : α → String) (value : Option α) : String :=
  (value.map write).getD "null"

def array (values : List String) : String :=
  "[" ++ ",".intercalate values ++ "]"

/-- Members in braces, each a name and a written value. -/
def object (members : List (String × String)) : String :=
  "\x7b" ++ ",".intercalate (members.map fun (name, value) => quoted name ++ ":" ++ value) ++ "\x7d"

end Georeference.Json
