/-
**Texts shown in double quotes.**

Double quotes, backslashes and some control characters have escapes of one character. Other
characters that cannot be printed, that only change the one before them, or that show nothing of
their own, are shown by their numbers.

* `shown`: a text in double quotes.
-/

import Georeference.Text.Extending
import Georeference.Text.Hexadecimal
import Georeference.Text.Ignorable
import Georeference.Text.Printable

namespace Georeference.Text

/-- A character by its number. -/
def numbered (c : Char) : List Char :=
  ['\\', 'u', '\x7b'] ++ hexDigits c.toNat ++ ['\x7d']

/-- Whether a character shows as itself wherever it stands. -/
def showsItself (c : Char) : Bool :=
  isPrintable c && !isExtending c && !isIgnorable c

/-- A character as it is shown between double quotes. -/
def shownCharacter (c : Char) : List Char :=
  match c with
  | '"' => ['\\', '"']
  | '\\' => ['\\', '\\']
  | '\n' => ['\\', 'n']
  | '\r' => ['\\', 'r']
  | '\t' => ['\\', 't']
  | '\u0000' => ['\\', '0']
  | c => if showsItself c then [c] else numbered c

/-- A text in double quotes. -/
def shown (text : String) : String :=
  String.ofList ('"' :: text.toList.flatMap shownCharacter ++ ['"'])

end Georeference.Text
