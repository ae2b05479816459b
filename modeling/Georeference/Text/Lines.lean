/-
**Lines.**

A line ends at a line feed, and one carriage return just before that line feed belongs to the end
of the line. Characters after the last line feed are a line too, which keeps its carriage return;
no characters there are no line.

* `lines`: the lines of a text, in order.
* `firstShown?`: the first line that is not blank, with its position.
-/

import Georeference.Text.Blank

namespace Georeference.Text

/-- A line without the carriage return that belongs to its end. -/
def dropReturn (line : List Char) : List Char :=
  if line.getLast? = some '\r' then line.dropLast else line

def lines (text : List Char) : List (List Char) :=
  let stretches := pieces (· == '\n') text
  let last := stretches.getLastD []
  stretches.dropLast.map dropReturn ++ (if last.isEmpty then [] else [last])

/-- Each line with its position, counted from one. -/
def numberedLines (text : List Char) : List (Nat × List Char) :=
  (lines text).zipIdx.map fun (line, index) => (index + 1, line)

/-- The first line that is not blank and its position, counted from one. -/
def firstShown? (text : List Char) : Option (Nat × List Char) :=
  (numberedLines text).find? fun (_, line) => !allBlank line

end Georeference.Text
