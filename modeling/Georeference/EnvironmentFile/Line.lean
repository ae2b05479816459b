/-
**Lines of environment files.**

An environment file assigns values to names. A line ends at a line feed outside quotes, so that a
quoted value may run over several; a `#` behind white space begins a comment.

* `LineState`, `LineState.scan`: where a line stands after some characters.
* `logicalLines`: the lines of a file, up to the first that is not complete.
-/

import Georeference.Text.Blank

namespace Georeference.EnvironmentFile

/-- Where a line stands: between characters, behind white space, behind a backslash, inside single
or double quotes, or behind a backslash inside them. -/
inductive LineState where
  | complete
  | whiteSpace
  | escape
  | single
  | singleEscape
  | double
  | doubleEscape
deriving DecidableEq, Repr

namespace LineState

/-- The state outside quotes behind a character with a meaning of its own, if it is one. -/
def opened? (c : Char) : Option LineState :=
  if c == '\\' then some .escape
  else if c == '"' then some .double
  else if c == '\'' then some .single
  else none

/-- The state behind a character. -/
def after (state : LineState) (c : Char) : LineState :=
  match state with
  | .whiteSpace => (opened? c).getD .complete
  | .escape => .complete
  | .complete =>
    if Text.isBlank c && c != '\n' && c != '\r' then .whiteSpace else (opened? c).getD .complete
  | .double => if c == '\\' then .doubleEscape else if c == '"' then .complete else .double
  | .doubleEscape => .double
  | .single => if c == '\\' then .singleEscape else if c == '\'' then .complete else .single
  | .singleEscape => .single

end LineState

/-- Reads the characters of a line feed by line feed. A comment ends the characters that count. -/
def scanStretch : LineState → List Char → List Char × LineState × Bool
  | state, [] => ([], state, false)
  | state, c :: rest =>
    if state == .whiteSpace && c == '#' then ([], state, true)
    else
      let (kept, last, commented) := scanStretch (state.after c) rest
      (c :: kept, last, commented)

/-- A line without the line feed at its end and the carriage return before that. -/
def dropLineEnd (line : List Char) : List Char :=
  if line.getLast? = some '\n' then
    let shorter := line.dropLast
    if shorter.getLast? = some '\r' then shorter.dropLast else shorter
  else line

/-- The stretches of a text up to and including each line feed. -/
def stretches : List Char → List (List Char)
  | [] => []
  | c :: rest =>
    if c == '\n' then [c] :: stretches rest
    else match stretches rest with
      | [] => [[c]]
      | first :: others => (c :: first) :: others

/-- Whether the first shown character of a line is `#`. -/
def isComment (line : List Char) : Bool :=
  (Text.trimStart line).head? == some '#'

/-- Joins stretches to lines. A line that is not complete at the end of the text is left out. -/
def joinStretches : List Char → LineState → List (List Char) → List (List Char)
  | _, _, [] => []
  | earlier, state, stretch :: rest =>
    let line := earlier ++ stretch
    if isComment line then joinStretches [] .complete rest
    else
      let (kept, last, commented) := scanStretch state stretch
      if commented then (earlier ++ kept) :: joinStretches [] .complete rest
      else if last == .complete then dropLineEnd line :: joinStretches [] .complete rest
      else joinStretches line last rest

/-- The lines of a text, up to the first that is not complete. -/
def logicalLines (text : List Char) : List (List Char) :=
  joinStretches [] .complete (stretches text)

end Georeference.EnvironmentFile
