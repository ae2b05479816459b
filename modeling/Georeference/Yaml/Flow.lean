/-
**Plain and quoted scalars.**

Inside such a scalar spaces and line breaks form gaps. A gap within a line is kept as it is; a gap
with one line feed stands for a space, and one with more for all of them but the first. Spaces next
to the line breaks do not count.

* `Gap`, `Gap.filling`.
* `Scanned`: a scalar that was read, and what follows it.
* `plain`, `singleQuoted`, `doubleQuoted`: reading the scalars.
-/

import Georeference.Text.Hexadecimal
import Georeference.Yaml.Character

namespace Georeference.Yaml

/-- What has been passed since the last character of a scalar that was kept. Characters are kept
last one first. A gap that an escaped line break opens has no first break. -/
inductive Gap where
  | closed
  | spaces (passed : List Char)
  | breaks (first : Option Char) (others : List Char)
deriving DecidableEq, Repr

namespace Gap

/-- The gap after one more space, tab or line break. -/
def push (gap : Gap) (c : Char) : Gap :=
  if isBreak c then
    match gap with
    | .breaks first others => .breaks first (c :: others)
    | _ => .breaks (some c) []
  else match gap with
    | .closed => .spaces [c]
    | .spaces passed => .spaces (c :: passed)
    | .breaks first others => .breaks first others

/-- Whether the gap has reached another line. -/
def crossesLine : Gap → Bool
  | .breaks _ _ => true
  | _ => false

def isClosed : Gap → Bool
  | .closed => true
  | _ => false

/-- What a gap stands for, last character first. -/
def filling : Gap → List Char
  | .closed => []
  | .spaces passed => passed
  | .breaks (some '\n') [] => [' ']
  | .breaks (some '\n') others => others
  | .breaks first others => others ++ first.toList

end Gap

/-- A scalar that was read, the text after it and the place where that begins. -/
structure Scanned where
  text : List Char
  rest : List Char
  mark : Mark
deriving DecidableEq, Repr

/-! ### Plain scalars -/

/-- Whether the text after a colon makes it no part of a plain scalar in brackets, nor its end. -/
def misplacesColon : List Char → Bool
  | [] => false
  | c :: _ => c == '?' || (isFlowIndicator c)

/-- Reads a plain scalar, which ends before a comment, at a colon that stands for a mapping value,
before a document mark, in brackets at a bracket or comma, and elsewhere on a line that is not
indented as far as the scalar must be. Also says whether another line has been reached. -/
def plain (inFlow : Bool) (leastColumn : Nat) :
    List Char → Mark → Gap → List Char → Option (Scanned × Bool)
  | [], mark, gap, kept => some (⟨kept.reverse, [], mark⟩, gap.crossesLine)
  | c :: rest, mark, gap, kept =>
    if isSpace c || isBreak c then
      if c == '\t' && gap.crossesLine && mark.column < leastColumn then none
      else plain inFlow leastColumn rest (mark.after c) (gap.push c) kept
    else
      let lineEnds := !gap.isClosed &&
        ((!inFlow && mark.column < leastColumn) || c == '#' ||
          (mark.column == 0 && atDocumentMark (c :: rest)))
      if lineEnds || (c == ':' && isGapOrEnd rest) || (inFlow && isFlowIndicator c) then
        some (⟨kept.reverse, c :: rest, mark⟩, gap.crossesLine)
      else if inFlow && c == ':' && misplacesColon rest then none
      else plain inFlow leastColumn rest (mark.after c) .closed (c :: (gap.filling ++ kept))

/-! ### Quoted scalars -/

/-- Reads a scalar in single quotes from behind the first of them. Two quotes in a row stand for
one. -/
def singleQuoted : List Char → Mark → Gap → List Char → Option Scanned
  | [], _, _, _ => none
  | '\'' :: '\'' :: rest, mark, gap, kept =>
    singleQuoted rest ((mark.after '\'').after '\'') .closed ('\'' :: (gap.filling ++ kept))
  | c :: rest, mark, gap, kept =>
    if c == '\'' then some ⟨(gap.filling ++ kept).reverse, rest, mark.after c⟩
    else if isSpace c || isBreak c then singleQuoted rest (mark.after c) (gap.push c) kept
    else if mark.column == 0 && atDocumentMark (c :: rest) then none
    else singleQuoted rest (mark.after c) .closed (c :: (gap.filling ++ kept))

/-- The character that a letter after a backslash stands for. -/
def escapedCharacter? (c : Char) : Option Char :=
  match c with
  | '0' => some '\u0000'
  | 'a' => some '\u0007'
  | 'b' => some '\u0008'
  | 't' => some '\t'
  | '\t' => some '\t'
  | 'n' => some '\n'
  | 'v' => some '\u000b'
  | 'f' => some '\u000c'
  | 'r' => some '\r'
  | 'e' => some '\u001b'
  | ' ' => some ' '
  | '"' => some '"'
  | '/' => some '/'
  | '\\' => some '\\'
  | 'N' => some '\u0085'
  | '_' => some '\u00a0'
  | 'L' => some '\u2028'
  | 'P' => some '\u2029'
  | _ => none

/-- The number of hexadecimal digits that a letter after a backslash asks for. -/
def escapeWidth? (c : Char) : Option Nat :=
  match c with
  | 'x' => some 2
  | 'u' => some 4
  | 'U' => some 8
  | _ => none

/-- The character with a code point, if it is one. -/
def characterOf? (code : Nat) : Option Char :=
  if code < 0xD800 || (0xDFFF < code && code < 0x110000) then some (Char.ofNat code) else none

/-- How far an escape has been read. -/
inductive Escape where
  | outside
  | opened
  | digits (left value : Nat)
deriving DecidableEq, Repr

/-- Reads a scalar in double quotes from behind the first of them. -/
def doubleQuoted : List Char → Escape → Mark → Gap → List Char → Option Scanned
  | [], _, _, _, _ => none
  | c :: rest, .outside, mark, gap, kept =>
    if c == '"' then some ⟨(gap.filling ++ kept).reverse, rest, mark.after c⟩
    else if isSpace c || isBreak c then doubleQuoted rest .outside (mark.after c) (gap.push c) kept
    else if mark.column == 0 && atDocumentMark (c :: rest) then none
    else
      let joined := gap.filling ++ kept
      if c == '\\' then doubleQuoted rest .opened (mark.after c) .closed joined
      else doubleQuoted rest .outside (mark.after c) .closed (c :: joined)
  | c :: rest, .opened, mark, gap, kept =>
    if isBreak c then doubleQuoted rest .outside (mark.after c) (.breaks none []) kept
    else match escapedCharacter? c, escapeWidth? c with
      | some escaped, _ => doubleQuoted rest .outside (mark.after c) gap (escaped :: kept)
      | none, some width => doubleQuoted rest (.digits width 0) (mark.after c) gap kept
      | none, none => none
  | c :: rest, .digits left value, mark, gap, kept =>
    match Text.hexValue? c with
    | none => none
    | some digit =>
      let total := 16 * value + digit
      if left ≤ 1 then
        match characterOf? total with
        | none => none
        | some escaped => doubleQuoted rest .outside (mark.after c) gap (escaped :: kept)
      else doubleQuoted rest (.digits (left - 1) total) (mark.after c) gap kept

end Georeference.Yaml
