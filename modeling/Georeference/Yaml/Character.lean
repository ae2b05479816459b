/-
**Characters and places in a YAML text.**

* `isAllowed`: the characters that may stand in a text at all.
* `unifyBreaks`: the line breaks of the systems in use, written as a line feed.
* `isBreak`, `isSpace`, `isGapOrEnd`: what separates.
* `Mark`: a place, by its line, its column and the bytes before it.
* `atDocumentMark`: whether a text begins with the mark between documents.
-/

namespace Georeference.Yaml

/-- The printable characters, tabs and line breaks. -/
def isAllowed (c : Char) : Bool :=
  let code := c.toNat
  code == 0x9 || code == 0xA || code == 0xD || (0x20 ≤ code && code ≤ 0x7E) || code == 0x85 ||
    (0xA0 ≤ code && code ≤ 0xD7FF) || (0xE000 ≤ code && code ≤ 0xFFFD) || 0x10000 ≤ code

/-- Writes a carriage return, with or without a line feed after it, and a next line character as a
line feed. -/
def unifyBreaks : List Char → List Char
  | [] => []
  | '\r' :: '\n' :: rest => '\n' :: unifyBreaks rest
  | c :: rest => (if c = '\r' || c = '\u0085' then '\n' else c) :: unifyBreaks rest

/-- A line break: a line feed, a line separator or a paragraph separator. -/
def isBreak (c : Char) : Bool :=
  c == '\n' || c == '\u2028' || c == '\u2029'

/-- A space or a tab. -/
def isSpace (c : Char) : Bool :=
  c == ' ' || c == '\t'

/-- Whether a text begins with a space, a tab or a line break, or is at its end. -/
def isGapOrEnd : List Char → Bool
  | [] => true
  | c :: _ => isSpace c || isBreak c

/-- Whether a text begins with three hyphens or three points that stand alone. -/
def atDocumentMark : List Char → Bool
  | '-' :: '-' :: '-' :: rest => isGapOrEnd rest
  | '.' :: '.' :: '.' :: rest => isGapOrEnd rest
  | _ => false

/-- The brackets and the comma of collections in brackets. -/
def isFlowIndicator (c : Char) : Bool :=
  c == ',' || c == '[' || c == ']' || c == '\x7b' || c == '\x7d'

/-- A place in a text: the number of lines before it, and the numbers of characters and of bytes in
UTF-8 between the beginning of its line and it. -/
structure Mark where
  line : Nat
  column : Nat
  offset : Nat
deriving DecidableEq, Repr

def Mark.ofLine (line : Nat) : Mark := ⟨line, 0, 0⟩

def Mark.after (mark : Mark) (c : Char) : Mark :=
  if isBreak c then .ofLine (mark.line + 1)
  else ⟨mark.line, mark.column + 1, mark.offset + c.utf8Size⟩

end Georeference.Yaml
