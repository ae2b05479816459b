/-
**Literal and folded scalars.**

Such a scalar takes up the lines below its header that are indented far enough. The header may say
how far that is, and otherwise the first line that is not empty shows it; it may also say what
becomes of the line breaks at the end. In a literal scalar all line breaks are kept; in a folded
one a line feed between two lines that begin with no space stands for a space.

* `Chomping`, `BlockHeader`, `BlockHeader.read`.
* `blockScalar`: reading a scalar from behind its indicator.
-/

import Georeference.Yaml.Flow

namespace Georeference.Yaml

/-- What becomes of the line breaks at the end of a scalar: one is kept, or none, or all. -/
inductive Chomping where
  | clip
  | strip
  | keep
deriving DecidableEq, Repr

/-- What a header says: the chomping and, counted from the parent, the indentation. -/
structure BlockHeader where
  chomping : Chomping
  increment : Option Nat
deriving DecidableEq, Repr

namespace BlockHeader

/-- A sign of chomping at the front of a text. -/
def chomping? : List Char → Option (Chomping × List Char)
  | '+' :: rest => some (.keep, rest)
  | '-' :: rest => some (.strip, rest)
  | _ => none

/-- A digit at the front of a text, if there is one; zero is refused. -/
def increment? : List Char → Option (Option Nat × List Char)
  | [] => some (none, [])
  | c :: rest =>
    if c == '0' then none
    else if c.isDigit then some (some (c.toNat - 0x30), rest)
    else some (none, c :: rest)

/-- Reads the two signs of a header, in either order. -/
def readSigns (text : List Char) : Option (BlockHeader × List Char) :=
  match chomping? text with
  | some (chomping, rest) =>
    (increment? rest).map fun (increment, rest) => (⟨chomping, increment⟩, rest)
  | none =>
    (increment? text).map fun (increment, rest) =>
      match increment, chomping? rest with
      | some _, some (chomping, rest) => (⟨chomping, increment⟩, rest)
      | _, _ => (⟨.clip, increment⟩, rest)

/-- Drops spaces and a comment up to the end of the line, and the line break. -/
def endLine? (text : List Char) : Option (List Char) :=
  match text.dropWhile isSpace with
  | [] => some []
  | c :: rest =>
    if isBreak c then some rest
    else if c == '#' then some ((rest.dropWhile fun d => !isBreak d).drop 1)
    else none

/-- Reads a header with the rest of its line. -/
def read (text : List Char) : Option (BlockHeader × List Char) :=
  (readSigns text).bind fun (header, rest) => (endLine? rest).map fun below => (header, below)

end BlockHeader

/-- What has been read of a scalar. The indentation is not known before the first line that is not
empty, unless the header gives it; until then the deepest column of the empty lines is kept.
Characters are kept last one first. -/
structure BlockState where
  indentation : Option Nat
  deepest : Nat
  kept : List Char
  lineBreak : Option Char
  emptyLines : List Char
  beganWithSpace : Bool
  inLine : Bool
deriving DecidableEq, Repr

namespace BlockState

/-- The line breaks before a further line, last one first: in a folded scalar a line feed between
lines that begin with no space is a space, or nothing if empty lines follow it. -/
def join (state : BlockState) (folded beginsWithSpace : Bool) : List Char :=
  if folded && state.lineBreak == some '\n' && !state.beganWithSpace && !beginsWithSpace then
    if state.emptyLines.isEmpty then [' '] else state.emptyLines
  else state.emptyLines ++ state.lineBreak.toList

/-- The text of the scalar once its last line has been read. -/
def finish (state : BlockState) (chomping : Chomping) : List Char :=
  (match chomping with
    | .strip => state.kept
    | .clip => state.lineBreak.toList ++ state.kept
    | .keep => state.emptyLines ++ state.lineBreak.toList ++ state.kept).reverse

end BlockState

/-- Reads the lines of a scalar. -/
def blockLines (folded : Bool) (chomping : Chomping) (leastColumn : Nat) :
    List Char → Mark → BlockState → Option Scanned
  | [], mark, state => some ⟨state.finish chomping, [], mark⟩
  | c :: rest, mark, state =>
    if state.inLine then
      if isBreak c then
        blockLines folded chomping leastColumn rest (mark.after c)
          { state with lineBreak := some c, inLine := false }
      else blockLines folded chomping leastColumn rest (mark.after c)
        { state with kept := c :: state.kept }
    else
      let short := match state.indentation with
        | none => true
        | some indentation => mark.column < indentation
      if short && c == ' ' then blockLines folded chomping leastColumn rest (mark.after c) state
      else if short && c == '\t' then none
      else if isBreak c then
        blockLines folded chomping leastColumn rest (mark.after c)
          { state with
            deepest := max state.deepest mark.column
            emptyLines := c :: state.emptyLines }
      else
        let indentation := state.indentation.getD
          (max (max state.deepest mark.column) (max leastColumn 1))
        if mark.column = indentation then
          blockLines folded chomping leastColumn rest (mark.after c)
            { indentation := some indentation
              deepest := state.deepest
              kept := c :: (state.join folded (isSpace c) ++ state.kept)
              lineBreak := none
              emptyLines := []
              beganWithSpace := isSpace c
              inLine := true }
        else some ⟨state.finish chomping, c :: rest, mark⟩

/-- Reads a literal or folded scalar from behind its indicator. The indentation that a header gives
counts from the parent, whose column is given if there is one. -/
def blockScalar (folded : Bool) (parent : Option Nat) (text : List Char) (mark : Mark) :
    Option Scanned :=
  (BlockHeader.read text).bind fun (header, below) =>
    blockLines folded header.chomping ((parent.map (· + 1)).getD 0) below (.ofLine (mark.line + 1))
      { indentation := header.increment.map (parent.getD 0 + ·)
        deepest := 0
        kept := []
        lineBreak := none
        emptyLines := []
        beganWithSpace := false
        inLine := false }

end Georeference.Yaml
