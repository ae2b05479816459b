/-
**The program.**

All that is asked of the system is asked here: the environment, the files that the arguments name
and, where the headers come from there, the standard input are read, and what the run gives is
written.

* `World.gather`: reading what some arguments ask for.
* `main`: the program.

Nothing is decided here. A file that cannot be read is passed on as one that is missing, and the run
says what that means. Files are read in two steps, because the file that completes the environment
has a say in which others are named.
-/

import Georeference.CommandLine.Run

namespace Georeference.CommandLine

def readFile (path : String) : IO FileText := do
  try
    pure (FileText.ofBytes (← IO.FS.readBinFile path))
  catch _ =>
    pure (.error .missing)

/-- Reads the environment, from where the system shows it as a block of entries. -/
def readEnvironment : IO Environment := do
  match ← readFile "/proc/self/environ" with
  | .ok block => pure (.ofBlock block)
  | .error _ => pure .empty

/-- Reads the bytes of a stream up to its end. -/
partial def readBytes (stream : IO.FS.Stream) (earlier : ByteArray) : IO ByteArray := do
  let bytes ← stream.read 65536
  if bytes.isEmpty then pure earlier else readBytes stream (earlier ++ bytes)

def readInput : IO FileText := do
  pure (FileText.ofBytes (← readBytes (← IO.getStdin) .empty))

/-- The files of a run, by their paths. -/
def filesOf (files : List (String × FileText)) (path : String) : FileText :=
  (files.lookup path).getD (.error .missing)

/-- Reads what some arguments ask for. -/
def World.gather (arguments : List String) : IO World := do
  let environment ← readEnvironment
  let files := [(environmentFileName, ← readFile environmentFileName)]
  let bare : World := ⟨arguments, environment, filesOf files, .ok ""⟩
  match bare.completed?.bind fun world => world.given.toOption with
  | none => pure bare
  | some given =>
    let named ← given.paths.mapM fun path => do pure (path, ← readFile path)
    let input ← if given.wantInput then readInput else pure (.ok "")
    pure { bare with file := filesOf (files ++ named), input }

end Georeference.CommandLine

open Georeference.CommandLine in
/-- The program: its exit code says whether all headers were resolved. -/
def main (arguments : List String) : IO UInt32 := do
  let outcome := run (← World.gather arguments)
  IO.print outcome.output
  for complaint in outcome.complaints do
    IO.eprintln complaint
  pure outcome.exit.toUInt32
