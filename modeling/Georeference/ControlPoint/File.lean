/-
**Files of ground control points.**

The first line of such a file that is not blank is its header. Every later line holds a point,
except blank ones and those whose first shown character is `#`.

* `headerLine?`: the header of a text, as it is written.
* `ControlPointFile.read`: the header is resolved first, and the points are read only if it is
  accepted; the first line that gives no point is blamed.
* `imagesOf`, `ControlPointFile.images`: the names of the images, each once.

The resolver may have effects, so reading a file is an action in its monad; but it is asked at most
once, and reading the points below has no effects. Lines are numbered before any of them is passed
over, so the place of a line that is blamed is its place in the file. The images are gathered from
the first point to the last, and a name is kept where it comes first.
-/

import Georeference.ControlPoint.Basic
import Georeference.FileText
import Georeference.Header.Resolver
import Georeference.Text.Lines

namespace Georeference

/-- Why a file gives no control points. -/
inductive ControlPointError where
  | empty
  | header (error : HeaderError)
  | point (line : Nat) (fault : PointFault)
  | unreadable (fault : FileFault)
deriving DecidableEq, Repr

/-- A header with the system that it names, and the points below it. -/
structure ControlPointFile (System : Type) where
  header : String
  system : System
  points : List ControlPoint
deriving DecidableEq

/-- The first line of a text that is not blank, as it is written. -/
def headerLine? (text : String) : Option String :=
  (Text.firstShown? text.toList).map fun (_, line) => String.ofList line

/-- Whether a line below the header holds a point. -/
def holdsPoint (line : List Char) : Bool :=
  match Text.trimStart line with
  | [] => false
  | first :: _ => first != '#'

/-- The lines below the header that hold points, with their positions in the file. -/
def pointLines (header : Nat) (text : String) : List (Nat × List Char) :=
  ((Text.numberedLines text.toList).drop header).filter fun (_, line) => holdsPoint line

/-- Reads points from lines, up to the first line that gives none. -/
def readPoints : List (Nat × List Char) → Except ControlPointError (List ControlPoint)
  | [] => .ok []
  | (position, line) :: rest =>
    match ControlPoint.read line with
    | .error fault => .error (.point position fault)
    | .ok point => (readPoints rest).map (point :: ·)

/-- The names of the images of points, each once and in the order in which they come first. -/
def imagesOf (points : List ControlPoint) : List String :=
  (points.map ControlPoint.image).eraseDups

namespace ControlPointFile

variable {m : Type → Type} [Monad m] {System : Type}

/-- Reads a file, resolving its header. -/
def read (resolver : Resolver m System) (text : String) :
    m (Except ControlPointError (ControlPointFile System)) :=
  match Text.firstShown? text.toList with
  | none => pure (.error .empty)
  | some (position, line) => do
    let header := String.ofList line
    match ← resolver.resolve header with
    | .error error => pure (.error (.header error))
    | .ok system => pure ((readPoints (pointLines position text)).map (⟨header, system, ·⟩))

/-- Reads the contents of a file, if there is such a file and it is a text. -/
def readContents (resolver : Resolver m System) (contents : FileText) :
    m (Except ControlPointError (ControlPointFile System)) :=
  match contents with
  | .error fault => pure (.error (.unreadable fault))
  | .ok text => read resolver text

/-- The names of the images, each once. -/
def images (file : ControlPointFile System) : List String :=
  imagesOf file.points

end ControlPointFile

def ControlPointError.message : ControlPointError → String
  | .empty => "GCP file has no SRS header"
  | .header error => error.message
  | .point line fault =>
    "Invalid GCP entry on line " ++ toString line ++ ": " ++ fault.message
  | .unreadable .missing => "GCP file not found"
  | .unreadable .notText => "GCP file is not a text"

end Georeference
