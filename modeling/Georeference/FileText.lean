/-
**Texts of files.**

* `FileFault`: why a file gives no text.
* `FileText`: what reading a file gives; `FileText.ofBytes`: a file is a text in UTF-8.
-/

namespace Georeference

/-- Why a file gives no text. -/
inductive FileFault where
  | missing
  | notText
deriving DecidableEq, Repr

/-- The text of a file, or why there is none. -/
abbrev FileText := Except FileFault String

/-- The text that bytes in UTF-8 encode. -/
def FileText.ofBytes (bytes : ByteArray) : FileText :=
  match String.fromUTF8? bytes with
  | some text => .ok text
  | none => .error .notText

end Georeference
