/-
**Ignorable characters.**

Some characters show nothing of their own: fillers, joiners, marks of direction and selectors of
variants, with the property `Default_Ignorable_Code_Point`. The letters among them are the fillers
of Hangul. The table is that of Unicode 17.

* `isIgnorable`: the property.
-/

import Georeference.Text.Ranges

namespace Georeference.Text

/-- The characters with the property `Default_Ignorable_Code_Point`. -/
def ignorableRanges : Ranges :=
  [(0xAD, 0xAD), (0x34F, 0x34F), (0x61C, 0x61C), (0x115F, 0x1160), (0x17B4, 0x17B5),
    (0x180B, 0x180F), (0x200B, 0x200F), (0x202A, 0x202E), (0x2060, 0x206F), (0x3164, 0x3164),
    (0xFE00, 0xFE0F), (0xFEFF, 0xFEFF), (0xFFA0, 0xFFA0), (0xFFF0, 0xFFF8), (0x1BCA0, 0x1BCA3),
    (0x1D173, 0x1D17A), (0xE0000, 0xE0FFF)]

/-- Whether a character shows nothing of its own. -/
def isIgnorable (c : Char) : Bool :=
  ignorableRanges.holds c

/-! ### First facts -/

theorem ignorableRanges_ascend : ignorableRanges.ascend = true := by
  decide +kernel

end Georeference.Text
