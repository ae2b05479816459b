/-
**Ranges of code points.**

A property of characters that a standard lays down is kept as a table of closed ranges of code
points, ascending and apart.

* `Ranges.holds`: whether a character lies in one of some ranges.
* `Ranges.ascend`: whether ranges are ascending and apart.
-/

namespace Georeference.Text

/-- Closed ranges of code points. -/
abbrev Ranges := List (Nat × Nat)

namespace Ranges

/-- Whether a character lies in one of some ranges. -/
def holds (ranges : Ranges) (c : Char) : Bool :=
  ranges.any fun (first, last) => first ≤ c.toNat && c.toNat ≤ last

/-- Whether ranges are ascending, with a code point or more between one and the next. -/
def ascend : Ranges → Bool
  | [] => true
  | [(first, last)] => first ≤ last
  | (first, last) :: (next, lastOfNext) :: rest =>
    first ≤ last && last + 1 < next && ascend ((next, lastOfNext) :: rest)

end Ranges

end Georeference.Text
