/-!
# Classes of characters

A property of characters that a standard lays down by enumeration is kept as a list of ranges of
code points, both ends included.
-/

namespace TapeLang.Text

/-- Ranges of code points, both ends included. -/
abbrev Ranges := List (Nat × Nat)

/-- Whether a code point lies in one of the ranges. -/
def Ranges.contains (ranges : Ranges) (code : Nat) : Bool :=
  ranges.any fun (first, last) => decide (first ≤ code) && decide (code ≤ last)

end TapeLang.Text
