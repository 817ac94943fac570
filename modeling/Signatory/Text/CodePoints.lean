/-!
# Sets of code points

A set of code points is written as a list of ranges, both ends included.
-/

namespace Signatory

/-- Code points from the first to the last of each pair. -/
abbrev CodePoints := List (Nat × Nat)

/-- Whether a code point lies in one of the ranges. -/
def CodePoints.holds (ranges : CodePoints) (n : Nat) : Bool :=
  ranges.any fun r => r.1 ≤ n && n ≤ r.2

end Signatory
