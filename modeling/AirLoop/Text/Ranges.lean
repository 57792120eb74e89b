/-!
# Sets of characters as ranges

A property of characters is given by the ranges of code points that have it.
-/

namespace AirLoop

/-- Ranges of code points, both ends included. -/
abbrev CodeRanges := List (Nat × Nat)

/-- Whether a character lies in one of the ranges. -/
def CodeRanges.contains (r : CodeRanges) (c : Char) : Bool :=
  r.any fun (lo, hi) => decide (lo ≤ c.toNat) && decide (c.toNat ≤ hi)

end AirLoop
