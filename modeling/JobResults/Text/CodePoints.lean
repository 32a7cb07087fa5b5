/-!
  # Sets of code points

  A property of characters is given by the inclusive ranges of code points that have it.
-/

namespace JobResults

/-- Inclusive ranges of code points, ascending and disjoint. -/
abbrev CodePoints := Array (Nat × Nat)

/-- Whether a character lies in one of the ranges. -/
def CodePoints.contains (set : CodePoints) (c : Char) : Bool :=
  set.any fun range => range.1 ≤ c.toNat && c.toNat ≤ range.2

end JobResults
