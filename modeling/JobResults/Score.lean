import JobResults.Power

/-!
  # Scores and clock readings

  A score is a signed 64-bit number.  Scores of finished jobs are clock readings: nanoseconds since
  the epoch.  Sums and differences of readings stop at the ends of the range.
-/

namespace JobResults

/-- A signed 64-bit number by which the members of a set are ranked. -/
abbrev Score := Int64

namespace Score

def clamp (v : Int) : Score := Int64.ofInt (max (-2 ^ 63) (min v (2 ^ 63 - 1)))

/-- The sum, or the end of the range beyond which it lies. -/
def addSaturating (a b : Score) : Score := clamp (a.toInt + b.toInt)

/-- The difference, or the end of the range beyond which it lies. -/
def subSaturating (a b : Score) : Score := clamp (a.toInt - b.toInt)

def within (lo hi s : Score) : Bool := lo ≤ s && s ≤ hi

end Score

end JobResults
