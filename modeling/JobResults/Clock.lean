import JobResults.Duration.Basic
import JobResults.Score

/-!
  # Clocks

  Three readings of time occur: the score clock, which may be set to any value and gives jobs
  their scores; the monotonic clock, on which expiry in memory and the background loops are
  measured; and the wall clock, on which expiry in the embedded store is measured.
-/

namespace JobResults

/-- A score clock that moves only when told to. -/
structure ManualClock where
  now : Score
  deriving DecidableEq, Repr

namespace ManualClock

def set (_ : ManualClock) (reading : Score) : ManualClock := ⟨reading⟩

/-- Moves the clock forward, at most to the last reading. -/
def advance (c : ManualClock) (step : Duration) : ManualClock :=
  ⟨c.now.addSaturating step.signedNanos⟩

end ManualClock

/-- An instant of the monotonic clock, in nanoseconds since its start. -/
abbrev Instant := Nat

namespace Instant

/-- The nanoseconds that the monotonic clock can count. -/
def range : Nat := 2 ^ 63 * nanosPerSecond

/-- The instant a duration after another, if the clock can count that far. -/
def add? (now : Instant) (d : Duration) : Option Instant :=
  if now + d.nanos < range then some (now + d.nanos) else none

end Instant

end JobResults
