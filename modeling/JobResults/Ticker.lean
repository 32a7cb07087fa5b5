import JobResults.Clock

/-!
  # Tickers

  A ticker is due one period after its start and then every period.  The timers behind it count
  whole milliseconds, so a tick happens at the first whole millisecond that is not before its
  deadline; deadlines themselves are exact.  A tick that is more than five milliseconds late puts
  the next deadline a period after itself.
-/

namespace JobResults

def nanosPerMilli : Nat := 1000000

/-- A deadline that comes back every period. -/
structure Ticker where
  deadline : Instant
  period : Nat
  deriving DecidableEq, Repr

namespace Ticker

/-- A ticker that starts now.  A period of zero, or one that the clock cannot count, has none. -/
def start? (now : Instant) (period : Duration) : Option Ticker :=
  if period.isZero then none
  else (Instant.add? now period).map fun deadline => ⟨deadline, period.nanos⟩

/-- The whole millisecond at which the ticker is due. -/
def due (t : Ticker) : Instant := (t.deadline + (nanosPerMilli - 1)) / nanosPerMilli * nanosPerMilli

/-- How late a tick may be without moving the deadlines after it. -/
def tolerance : Nat := 5 * nanosPerMilli

def next (t : Ticker) (now : Instant) : Ticker :=
  let base := if now > t.deadline + tolerance then now else t.deadline
  { t with deadline := base + t.period }

/-- The number of ticks with a deadline up to an instant, at most. -/
def ticksUntil (t : Ticker) (target : Instant) : Nat :=
  if t.deadline ≤ target then (target - t.deadline) / t.period + 1 else 0

end Ticker

end JobResults
