import JobResults.Power

/-!
  # Durations

  A duration is a whole number of nanoseconds, at most `2 ^ 64 - 1` seconds and `999999999`
  nanoseconds.  The bound is part of the type.  Zero stands for "disabled" wherever an option may
  be left out.
-/

namespace JobResults

def nanosPerSecond : Nat := 1000000000

/-- A whole number of nanoseconds, below `2 ^ 64` seconds. -/
structure Duration where
  nanos : Nat
  bounded : nanos < 2 ^ 64 * nanosPerSecond := by decide
  deriving DecidableEq

namespace Duration

instance : Repr Duration := ⟨fun d _ => repr d.nanos⟩

def zero : Duration := ⟨0, by decide⟩

def max : Duration := ⟨2 ^ 64 * nanosPerSecond - 1, by decide⟩

instance : Inhabited Duration := ⟨zero⟩

def isZero (d : Duration) : Bool := d.nanos == 0

def ofSeconds (n : UInt64) : Duration :=
  ⟨n.toNat * nanosPerSecond, by
    have := n.toNat_lt
    unfold nanosPerSecond
    omega⟩

def ofMillis (n : UInt64) : Duration :=
  ⟨n.toNat * 1000000, by
    have := n.toNat_lt
    unfold nanosPerSecond
    omega⟩

/-- A number of nanoseconds that fits a 64-bit word. -/
def ofWord (n : Nat) (h : n < 2 ^ 64) : Duration :=
  ⟨n, by unfold nanosPerSecond; omega⟩

/-- A number of nanoseconds, or the longest duration if there is none of that length. -/
def ofNanos (n : Nat) : Duration :=
  if h : n < 2 ^ 64 * nanosPerSecond then ⟨n, h⟩ else max

def millis (d : Duration) : Nat := d.nanos / 1000000

/-- The nanoseconds as a signed word, the largest one standing for all beyond it. -/
def signedNanos (d : Duration) : Int64 := Int64.ofInt (min (Int.ofNat d.nanos) (2 ^ 63 - 1))

instance : LE Duration := ⟨fun a b => a.nanos ≤ b.nanos⟩

instance : LT Duration := ⟨fun a b => a.nanos < b.nanos⟩

instance : DecidableLE Duration := fun a b => inferInstanceAs (Decidable (a.nanos ≤ b.nanos))

instance : DecidableLT Duration := fun a b => inferInstanceAs (Decidable (a.nanos < b.nanos))

instance : Ord Duration := ⟨fun a b => compare a.nanos b.nanos⟩

end Duration

end JobResults
