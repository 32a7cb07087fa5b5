import JobResults.Clock
import JobResults.Memory.RankedSet
import JobResults.StoreCall

/-!
  # The store in memory

  Values and ranked sets under keys, with expiry on the monotonic clock.  An expired value is
  hidden from readers at once and removed by an eviction.
-/

namespace JobResults.Memory

/-- A value with the instant at which it expires, if ever. -/
structure Entry where
  payload : Bytes
  expires : Option Instant
  deriving DecidableEq, Repr

/-- Whether the value has expired at an instant. -/
def Entry.isExpired (e : Entry) (now : Instant) : Bool :=
  match e.expires with
  | some instant => instant ≤ now
  | none => false

/-- Values and ranked sets under keys. -/
structure Store where
  values : OrderedMap String Entry
  sets : OrderedMap String RankedSet
  deriving DecidableEq

namespace Store

def empty : Store := ⟨.empty, .empty⟩

instance : Inhabited Store := ⟨empty⟩

/-- Replaces a set by what a function makes of it, and drops it when that is empty. -/
def updateSet (s : Store) (key : String) (f : RankedSet → RankedSet) : Store :=
  match s.sets.get? key with
  | none => s
  | some set =>
    let set := f set
    { s with sets := if set.isEmpty then s.sets.erase key else s.sets.insert key set }

/-- Runs one command at an instant.  An expiry beyond the range of the clock is none. -/
def apply (now : Instant) (s : Store) : Command → Store
  | .set key payload ttl =>
    { values := s.values.insert key ⟨payload, ttl.bind (Instant.add? now)⟩
      sets := s.sets.erase key }
  | .delete key => { values := s.values.erase key, sets := s.sets.erase key }
  | .rank key member score =>
    { values := s.values.erase key
      sets := s.sets.insert key (((s.sets.get? key).getD .empty).insert member score) }
  | .unrank key member => s.updateSet key (·.erase member)
  | .unrankRange key min max => s.updateSet key (·.eraseRange min max)

def execute (s : Store) (now : Instant) (commands : List Command) : Store :=
  commands.foldl (apply now) s

/-- The payload of a value that has not expired. -/
def get (s : Store) (now : Instant) (key : String) : Option Bytes :=
  match s.values.get? key with
  | some e => if e.isExpired now then none else some e.payload
  | none => none

/-- The members with a score in a closed range, the highest rank first. -/
def range (s : Store) (key : String) (min max : Score) : List String :=
  match s.sets.get? key with
  | some set => set.descending min max
  | none => []

/-- Removes the values that have expired, and counts them. -/
def evict (s : Store) (now : Instant) : Store × Nat :=
  let kept := s.values.filter fun _ e => !e.isExpired now
  ({ s with values := kept }, s.values.size - kept.size)

def answer (s : Store) (now : Instant) : StoreCall → Store × StoreAnswer
  | .get key => (s, .payload (s.get now key))
  | .range key min max => (s, .members (s.range key min max))
  | .execute commands => (s.execute now commands, .done)
  | .ping => (s, .done)
  | .evict => let (s, n) := s.evict now; (s, .evicted n)
  | .close => (s, .done)

end Store

end JobResults.Memory
