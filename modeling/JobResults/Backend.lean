import JobResults.Embedded.Store
import JobResults.Memory.Store

/-!
  # Backends

  A store of results keeps its keys in memory or in the embedded store.  Both answer the same
  calls, each on the clock on which it measures expiry.
-/

namespace JobResults

/-- The readings of the clocks on which expiry is measured. -/
structure Now where
  monotonic : Instant
  wall : UInt64
  deriving DecidableEq, Repr

/-- A store that answers calls. -/
inductive Backend where
  | memory (store : Memory.Store)
  | embedded (tables : Embedded.Tables)
  deriving DecidableEq

namespace Backend

def answer (b : Backend) (now : Now) (call : StoreCall) : Backend × Except StoreError StoreAnswer :=
  match b with
  | memory store =>
    let (store, answer) := store.answer now.monotonic call
    (memory store, .ok answer)
  | embedded tables =>
    let (tables, answer) := tables.answer now.wall call
    (embedded tables, answer)

end Backend

end JobResults
