import JobResults.Clock
import JobResults.Gate
import JobResults.Metrics
import JobResults.Pipeline

/-!
  # What the parts of a result store share

  The operations of a store, the flusher and the purger work on one backend, one way of writing,
  one clock and one set of counters.  Writes go to the backend one by one, or into a queue that is
  sent as a batch.
-/

namespace JobResults

/-- The way of writing commands. -/
inductive WritePath where
  | direct (closed : Bool)
  | batched (pipeline : Pipeline)
  deriving DecidableEq, Repr

namespace WritePath

/-- The way of writing for a flush period: zero disables the queue. -/
def select (period : Duration) : WritePath :=
  if period.isZero then direct false else batched .empty

def mode : WritePath → String
  | direct _ => "direct"
  | batched _ => "batched"

def close : WritePath → WritePath
  | direct _ => direct true
  | batched p => batched p.close

def isClosed : WritePath → Bool
  | direct closed => closed
  | batched p => p.closed

def pipeline? : WritePath → Option Pipeline
  | direct _ => none
  | batched p => some p

/-- The number of commands that wait in a queue. -/
def pending : WritePath → Nat
  | direct _ => 0
  | batched p => p.length

end WritePath

/-- What the parts of a result store share. -/
structure Engine where
  gate : Gate
  now : Now
  clock : ManualClock
  writes : WritePath
  metrics : Metrics
  deriving DecidableEq

namespace Engine

def call (e : Engine) (c : StoreCall) : Engine × Except StoreError StoreAnswer :=
  let (gate, reply) := e.gate.answer e.now c
  ({ e with gate := gate }, reply)

def execute (e : Engine) (commands : List Command) : Engine × Except StoreError Unit :=
  let (e, reply) := e.call (.execute commands)
  (e, reply.map fun _ => ())

/-- Writes a command, at once or into the queue. -/
def submit (e : Engine) (c : Command) : Engine × Except StoreError Unit :=
  match e.writes with
  | .direct true => (e, .error .closed)
  | .direct false => e.execute [c]
  | .batched p =>
    match p.enqueue c with
    | .ok p => ({ e with writes := .batched p }, .ok ())
    | .error err => (e, .error err)

/-- Sends the queue as one batch, and counts its commands.  An empty queue sends nothing; a batch
    that fails is gone. -/
def sendQueue (e : Engine) : Engine × Except StoreError Nat :=
  match e.writes with
  | .direct _ => (e, .ok 0)
  | .batched p =>
    let (batch, p) := p.take
    let e := { e with writes := .batched p }
    if batch.isEmpty then (e, .ok 0)
    else
      let (e, reply) := e.execute batch
      (e, reply.map fun _ => batch.length)

/-- Sends the queue on behalf of the flusher, which counts what became of it. -/
def flush (e : Engine) : Engine :=
  match e.sendQueue with
  | (e, .ok 0) => e
  | (e, .ok n) => { e with metrics := e.metrics.batchFlushed n }
  | (e, .error _) => { e with metrics := e.metrics.flushFailed }

def count (e : Engine) (f : Metrics → Metrics) : Engine := { e with metrics := f e.metrics }

/-- Moves the monotonic clock.  The wall clock is never found standing still. -/
def moveTo (e : Engine) (instant : Instant) : Engine :=
  { e with now := ⟨instant, e.now.wall + 1⟩ }

end Engine

end JobResults
