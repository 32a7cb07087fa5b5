import JobResults.Purge
import JobResults.Ticker

/-!
  # Background loops

  A supervisor owns up to two loops: the flusher, which sends the queue every period, and the
  purger, which purges every window.  A loop whose first deadline cannot be counted is dead from
  the start.  At shutdown the flusher sends the queue a last time and stops, then the purger
  stops, then the queue is closed and what was queued in between is sent.  A supervisor that is
  dropped stops both loops; the flusher still sends the queue a last time.
-/

namespace JobResults

/-- A background loop. -/
inductive Loop where
  | absent
  | dead
  | running (ticker : Ticker)
  deriving DecidableEq, Repr

namespace Loop

def start (now : Instant) (period : Duration) : Loop :=
  match Ticker.start? now period with
  | some ticker => running ticker
  | none => dead

def isPresent : Loop → Bool
  | absent => false
  | _ => true

/-- The instant of the next tick, if it is not after the target. -/
def due? (l : Loop) (target : Instant) : Option Instant :=
  match l with
  | running ticker => if ticker.due ≤ target then some ticker.due else none
  | _ => none

def next (l : Loop) (now : Instant) : Loop :=
  match l with
  | running ticker => running (ticker.next now)
  | l => l

/-- The number of ticks up to an instant, at most. -/
def ticksUntil (l : Loop) (target : Instant) : Nat :=
  match l with
  | running ticker => ticker.ticksUntil target
  | _ => 0

end Loop

namespace Engine

/-- A tick of the flusher.  An empty queue is left alone. -/
def flusherTick (e : Engine) : Engine := if e.writes.pending = 0 then e else e.flush

def purgerTick (e : Engine) (window : Duration) : Engine := (e.purge window).1

end Engine

/-- The background loops of a store. -/
structure Supervisor where
  flusher : Loop
  purger : Loop
  window : Duration
  /-- Whether the queue is closed and sent at shutdown. -/
  closesQueue : Bool
  deriving DecidableEq, Repr

namespace Supervisor

/-- Starts the loops that have a period, the flusher and the purger. -/
def start (flusher purger : Option Duration) (closesQueue : Bool) (now : Instant) : Supervisor where
  flusher := flusher.elim .absent (Loop.start now)
  purger := purger.elim .absent (Loop.start now)
  window := purger.getD .zero
  closesQueue := closesQueue

def isRunning (s : Supervisor) : Bool := s.flusher.isPresent || s.purger.isPresent

/-- A tick, with the instant at which it happens. -/
inductive Tick where
  | flusher (instant : Instant)
  | purger (instant : Instant)
  deriving DecidableEq, Repr

/-- The next tick that is not after the target. -/
def nextTick? (s : Supervisor) (target : Instant) : Option Tick :=
  match s.flusher.due? target, s.purger.due? target with
  | some f, some p => if f ≤ p then some (.flusher f) else some (.purger p)
  | some f, none => some (.flusher f)
  | none, some p => some (.purger p)
  | none, none => none

/-- Runs a tick.  One whose instant has passed runs now. -/
def runTick (e : Engine) (s : Supervisor) : Tick → Engine × Supervisor
  | .flusher instant =>
    let e := e.moveTo (max e.now.monotonic instant)
    (e.flusherTick, { s with flusher := s.flusher.next e.now.monotonic })
  | .purger instant =>
    let e := e.moveTo (max e.now.monotonic instant)
    (e.purgerTick s.window, { s with purger := s.purger.next e.now.monotonic })

/-- Runs up to `count` ticks that are not after the target, in order. -/
def runTicks (target : Instant) : (count : Nat) → Engine → Supervisor → Engine × Supervisor
  | 0, e, s => (e, s)
  | count + 1, e, s =>
    match s.nextTick? target with
    | none => (e, s)
    | some tick =>
      let (e, s) := runTick e s tick
      runTicks target count e s

/-- Lets time pass up to an instant, with all ticks due on the way. -/
def sleepUntil (e : Engine) (s : Supervisor) (target : Instant) : Engine × Supervisor :=
  let count := s.flusher.ticksUntil target + s.purger.ticksUntil target
  let (e, s) := runTicks target count e s
  (e.moveTo target, s)

/-- The last sending of a flusher that is stopped. -/
def stopFlusher (e : Engine) (s : Supervisor) : Engine :=
  match s.flusher with
  | .running _ => e.flush
  | _ => e

/-- Closes the queue and sends what is left in it; whether that works is not told. -/
def closeQueue (e : Engine) : Engine :=
  let e := { e with writes := e.writes.close }
  if e.writes.pending = 0 then e else e.sendQueue.1

/-- Stops the loops in order, sending the queue. -/
def shutdown (e : Engine) (s : Supervisor) : Engine :=
  let e := stopFlusher e s
  if s.closesQueue then closeQueue e else e

/-- Stops the loops of a supervisor that nobody shut down. -/
def drop (e : Engine) (s : Supervisor) : Engine := stopFlusher e s

end Supervisor

end JobResults
