import JobResults.ResultStore
import JobResults.Proofs.Cutoff

/-!
  # Runs of a result store, and what they mean

  A run is a list of actions: operations of callers, settings of the score clock, and time that
  passes with the ticks of the purger.  `ResultStore.replies` runs them on a store and
  `JobSystem.replies` on a table of jobs, where each operation is the one line that it is meant
  to be.
-/

namespace JobResults

/-- What callers ask of a store of job results, and what happens around it. -/
inductive JobAction where
  | set (id : String) (payload : Bytes)
  | record (o : Outcome) (id : String)
  | get (id : String)
  | list (o : Outcome)
  | delete (id : String)
  | purgeMetadata
  | purgeOlderThan (window : Duration)
  | setClock (reading : Score)
  /-- Time passes on the monotonic clock, with all ticks that are due on the way. -/
  | sleep (nanos : Nat)
  /-- A running purger ticks at an instant, be it due or not. -/
  | tick (instant : Instant)
  deriving DecidableEq, Repr

def JobAction.ids : JobAction → List String
  | set id _ => [id]
  | record _ id => [id]
  | get id => [id]
  | delete id => [id]
  | _ => []

/-- What an action tells. -/
inductive JobReply where
  | done
  | payload (bytes : Bytes)
  | jobs (ids : List String)
  | purged (report : Option PurgeReport)
  deriving DecidableEq, Repr

/-! ### Runs of a store -/

namespace ResultStore

def reply {α : Type} (f : α → JobReply) (answer : ResultStore × Except ResultError α) :
    ResultStore × Except ResultError JobReply :=
  (answer.1, answer.2.map f)

def purgerTick (s : ResultStore) (instant : Instant) : ResultStore :=
  match s.supervisor with
  | some ⟨flusher, .running ticker, window, closesQueue⟩ =>
    let (e, supervisor) :=
      Supervisor.runTick s.engine ⟨flusher, .running ticker, window, closesQueue⟩ (.purger instant)
    { s with engine := e, supervisor := some supervisor }
  | _ => s

def act (s : ResultStore) : JobAction → ResultStore × Except ResultError JobReply
  | .set id payload => reply (fun _ => .done) (s.set id payload)
  | .record o id => reply (fun _ => .done) (s.record o id)
  | .get id => reply .payload (s.get id)
  | .list o => reply .jobs (s.list o)
  | .delete id => reply (fun _ => .done) (s.deleteJob id)
  | .purgeMetadata => reply .purged s.purgeMetadata
  | .purgeOlderThan window => reply (fun report => .purged (some report)) (s.purgeOlderThan window)
  | .setClock reading =>
    ({ s with engine := { s.engine with clock := s.engine.clock.set reading } }, .ok .done)
  | .sleep nanos => (s.sleep nanos, .ok .done)
  | .tick instant => (s.purgerTick instant, .ok .done)

/-- The replies to actions, one after the other. -/
def replies (s : ResultStore) : List JobAction → List (Except ResultError JobReply)
  | [] => []
  | action :: actions => (s.act action).2 :: (s.act action).1.replies actions

end ResultStore

/-! ### Runs of a table -/

/-- A table of jobs, the clocks beside it, and the ticks that the purger has before it.  A record
    is a payload with the instant at which it expires, if ever. -/
structure JobSystem where
  options : Options
  table : JobTable Memory.Entry
  clock : Score
  now : Instant
  purger : Loop

namespace JobSystem

/-- The system without jobs.  There is a purger if the options give it a window. -/
def start (options : Options) (now : Instant) (clock : Score) : JobSystem where
  options := options
  table := .empty
  clock := clock
  now := now
  purger := if options.metaExpiry.isZero then .absent else .start now options.metaExpiry

/-- The record of a payload that is written now.  Without expiry, or with one that the clock
    cannot count, it is kept for ever. -/
def entry (s : JobSystem) (payload : Bytes) : Memory.Entry :=
  ⟨payload, if s.options.expiry.isZero then none else Instant.add? s.now s.options.expiry⟩

def isExpired (s : JobSystem) (e : Memory.Entry) : Bool := e.isExpired s.now

/-- The payload of a record that has not expired. -/
def payload? (s : JobSystem) (id : String) : Option Bytes :=
  (s.table.records.get? id).bind fun e => if s.isExpired e then none else some e.payload

def purge (s : JobSystem) (window : Duration) : JobSystem × PurgeReport :=
  ({ s with table := s.table.purge s.isExpired (exactCutoff s.clock window) },
    ⟨Score.clamp (exactCutoff s.clock window), s.table.expired s.isExpired⟩)

/-- A tick of the purger is a purge with its window.  A tick whose instant has passed is now. -/
def tick (s : JobSystem) (instant : Instant) : JobSystem :=
  let s := { s with now := max s.now instant }
  { (s.purge s.options.metaExpiry).1 with purger := s.purger.next s.now }

/-- Up to `count` ticks that are due by the target. -/
def ticks (target : Instant) : (count : Nat) → JobSystem → JobSystem
  | 0, s => s
  | count + 1, s =>
    match s.purger.due? target with
    | none => s
    | some instant => ticks target count (s.tick instant)

theorem ticks_options (s : JobSystem) (target : Instant) (count : Nat) :
    (ticks target count s).options = s.options := by
  induction count generalizing s with
  | zero => rfl
  | succ count ih =>
    rw [ticks]
    split
    · rfl
    · exact ih _

def sleep (s : JobSystem) (nanos : Nat) : JobSystem :=
  let target := s.now + nanos
  { ticks target (s.purger.ticksUntil target) s with now := target }

def act (s : JobSystem) : JobAction → JobSystem × Except ResultError JobReply
  | .set id payload => ({ s with table := s.table.put id (s.entry payload) }, .ok .done)
  | .record o id => ({ s with table := s.table.rank o id s.clock }, .ok .done)
  | .get id =>
    match s.payload? id with
    | some payload => (s, .ok (.payload payload))
    | none => (s, .error (.notFound id))
  | .list o => (s, .ok (.jobs (s.table.listed o s.clock)))
  | .delete id => ({ s with table := s.table.delete id }, .ok .done)
  | .purgeMetadata =>
    if s.options.metaExpiry.isZero then (s, .ok (.purged none))
    else
      let (s, report) := s.purge s.options.metaExpiry
      (s, .ok (.purged (some report)))
  | .purgeOlderThan window =>
    let (s, report) := s.purge window
    (s, .ok (.purged (some report)))
  | .setClock reading => ({ s with clock := reading }, .ok .done)
  | .sleep nanos => (s.sleep nanos, .ok .done)
  | .tick instant =>
    match s.purger with
    | .running _ => (s.tick instant, .ok .done)
    | _ => (s, .ok .done)

/-- The replies to actions, one after the other. -/
def replies (s : JobSystem) : List JobAction → List (Except ResultError JobReply)
  | [] => []
  | action :: actions => (s.act action).2 :: (s.act action).1.replies actions

end JobSystem

end JobResults
