import JobResults.Supervisor

/-!
  # The store of job results

  The public operations: writing and reading results, recording and listing outcomes, deleting
  jobs, purging, flushing and shutting down.
-/

namespace JobResults

/-- The options of a store.  Zero means: results never expire, nothing is purged in the
    background, writes are not queued. -/
structure Options where
  expiry : Duration := .zero
  metaExpiry : Duration := .zero
  pipePeriod : Duration := .zero
  deriving DecidableEq, Repr

/-- Why an operation on a result store failed. -/
inductive ResultError where
  | notFound (id : String)
  | store (error : StoreError)
  deriving DecidableEq, Repr

/-- The wording of an error, where this library words it. -/
def ResultError.message : ResultError → Option String
  | notFound id => some ("Result not found for job: " ++ id)
  | store error => error.message.map ("Store error: " ++ ·)

/-- A store of job results.  Its supervisor is gone once it is shut down. -/
structure ResultStore where
  engine : Engine
  options : Options
  supervisor : Option Supervisor
  deriving DecidableEq

namespace ResultStore

def positive? (d : Duration) : Option Duration := if d.isZero then none else some d

def startLoops (options : Options) (now : Instant) : Supervisor :=
  .start (positive? options.pipePeriod) (positive? options.metaExpiry)
    (!options.pipePeriod.isZero) now

def start (backend : Backend) (options : Options) (now : Now) (clock : ManualClock) :
    ResultStore where
  engine := ⟨.ofBackend backend, now, clock, .select options.pipePeriod, {}⟩
  options := options
  supervisor := some (startLoops options now.monotonic)

/-! ### Writing -/

/-- Writes a command, and counts it if it was accepted. -/
def submit (s : ResultStore) (c : Command) (counted : Metrics → Metrics) :
    ResultStore × Except ResultError Unit :=
  match s.engine.submit c with
  | (e, .ok _) => ({ s with engine := e.count counted }, .ok ())
  | (e, .error err) => ({ s with engine := e }, .error (.store err))

def ttl? (s : ResultStore) : Option Duration :=
  positive? s.options.expiry

def set (s : ResultStore) (id : String) (payload : Bytes) :
    ResultStore × Except ResultError Unit :=
  s.submit (.set (resultKey id) payload s.ttl?) Metrics.resultWritten

/-- Records the outcome of a job, at the time of the score clock. -/
def record (s : ResultStore) (o : Outcome) (id : String) :
    ResultStore × Except ResultError Unit :=
  s.submit (.rank o.indexKey id s.engine.clock.now) Metrics.outcomeRecorded

/-- The commands that remove all traces of a job. -/
def deletion (id : String) : List Command :=
  [.unrank Outcome.success.indexKey id, .unrank Outcome.failed.indexKey id, .delete (resultKey id)]

def deleteJob (s : ResultStore) (id : String) : ResultStore × Except ResultError Unit :=
  if s.engine.writes.isClosed then (s, .error (.store .closed))
  else
    match s.engine.execute (deletion id) with
    | (e, .ok _) => ({ s with engine := e.count Metrics.jobDeleted }, .ok ())
    | (e, .error err) => ({ s with engine := e }, .error (.store err))

/-! ### Reading -/

def get (s : ResultStore) (id : String) : ResultStore × Except ResultError Bytes :=
  match s.engine.call (.get (resultKey id)) with
  | (e, .ok (.payload (some payload))) => ({ s with engine := e }, .ok payload)
  | (e, .ok _) => ({ s with engine := e }, .error (.notFound id))
  | (e, .error err) => ({ s with engine := e }, .error (.store err))

/-- The jobs with an outcome recorded up to now, the latest first. -/
def list (s : ResultStore) (o : Outcome) : ResultStore × Except ResultError (List String) :=
  match s.engine.call (.range o.indexKey 0 s.engine.clock.now) with
  | (e, .ok (.members ids)) => ({ s with engine := e }, .ok ids)
  | (e, .ok _) => ({ s with engine := e }, .ok [])
  | (e, .error err) => ({ s with engine := e }, .error (.store err))

def healthCheck (s : ResultStore) : ResultStore × Except ResultError Unit :=
  match s.engine.call .ping with
  | (e, .ok _) => ({ s with engine := e }, .ok ())
  | (e, .error err) => ({ s with engine := e }, .error (.store err))

/-! ### Purging and flushing -/

def purgeOlderThan (s : ResultStore) (window : Duration) :
    ResultStore × Except ResultError PurgeReport :=
  let (e, report) := s.engine.purge window
  ({ s with engine := e }, report.mapError .store)

/-- Runs one purge with the configured window, if there is one. -/
def purgeMetadata (s : ResultStore) : ResultStore × Except ResultError (Option PurgeReport) :=
  if s.options.metaExpiry.isZero then (s, .ok none)
  else
    let (s, report) := s.purgeOlderThan s.options.metaExpiry
    (s, report.map some)

/-- Sends the queue now, and counts its commands. -/
def flush (s : ResultStore) : ResultStore × Except ResultError Nat :=
  let (e, sent) := s.engine.sendQueue
  ({ s with engine := e }, sent.mapError .store)

/-- The number of commands that wait in the queue. -/
def pending (s : ResultStore) : Nat := s.engine.writes.pending

def isBatched (s : ResultStore) : Bool := s.engine.writes.pipeline?.isSome

/-! ### Time and the end -/

def sleep (s : ResultStore) (nanos : Nat) : ResultStore :=
  let target := s.engine.now.monotonic + nanos
  match s.supervisor with
  | none => { s with engine := s.engine.moveTo target }
  | some supervisor =>
    let (e, supervisor) := supervisor.sleepUntil s.engine target
    { s with engine := e, supervisor := some supervisor }

/-- Stops the loops, sends the queue, refuses writes from now on and closes the backend.  A second
    time nothing happens. -/
def shutdown (s : ResultStore) : ResultStore × Except ResultError Unit :=
  match s.supervisor with
  | none => (s, .ok ())
  | some supervisor =>
    let e := supervisor.shutdown s.engine
    let e := { e with writes := e.writes.close }
    match e.call .close with
    | (e, .ok _) => ({ s with engine := e, supervisor := none }, .ok ())
    | (e, .error err) => ({ s with engine := e, supervisor := none }, .error (.store err))

/-- What becomes of the backend when the store goes away without a shutdown. -/
def drop (s : ResultStore) : Engine :=
  match s.supervisor with
  | none => s.engine
  | some supervisor => supervisor.drop s.engine

end ResultStore

end JobResults
