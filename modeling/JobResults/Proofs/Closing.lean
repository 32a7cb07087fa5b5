import JobResults.ResultStore
import JobResults.Proofs.Traffic

/-!
  # Shutting down amid traffic

  Callers, the flusher, the purger and the shutdown of a store work on one queue at the same time.
  `Parties` says how far each of them has come, and an event is one step of one of them:

  * a caller submits a command (a result, an outcome, or one removal of a purge), or flushes;
  * the flusher finds a queue at a tick, or is told to stop, and sends it by a call of its own;
  * the purger submits its two removals one after the other, and evicts;
  * the shutdown stops the flusher, stops the purger, closes the queue, looks at its length, and
    sends what is left.

  Between any two steps others may happen, so commands are accepted until the queue is closed.  A
  shutdown that has finished leaves an empty, closed queue (`Settled.run`); with the calls of
  all parties returned, everything that was accepted has been passed to the store once
  (`Traffic.Orderly.record_perm`).  `Supervisor.shutdown`, which nobody interrupts, is one of the runs
  (`Supervisor.shutdown_eq_run`).
-/

namespace JobResults

inductive FlusherStage where
  | waiting
  /-- It is about to send the queue, for the last time if it was told to stop. -/
  | due (last : Bool)
  | sending (place : Nat) (last : Bool)
  | gone
  deriving DecidableEq, Repr

inductive PurgerStage where
  | waiting
  | purging (rest : List Command)
  | gone
  deriving DecidableEq, Repr

inductive ShutdownStage where
  | uncalled
  | stoppingFlusher
  | stoppingPurger
  | stopped
  | closed
  | draining
  | sending (place : Nat)
  | drained
  | finished
  deriving DecidableEq, Repr

namespace ShutdownStage

def stopsFlusher : ShutdownStage → Bool
  | uncalled => false
  | _ => true

def stopsPurger : ShutdownStage → Bool
  | uncalled | stoppingFlusher => false
  | _ => true

def hasClosed : ShutdownStage → Bool
  | closed | draining | sending _ | drained | finished => true
  | _ => false

/-- Whether the queue was seen empty, or taken, after it was closed. -/
def hasEmptied : ShutdownStage → Bool
  | sending _ | drained | finished => true
  | _ => false

end ShutdownStage

/-- The queue of a store with all that work on it. -/
structure Parties where
  traffic : Traffic
  flusher : FlusherStage
  purger : PurgerStage
  shutdown : ShutdownStage
  deriving DecidableEq, Repr

namespace Parties

inductive Event where
  | submit (c : Command)
  | flush
  /-- The call at a place hands over its batch, whoever made it. -/
  | hand (place : Nat)
  | answer (place : Nat)
  | flusherTick
  | flusher
  | purgerTick (cutoff : Score)
  | purger
  | shutdown
  deriving DecidableEq, Repr

/-- The parties of a store with a queue and loops that have just started, or are dead. -/
def start (p : Pipeline) (loops : Supervisor) : Parties where
  traffic := .start p
  flusher := match loops.flusher with
    | .running _ => .waiting
    | _ => .gone
  purger := match loops.purger with
    | .running _ => .waiting
    | _ => .gone
  shutdown := .uncalled

section

variable (answers : Nat → Except StoreError Unit)

def onQueue (w : Parties) (event : Traffic.Event) : Parties :=
  { w with traffic := w.traffic.step answers event }

/-- The flusher goes on.  Told to stop, it sends the queue a last time and is gone. -/
def stepFlusher (w : Parties) : Parties :=
  match w.flusher with
  | .waiting => if w.shutdown.stopsFlusher then { w with flusher := .due true } else w
  | .due last =>
    { w.onQueue answers .take with flusher := .sending w.traffic.sendings.length last }
  | .sending place last =>
    if w.traffic.hasReturned place then { w with flusher := if last then .gone else .waiting }
    else w
  | .gone => w

/-- The purger goes on.  Told to stop, it first ends the purge that it is in. -/
def stepPurger (w : Parties) : Parties :=
  match w.purger with
  | .waiting => if w.shutdown.stopsPurger then { w with purger := .gone } else w
  | .purging (c :: rest) => { w.onQueue answers (.enqueue c) with purger := .purging rest }
  | .purging [] => { w with purger := .waiting }
  | .gone => w

/-- The shutdown goes on.  It waits for each loop that it stops, and for its own call. -/
def stepShutdown (w : Parties) : Parties :=
  match w.shutdown with
  | .uncalled => { w with shutdown := .stoppingFlusher }
  | .stoppingFlusher => if w.flusher = .gone then { w with shutdown := .stoppingPurger } else w
  | .stoppingPurger => if w.purger = .gone then { w with shutdown := .stopped } else w
  | .stopped => { w.onQueue answers .close with shutdown := .closed }
  | .closed =>
    { w with shutdown := if w.traffic.pipeline.length = 0 then .drained else .draining }
  | .draining =>
    { w.onQueue answers .take with shutdown := .sending w.traffic.sendings.length }
  | .sending place =>
    if w.traffic.hasReturned place then { w with shutdown := .drained } else w
  -- the way of writing is closed once more before the backend is
  | .drained => { w.onQueue answers .close with shutdown := .finished }
  | .finished => w

def step (w : Parties) : Event → Parties
  | .submit c => w.onQueue answers (.enqueue c)
  | .flush => w.onQueue answers .take
  | .hand place => w.onQueue answers (.hand place)
  | .answer place => w.onQueue answers (.answer place)
  | .flusherTick =>
    if w.flusher = .waiting ∧ w.shutdown.stopsFlusher = false ∧ w.traffic.pipeline.length ≠ 0 then
      { w with flusher := .due false }
    else w
  | .flusher => w.stepFlusher answers
  | .purgerTick cutoff =>
    if w.purger = .waiting ∧ w.shutdown.stopsPurger = false then
      { w with purger := .purging (removals cutoff) }
    else w
  | .purger => w.stepPurger answers
  | .shutdown => w.stepShutdown answers

def run (w : Parties) (events : List Event) : Parties := events.foldl (step answers) w

end

variable {answers : Nat → Except StoreError Unit} {w : Parties}

/-! ### Every run is a run of the queue -/

theorem stepFlusher_traffic (answers : Nat → Except StoreError Unit) (w : Parties) :
    ∃ events, (w.stepFlusher answers).traffic = w.traffic.run answers events := by
  simp only [stepFlusher]
  split
  · split <;> exact ⟨[], rfl⟩
  · exact ⟨[.take], rfl⟩
  · split <;> exact ⟨[], rfl⟩
  · exact ⟨[], rfl⟩

theorem stepPurger_traffic (answers : Nat → Except StoreError Unit) (w : Parties) :
    ∃ events, (w.stepPurger answers).traffic = w.traffic.run answers events := by
  simp only [stepPurger]
  split
  · split <;> exact ⟨[], rfl⟩
  · next c rest _ => exact ⟨[.enqueue c], rfl⟩
  · exact ⟨[], rfl⟩
  · exact ⟨[], rfl⟩

theorem stepShutdown_traffic (answers : Nat → Except StoreError Unit) (w : Parties) :
    ∃ events, (w.stepShutdown answers).traffic = w.traffic.run answers events := by
  simp only [stepShutdown]
  split
  · exact ⟨[], rfl⟩
  · split <;> exact ⟨[], rfl⟩
  · split <;> exact ⟨[], rfl⟩
  · exact ⟨[.close], rfl⟩
  · exact ⟨[], rfl⟩
  · exact ⟨[.take], rfl⟩
  · split <;> exact ⟨[], rfl⟩
  · exact ⟨[.close], rfl⟩
  · exact ⟨[], rfl⟩

theorem step_traffic (answers : Nat → Except StoreError Unit) (w : Parties) (event : Event) :
    ∃ events, (w.step answers event).traffic = w.traffic.run answers events := by
  cases event with
  | submit c => exact ⟨[.enqueue c], rfl⟩
  | flush => exact ⟨[.take], rfl⟩
  | hand place => exact ⟨[.hand place], rfl⟩
  | answer place => exact ⟨[.answer place], rfl⟩
  | flusherTick =>
    simp only [step]
    split <;> exact ⟨[], rfl⟩
  | flusher => exact stepFlusher_traffic answers w
  | purgerTick cutoff =>
    simp only [step]
    split <;> exact ⟨[], rfl⟩
  | purger => exact stepPurger_traffic answers w
  | shutdown => exact stepShutdown_traffic answers w

theorem run_traffic (answers : Nat → Except StoreError Unit) (w : Parties) (events : List Event) :
    ∃ events', (w.run answers events).traffic = w.traffic.run answers events' := by
  induction events generalizing w with
  | nil => exact ⟨[], rfl⟩
  | cons event events ih =>
    obtain ⟨first, hfirst⟩ := step_traffic answers w event
    obtain ⟨rest, hrest⟩ := ih (w.step answers event)
    refine ⟨first ++ rest, ?_⟩
    rw [Traffic.run, List.foldl_append]
    rw [hfirst] at hrest
    exact hrest

/-! ### A shutdown leaves nothing behind -/

theorem step_shutdown (answers : Nat → Except StoreError Unit) (w : Parties) {event : Event}
    (h : event ≠ .shutdown) : (w.step answers event).shutdown = w.shutdown := by
  cases event with
  | submit c => rfl
  | flush => rfl
  | hand place => rfl
  | answer place => rfl
  | flusherTick =>
    simp only [step]
    split <;> rfl
  | flusher =>
    simp only [step, stepFlusher]
    split
    · split <;> rfl
    · rfl
    · split <;> rfl
    · rfl
  | purgerTick cutoff =>
    simp only [step]
    split <;> rfl
  | purger =>
    simp only [step, stepPurger]
    split
    · split <;> rfl
    · rfl
    · rfl
    · rfl
  | shutdown => exact absurd rfl h

/-- From the close on the queue is closed, and from the last look at it on it is empty. -/
structure Settled (w : Parties) : Prop where
  closed : w.shutdown.hasClosed = true → w.traffic.pipeline.closed = true
  emptied : w.shutdown.hasEmptied = true → w.traffic.pipeline.queue = []

theorem settled_start (p : Pipeline) (loops : Supervisor) : (start p loops).Settled := by
  constructor <;> intro h <;> cases h

theorem hasClosed_of_hasEmptied {stage : ShutdownStage} (h : stage.hasEmptied = true) :
    stage.hasClosed = true := by
  cases stage <;> trivial

/-- What others do to a queue that is closed, or closed and empty, leaves it so. -/
theorem Settled.of_traffic (h : w.Settled) {w' : Parties} (hshutdown : w'.shutdown = w.shutdown)
    (htraffic : ∃ events, w'.traffic = w.traffic.run answers events) : w'.Settled := by
  obtain ⟨events, htraffic⟩ := htraffic
  constructor
  · intro hclosed
    rw [hshutdown] at hclosed
    rw [htraffic]
    exact (Traffic.run_closed answers (h.closed hclosed) events).1
  · intro hemptied
    rw [hshutdown] at hemptied
    have hclosed := h.closed (hasClosed_of_hasEmptied hemptied)
    rw [htraffic]
    exact (Traffic.run_closed answers hclosed events).2.2 (h.emptied hemptied)

theorem Settled.stepShutdown (h : w.Settled) : (w.stepShutdown answers).Settled := by
  obtain ⟨traffic, flusher, purger, shutdown⟩ := w
  have hclosed := h.closed
  have hemptied := h.emptied
  cases shutdown with
  | uncalled => exact ⟨nofun, nofun⟩
  | stoppingFlusher =>
    simp only [Parties.stepShutdown]
    split
    · exact ⟨nofun, nofun⟩
    · exact h
  | stoppingPurger =>
    simp only [Parties.stepShutdown]
    split
    · exact ⟨nofun, nofun⟩
    · exact h
  | stopped => exact ⟨fun _ => rfl, nofun⟩
  | closed =>
    simp only [Parties.stepShutdown]
    split
    · next hlength => exact ⟨fun _ => hclosed rfl, fun _ => List.eq_nil_of_length_eq_zero hlength⟩
    · exact ⟨fun _ => hclosed rfl, nofun⟩
  | draining => exact ⟨fun _ => hclosed rfl, fun _ => rfl⟩
  | sending place =>
    simp only [Parties.stepShutdown]
    split
    · exact ⟨fun _ => hclosed rfl, fun _ => hemptied rfl⟩
    · exact h
  | drained => exact ⟨fun _ => rfl, fun _ => hemptied rfl⟩
  | finished => exact h

theorem Settled.step (h : w.Settled) (event : Event) : (w.step answers event).Settled := by
  by_cases hevent : event = .shutdown
  · rw [hevent]
    exact h.stepShutdown
  · exact h.of_traffic (step_shutdown answers w hevent) (step_traffic answers w event)

theorem Settled.run (h : w.Settled) (events : List Event) : (w.run answers events).Settled := by
  induction events generalizing w with
  | nil => exact h
  | cons event events ih => exact ih (h.step event)

/-- When the shutdown has finished and every call has returned, the queue is empty and closed, and
    what was passed to the store are the batches that were taken, each of them once.  In the order
    in which they were taken they are the commands that were accepted. -/
theorem shutdown_passes_all (answers : Nat → Except StoreError Unit) (p : Pipeline)
    (loops : Supervisor) (events : List Event) :
    let w := (start p loops).run answers events
    w.shutdown = .finished →
      (∀ place < w.traffic.sendings.length, w.traffic.hasReturned place = true) →
        w.traffic.pipeline = ⟨[], true⟩ ∧
          w.traffic.record.Perm w.traffic.batches ∧
          (w.traffic.batches.map (·.2)).flatten = w.traffic.accepted := by
  intro w hfinished hreturned
  have hsettled : w.Settled := (settled_start p loops).run events
  have hclosed : w.traffic.pipeline.closed = true := hsettled.closed (by rw [hfinished]; rfl)
  have hempty : w.traffic.pipeline.queue = [] := hsettled.emptied (by rw [hfinished]; rfl)
  obtain ⟨events', htraffic⟩ := run_traffic answers (start p loops) events
  have horderly : w.traffic.Orderly answers := by
    rw [htraffic]
    exact (Traffic.orderly_start p).run events'
  refine ⟨?_, ?_, ?_⟩
  · rw [← hclosed, ← hempty]
  · exact horderly.record_perm hreturned
  · rw [Traffic.flatten_batches, ← horderly.conserved, hempty, List.append_nil]

/-- The flusher is dead from the start and the queue is flushed by a caller, whose call outlasts the
    close.  A command comes between the last look of the loops and the close, one comes too late,
    and the drain fails. -/
theorem shutdown_passes_all_late_writer :
    let window : Duration := ⟨7, by decide⟩
    let loops : Supervisor := ⟨.dead, .running ⟨7, 7⟩, window, true⟩
    let answers := fun place => if place = 1 then .error .remote else .ok ()
    let events : List Event :=
      [.submit (.delete "a"), .flush, .purgerTick 5, .shutdown, .purger, .shutdown, .shutdown,
        .purger, .purger, .purger, .shutdown, .submit (.delete "b"), .shutdown,
        .submit (.delete "c"), .shutdown, .shutdown, .hand 1, .hand 0, .answer 1, .answer 0,
        .shutdown, .shutdown]
    let w := (start .empty loops).run answers events
    ResultStore.startLoops ⟨.zero, window, .max⟩ 0 = loops ∧
      w.shutdown = .finished ∧ w.traffic.pipeline = ⟨[], true⟩ ∧
      w.traffic.record.Perm w.traffic.batches ∧
      (w.traffic.batches.map (·.2)).flatten
        = [.delete "a"] ++ removals 5 ++ [.delete "b"] := by
  intro window loops answers events
  have hfinished : ((start .empty loops).run answers events).shutdown = .finished := by decide
  have hreturned : ∀ place < ((start .empty loops).run answers events).traffic.sendings.length,
      ((start .empty loops).run answers events).traffic.hasReturned place = true := by decide
  have haccepted : ((start .empty loops).run answers events).traffic.accepted
      = [.delete "a"] ++ removals 5 ++ [.delete "b"] := by decide
  have hpassed := shutdown_passes_all answers .empty loops events hfinished hreturned
  exact ⟨by decide, hfinished, hpassed.1, hpassed.2.1, hpassed.2.2.trans haccepted⟩

end Parties

/-! ### A shutdown that nobody disturbs -/

namespace Parties

/-- The steps of a shutdown amid parties that rest, with or without a flusher to stop. -/
def quietly (flusher : FlusherStage) : List Event :=
  if flusher = .gone then
    [.shutdown, .shutdown, .purger, .shutdown, .shutdown, .shutdown, .shutdown, .hand 0, .answer 0,
      .shutdown, .shutdown]
  else
    [.shutdown, .flusher, .flusher, .hand 0, .answer 0, .flusher, .shutdown, .purger, .shutdown,
      .shutdown, .shutdown, .shutdown]

theorem run_quietly (answers : Nat → Except StoreError Unit) (p : Pipeline)
    {flusher : FlusherStage} (hflusher : flusher = .gone ∨ flusher = .waiting)
    {purger : PurgerStage} (hpurger : purger = .gone ∨ purger = .waiting) :
    let w := run answers ⟨.start p, flusher, purger, .uncalled⟩ (quietly flusher)
    w.shutdown = .finished ∧
      (∀ place < w.traffic.sendings.length, w.traffic.hasReturned place = true) ∧
      w.traffic.pipeline = ⟨[], true⟩ ∧
      w.traffic.record.map (·.2) = if p.queue = [] then [] else [p.queue] := by
  obtain ⟨queue, closed⟩ := p
  rcases hflusher with rfl | rfl <;> rcases hpurger with rfl | rfl <;> cases queue <;>
    simp [run, quietly, step, stepShutdown, stepFlusher, stepPurger, ShutdownStage.stopsFlusher,
      ShutdownStage.stopsPurger, onQueue, Traffic.start, Traffic.step, Traffic.hasReturned,
      Pipeline.close, Pipeline.length, Pipeline.take, Sending.ofBatch]

end Parties

namespace Supervisor

variable {e : Engine} {p : Pipeline}

theorem closeQueue_of_empty (h : e.writes = .batched p) (hqueue : p.queue = []) :
    closeQueue e = { e with writes := .batched p.close } := by
  have hpending : p.close.length = 0 := by
    rw [Pipeline.length, Pipeline.close, hqueue]
    rfl
  simp only [closeQueue, h, WritePath.close, WritePath.pending, hpending, if_true]

theorem closeQueue_of_queue (h : e.writes = .batched p) (hqueue : p.queue ≠ []) :
    (closeQueue e).writes = .batched ⟨[], true⟩ ∧
      (closeQueue e).gate.record = e.gate.record ++ [p.queue] := by
  have hpending : p.close.length ≠ 0 := fun hzero => hqueue (List.eq_nil_of_length_eq_zero hzero)
  simp only [closeQueue, h, WritePath.close, WritePath.pending, if_neg hpending]
  have hclosed : ({ e with writes := .batched p.close } : Engine).writes = .batched p.close := rfl
  rw [Engine.sendQueue_of_queue hclosed hqueue]
  exact ⟨rfl, Engine.execute_record _ _⟩

theorem stopFlusher_running (h : e.writes = .batched p) {loops : Supervisor} {ticker : Ticker}
    (hflusher : loops.flusher = .running ticker) :
    (stopFlusher e loops).writes = .batched { p with queue := [] } ∧
      (stopFlusher e loops).gate.record
        = e.gate.record ++ if p.queue = [] then [] else [p.queue] := by
  obtain ⟨metrics, hflush⟩ := Engine.flush_eq e
  simp only [stopFlusher, hflusher, hflush]
  by_cases hqueue : p.queue = []
  · have hsame : { p with queue := [] } = p := by rw [← hqueue]
    have hwaiting : e.writes.waiting = [] := by
      rw [h]
      exact hqueue
    rw [Engine.sendQueue_of_empty hwaiting, if_pos hqueue, List.append_nil, hsame]
    exact ⟨h, rfl⟩
  · rw [Engine.sendQueue_of_queue h hqueue, if_neg hqueue]
    exact ⟨rfl, Engine.execute_record e p.queue⟩

theorem shutdown_writes (h : e.writes = .batched p) {loops : Supervisor}
    (hcloses : loops.closesQueue = true) :
    (shutdown e loops).writes = .batched ⟨[], true⟩ ∧
      (shutdown e loops).gate.record
        = e.gate.record ++ if p.queue = [] then [] else [p.queue] := by
  have hclose : (closeQueue e).writes = .batched ⟨[], true⟩ ∧
      (closeQueue e).gate.record = e.gate.record ++ if p.queue = [] then [] else [p.queue] := by
    by_cases hqueue : p.queue = []
    · rw [closeQueue_of_empty h hqueue, if_pos hqueue, List.append_nil, ← hqueue]
      exact ⟨rfl, rfl⟩
    · rw [if_neg hqueue]
      exact closeQueue_of_queue h hqueue
  rw [shutdown, if_pos hcloses]
  cases hflusher : loops.flusher with
  | absent =>
    rw [stopFlusher, hflusher]
    exact hclose
  | dead =>
    rw [stopFlusher, hflusher]
    exact hclose
  | running ticker =>
    obtain ⟨hwrites, hrecord⟩ := stopFlusher_running h hflusher
    rw [closeQueue_of_empty hwrites rfl]
    exact ⟨rfl, hrecord⟩

/-- The shutdown of a store whose callers rest is one of the runs. -/
theorem shutdown_eq_run (h : e.writes = .batched p) {loops : Supervisor}
    (hcloses : loops.closesQueue = true) (answers : Nat → Except StoreError Unit) :
    ∃ events,
      let w := (Parties.start p loops).run answers events
      w.shutdown = .finished ∧
        (∀ place < w.traffic.sendings.length, w.traffic.hasReturned place = true) ∧
        (shutdown e loops).writes = .batched w.traffic.pipeline ∧
        (shutdown e loops).gate.record = e.gate.record ++ w.traffic.record.map (·.2) := by
  have hflusher : (Parties.start p loops).flusher = .gone ∨
      (Parties.start p loops).flusher = .waiting := by
    cases hloop : loops.flusher <;> simp [Parties.start, hloop]
  have hpurger : (Parties.start p loops).purger = .gone ∨
      (Parties.start p loops).purger = .waiting := by
    cases hloop : loops.purger <;> simp [Parties.start, hloop]
  obtain ⟨hfinished, hreturned, hpipeline, hrecord⟩ :=
    Parties.run_quietly answers p hflusher hpurger
  obtain ⟨hwrites, hrecord'⟩ := shutdown_writes h hcloses
  refine ⟨Parties.quietly (Parties.start p loops).flusher, hfinished, hreturned, ?_, ?_⟩
  · rw [hwrites, ← hpipeline]
    rfl
  · rw [hrecord', ← hrecord]
    rfl

end Supervisor

end JobResults
