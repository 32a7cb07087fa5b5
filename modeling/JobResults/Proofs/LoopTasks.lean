import JobResults.Proofs.DirectStore
import JobResults.Proofs.Staleness

/-!
  # Loops as tasks

  The flusher and the purger of a store are tasks that go on when they are polled.  Between two of
  their steps anything else may happen: time passes, callers call, the other loop goes on.  `Tasks`
  says how far both have come, and an event is one step of one of them, or a call:

  * a loop that was never polled starts its ticker, and is dead if the clock cannot count its first
    deadline;
  * a loop at rest looks first whether it was cancelled, and then whether a tick is due;
  * the flusher takes the queue and passes the batch to the backend, for the last time if it was
    cancelled;
  * the purger submits its removals one after the other, and then evicts, before it looks again.

  A store that goes away cancels both loops.  From then on nobody calls, since every call borrows the
  store: so calls are single events here, and none of them is under way when the store goes away.

  A tick that nobody disturbs is a tick of the supervisor (`Tasks.run_flusherTick`,
  `Tasks.run_purgerTick`), and a drop that nobody disturbs is the drop of the store
  (`Tasks.run_drop`).  So whatever a store undergoes before it goes away is a run of its tasks, at
  whose end both loops rest (`Tasks.exists_run_start`).
-/

namespace JobResults

/-! ### Flushes and purges in steps -/

namespace Engine

/-- Takes the queue as a batch. -/
def takeQueue (e : Engine) : List Command × Engine :=
  match e.writes with
  | .direct _ => ([], e)
  | .batched p => (p.take.1, { e with writes := .batched p.take.2 })

/-- Passes a batch on behalf of the flusher, and counts what became of it. -/
def passBatch (e : Engine) (batch : List Command) : Engine :=
  match e.execute batch with
  | (e, .ok _) => { e with metrics := e.metrics.batchFlushed batch.length }
  | (e, .error _) => { e with metrics := e.metrics.flushFailed }

theorem flush_of_empty {e : Engine} (h : e.takeQueue.1 = []) : e.flush = e.takeQueue.2 := by
  obtain ⟨gate, now, clock, writes, metrics⟩ := e
  cases writes with
  | direct closed => rfl
  | batched p =>
    have hqueue : p.queue = [] := h
    simp [flush, sendQueue, takeQueue, Pipeline.take, hqueue]

theorem flush_of_queue {e : Engine} (h : e.takeQueue.1 ≠ []) :
    e.flush = e.takeQueue.2.passBatch e.takeQueue.1 := by
  obtain ⟨gate, now, clock, writes, metrics⟩ := e
  cases writes with
  | direct closed => exact absurd rfl h
  | batched p =>
    obtain ⟨c, rest, hqueue⟩ := List.exists_cons_of_ne_nil (show p.queue ≠ [] from h)
    simp only [flush, sendQueue, takeQueue, Pipeline.take, passBatch, hqueue, List.isEmpty_cons,
      Bool.false_eq_true, if_false]
    generalize Engine.execute _ (c :: rest) = result
    obtain ⟨e, reply⟩ := result
    cases reply with
    | ok a => rfl
    | error err => rfl

/-- The end of a purge: eviction, unless a removal failed. -/
def endPurge (e : Engine) (failed : Bool) : Engine :=
  if failed then e.count Metrics.purgeFailed
  else
    match e.evict with
    | (e, .ok _) => e.count Metrics.purgeCompleted
    | (e, .error _) => e.count Metrics.purgeFailed

theorem purge_eq (e : Engine) (window : Duration) :
    let failed := e.trim .failed (e.cutoff window)
    let success := failed.1.trim .success (e.cutoff window)
    (e.purge window).1 = success.1.endPurge (!failed.2.isOk || !success.2.isOk) := by
  simp only [purge]
  cases (e.trim .failed (e.cutoff window)).2 with
  | error err => rfl
  | ok a =>
    cases ((e.trim .failed (e.cutoff window)).1.trim .success (e.cutoff window)).2 with
    | error err => rfl
    | ok a =>
      simp only [endPurge, Except.isOk, Except.toBool]
      generalize Engine.evict _ = result
      obtain ⟨e, reply⟩ := result
      cases reply with
      | ok n => rfl
      | error err => rfl

end Engine

/-! ### Tasks -/

/-- How far a loop has come.  It is at rest, or at work, or it is no more. -/
inductive LoopTask (Work : Type) where
  | unpolled
  | waiting (ticker : Ticker)
  | working (ticker : Ticker) (work : Work)
  | gone
  | dead
  deriving DecidableEq, Repr

/-- What the flusher is about to do, and whether for the last time. -/
inductive Flushing where
  | taking (last : Bool)
  | passing (batch : List Command) (last : Bool)
  deriving DecidableEq, Repr

/-- The removals that the purger has not submitted yet, and whether one has failed. -/
structure Purging where
  rest : List Command
  failed : Bool
  deriving DecidableEq, Repr

namespace LoopTask

/-- The first poll of a loop. -/
def first {Work : Type} (now : Instant) (period : Duration) : LoopTask Work :=
  match Ticker.start? now period with
  | some ticker => waiting ticker
  | none => dead

/-- The flusher after a batch. -/
def afterBatch (ticker : Ticker) (last : Bool) : LoopTask Flushing :=
  if last then gone else waiting ticker

/-- A loop of a supervisor at rest. -/
def ofLoop {Work : Type} : Loop → LoopTask Work
  | .absent => gone
  | .dead => dead
  | .running ticker => waiting ticker

end LoopTask

/-- An engine with its loops. -/
structure Tasks where
  engine : Engine
  options : Options
  flusher : LoopTask Flushing
  purger : LoopTask Purging
  cancelled : Bool
  /-- The ticks that have begun, in order. -/
  ticks : List Supervisor.Tick
  deriving DecidableEq

namespace Tasks

inductive Event where
  /-- A call of a caller, or something that happens to clocks and backend. -/
  | call (x : Happening)
  | flusher
  | purger
  | drop
  deriving DecidableEq, Repr

/-- The tasks of a store that has just been made.  Nothing has been polled. -/
def start (backend : Backend) (options : Options) (now : Now) (clock : ManualClock) : Tasks where
  engine := (ResultStore.start backend options now clock).engine
  options := options
  flusher := if options.pipePeriod.isZero then .gone else .unpolled
  purger := if options.metaExpiry.isZero then .gone else .unpolled
  cancelled := false
  ticks := []

/-- The tasks of a store whose loops rest, after some ticks. -/
def atRest (e : Engine) (options : Options) (loops : Supervisor)
    (ticks : List Supervisor.Tick) : Tasks where
  engine := e
  options := options
  flusher := .ofLoop loops.flusher
  purger := .ofLoop loops.purger
  cancelled := false
  ticks := ticks

def now (w : Tasks) : Instant := w.engine.now.monotonic

/-- Callers call as long as the store is there, and time does not go back.  Ticks are no calls. -/
def permits (w : Tasks) : Happening → Bool
  | .flusherTick => false
  | .moveTo instant => w.now ≤ instant
  | .setClock _ | .refuse _ => true
  | _ => !w.cancelled

def stepFlusher (w : Tasks) : Tasks :=
  match w.flusher with
  | .unpolled => { w with flusher := .first w.now w.options.pipePeriod }
  | .waiting ticker =>
    if w.cancelled then { w with flusher := .working ticker (.taking true) }
    else if ticker.due ≤ w.now then
      { w with
        ticks := w.ticks ++ [.flusher w.now]
        -- an empty queue is left alone
        flusher := if w.engine.writes.pending = 0 then .waiting (ticker.next w.now)
          else .working (ticker.next w.now) (.taking false) }
    else w
  | .working ticker (.taking last) =>
    let (batch, e) := w.engine.takeQueue
    { w with
      engine := e
      flusher := if batch = [] then .afterBatch ticker last
        else .working ticker (.passing batch last) }
  | .working ticker (.passing batch last) =>
    { w with engine := w.engine.passBatch batch, flusher := .afterBatch ticker last }
  | .gone | .dead => w

def stepPurger (w : Tasks) : Tasks :=
  match w.purger with
  | .unpolled => { w with purger := .first w.now w.options.metaExpiry }
  | .waiting ticker =>
    if w.cancelled then { w with purger := .gone }
    else if ticker.due ≤ w.now then
      let cutoff := w.engine.cutoff w.options.metaExpiry
      { w with
        ticks := w.ticks ++ [.purger w.now]
        purger := .working (ticker.next w.now) ⟨removals cutoff, false⟩ }
    else w
  | .working ticker ⟨c :: rest, failed⟩ =>
    let (e, reply) := w.engine.submit c
    { w with engine := e, purger := .working ticker ⟨rest, failed || !reply.isOk⟩ }
  | .working ticker ⟨[], failed⟩ =>
    { w with engine := w.engine.endPurge failed, purger := .waiting ticker }
  | .gone | .dead => w

/-- One step.  What cannot happen leaves everything as it is. -/
def step (w : Tasks) : Event → Tasks
  | .call x => if w.permits x then { w with engine := w.engine.after x } else w
  | .flusher => w.stepFlusher
  | .purger => w.stepPurger
  | .drop => { w with cancelled := true }

def run (w : Tasks) (events : List Event) : Tasks := events.foldl step w

@[simp] theorem run_nil (w : Tasks) : w.run [] = w := rfl

@[simp] theorem run_cons (w : Tasks) (event : Event) (events : List Event) :
    w.run (event :: events) = (w.step event).run events := rfl

/-! ### Loops that nobody disturbs -/

variable {e : Engine} {options : Options} {loops : Supervisor} {ticker : Ticker}

/-- Where loops are polled at once, the store is at rest. -/
theorem run_start (backend : Backend) (options : Options) (now : Now) (clock : ManualClock) :
    (start backend options now clock).run [.flusher, .purger] =
      atRest (ResultStore.start backend options now clock).engine options
        (ResultStore.startLoops options now.monotonic) [] := by
  have hfirst : ∀ {Work : Type} (period : Duration),
      (LoopTask.first now.monotonic period : LoopTask Work) =
        .ofLoop (Loop.start now.monotonic period) := by
    intro Work period
    unfold LoopTask.first Loop.start
    cases Ticker.start? now.monotonic period with
    | none => rfl
    | some ticker => rfl
  cases hflusher : options.pipePeriod.isZero <;> cases hpurger : options.metaExpiry.isZero <;>
    simp [start, atRest, step, stepFlusher, stepPurger, hflusher, hpurger, Tasks.now,
      ResultStore.start, ResultStore.startLoops, Supervisor.start, ResultStore.positive?, hfirst,
      LoopTask.ofLoop]

theorem takeQueue_of_pending (h : e.writes.pending ≠ 0) : e.takeQueue.1 ≠ [] := by
  intro hnone
  cases hwrites : e.writes with
  | direct closed => simp [hwrites, WritePath.pending] at h
  | batched p =>
    simp only [Engine.takeQueue, hwrites, Pipeline.take] at hnone
    simp [hwrites, WritePath.pending, Pipeline.length, hnone] at h

/-- A tick of the flusher is a run of its task. -/
theorem run_flusherTick (hflusher : loops.flusher = .running ticker) {instant : Instant}
    (hdue : ticker.due ≤ max e.now.monotonic instant) (options : Options)
    (ticks : List Supervisor.Tick) :
    ∃ polls,
      (atRest e options loops ticks).run
          (.call (.moveTo (max e.now.monotonic instant)) :: List.replicate polls .flusher) =
        atRest (Supervisor.runTick e loops (.flusher instant)).1 options
          (Supervisor.runTick e loops (.flusher instant)).2
          (ticks ++ [.flusher (max e.now.monotonic instant)]) := by
  by_cases hpending : e.writes.pending = 0
  · refine ⟨1, ?_⟩
    simp [atRest, step, permits, stepFlusher, Tasks.now, Supervisor.runTick, Engine.flusherTick,
      Engine.after, Engine.moveTo, LoopTask.ofLoop, Loop.next, hflusher, hdue, hpending]
  · refine ⟨3, ?_⟩
    have hqueue : (e.moveTo (max e.now.monotonic instant)).takeQueue.1 ≠ [] :=
      takeQueue_of_pending hpending
    have hflush := Engine.flush_of_queue hqueue
    simp only [Engine.moveTo] at hqueue hflush
    simp [atRest, step, permits, stepFlusher, Tasks.now, Supervisor.runTick, Engine.flusherTick,
      Engine.after, Engine.moveTo, LoopTask.ofLoop, LoopTask.afterBatch, Loop.next, hflusher,
      hdue, hqueue, hflush, hpending, List.replicate]

/-- A tick of the purger is a run of its task. -/
theorem run_purgerTick (hpurger : loops.purger = .running ticker) {instant : Instant}
    (hdue : ticker.due ≤ max e.now.monotonic instant) (hwindow : loops.window = options.metaExpiry)
    (ticks : List Supervisor.Tick) :
    (atRest e options loops ticks).run
        (.call (.moveTo (max e.now.monotonic instant)) :: List.replicate 4 .purger) =
      atRest (Supervisor.runTick e loops (.purger instant)).1 options
        (Supervisor.runTick e loops (.purger instant)).2
        (ticks ++ [.purger (max e.now.monotonic instant)]) := by
  have hpurge := (e.moveTo (max e.now.monotonic instant)).purge_eq options.metaExpiry
  simp only [Engine.moveTo, Engine.trim] at hpurge
  simp [atRest, step, permits, stepPurger, Tasks.now, Supervisor.runTick, Engine.purgerTick,
    Engine.after, Engine.moveTo, LoopTask.ofLoop, Loop.next, removals, hpurger, hdue, hwindow,
    hpurge, List.replicate]

/-- The drop of a store is a run of its tasks. -/
theorem run_drop (e : Engine) (options : Options) (loops : Supervisor)
    (ticks : List Supervisor.Tick) :
    ((atRest e options loops ticks).run [.drop, .flusher, .flusher, .flusher]).engine =
      loops.drop e := by
  cases hflusher : loops.flusher with
  | absent => simp [atRest, step, stepFlusher, LoopTask.ofLoop, Supervisor.drop,
      Supervisor.stopFlusher, hflusher]
  | dead => simp [atRest, step, stepFlusher, LoopTask.ofLoop, Supervisor.drop,
      Supervisor.stopFlusher, hflusher]
  | running ticker =>
    by_cases hqueue : e.takeQueue.1 = []
    · simp [atRest, step, stepFlusher, LoopTask.ofLoop, LoopTask.afterBatch, Supervisor.drop,
        Supervisor.stopFlusher, hflusher, hqueue, Engine.flush_of_empty hqueue]
    · simp [atRest, step, stepFlusher, LoopTask.ofLoop, LoopTask.afterBatch, Supervisor.drop,
        Supervisor.stopFlusher, hflusher, hqueue, Engine.flush_of_queue hqueue]

/-! ### Runs of a store -/

theorem run_append (w : Tasks) (events events' : List Event) :
    w.run (events ++ events') = (w.run events).run events' :=
  List.foldl_append

theorem drop_not_mem_polls {poll : Event} (h : .drop ≠ poll) (x : Happening) (count : Nat) :
    .drop ∉ .call x :: List.replicate count poll := by
  rw [List.mem_cons, not_or]
  exact ⟨nofun, fun hmem => h (List.eq_of_mem_replicate hmem)⟩

section Sleeping

variable {queue : List Command} {target : Instant}

theorem exists_run_tick (hqueues : e.Queues queue) (hwindow : loops.window = options.metaExpiry)
    (hnow : e.now.monotonic ≤ target) {tick : Supervisor.Tick}
    (hnext : loops.nextTick? target = some tick) (ticks : List Supervisor.Tick) :
    ∃ events ticks', .drop ∉ events ∧
      (atRest e options loops ticks).run events =
        atRest (Supervisor.runTick e loops tick).1 options (Supervisor.runTick e loops tick).2
          ticks' ∧
      (Supervisor.runTick e loops tick).1.now.monotonic ≤ target := by
  cases tick with
  | flusher instant =>
    obtain ⟨ticker, hflusher, hdue, htarget⟩ :=
      Loop.due?_eq_some (Supervisor.nextTick?_eq_flusher hnext).1
    have hreached : ticker.due ≤ max e.now.monotonic instant :=
      hdue.symm ▸ Nat.le_max_right e.now.monotonic instant
    obtain ⟨polls, hrun⟩ := run_flusherTick hflusher hreached options ticks
    refine ⟨_, _, ?_, hrun, ?_⟩
    · exact drop_not_mem_polls (by simp) _ polls
    · have hmove : (e.moveTo (max e.now.monotonic instant)).Queues queue := hqueues
      have hsame := hmove.after_now (x := .flusherTick) nofun
      exact Nat.le_trans (Nat.le_of_eq (congrArg Now.monotonic hsame))
        (Nat.max_le.mpr ⟨hnow, htarget⟩)
  | purger instant =>
    obtain ⟨ticker, hpurger, hdue, htarget⟩ :=
      Loop.due?_eq_some (Supervisor.nextTick?_eq_purger hnext).1
    have hreached : ticker.due ≤ max e.now.monotonic instant :=
      hdue.symm ▸ Nat.le_max_right e.now.monotonic instant
    have hrun := run_purgerTick hpurger hreached hwindow ticks
    refine ⟨_, _, ?_, hrun, ?_⟩
    · exact drop_not_mem_polls (by simp) _ 4
    · have hmove : (e.moveTo (max e.now.monotonic instant)).Queues queue := hqueues
      have hsame := hmove.after_now (x := .purge loops.window) nofun
      exact Nat.le_trans (Nat.le_of_eq (congrArg Now.monotonic hsame))
        (Nat.max_le.mpr ⟨hnow, htarget⟩)

theorem exists_run_ticks (hqueues : e.Queues queue) (hwindow : loops.window = options.metaExpiry)
    (hnow : e.now.monotonic ≤ target) (count : Nat) (ticks : List Supervisor.Tick) :
    ∃ events ticks', .drop ∉ events ∧
      (atRest e options loops ticks).run events =
        atRest (Supervisor.runTicks target count e loops).1 options
          (Supervisor.runTicks target count e loops).2 ticks' ∧
      (Supervisor.runTicks target count e loops).1.now.monotonic ≤ target ∧
      (Supervisor.runTicks target count e loops).2.window = options.metaExpiry := by
  induction count generalizing e loops queue ticks with
  | zero => exact ⟨[], ticks, List.not_mem_nil, rfl, hnow, hwindow⟩
  | succ count ih =>
    rw [Supervisor.runTicks]
    cases hnext : loops.nextTick? target with
    | none => exact ⟨[], ticks, List.not_mem_nil, rfl, hnow, hwindow⟩
    | some tick =>
      obtain ⟨events, ticks', hdrop, hrun, hnow'⟩ :=
        exists_run_tick hqueues hwindow hnow hnext ticks
      obtain ⟨queue', hqueues', -⟩ :=
        hqueues.afterAll (tick.happenings e.now.monotonic loops.window)
      rw [← Supervisor.runTick_engine] at hqueues'
      have hwindow' : (Supervisor.runTick e loops tick).2.window = options.metaExpiry := by
        rw [← hwindow]
        cases tick <;> rfl
      obtain ⟨events', ticks'', hdrop', hrun', hnow''⟩ := ih hqueues' hwindow' hnow' ticks'
      refine ⟨events ++ events', ticks'', ?_, ?_, hnow''⟩
      · simp [hdrop, hdrop']
      · rw [run_append, hrun, hrun']

/-- Time that passes is a run of the tasks. -/
theorem exists_run_sleepUntil (hqueues : e.Queues queue) (hwindow : loops.window = options.metaExpiry)
    (hnow : e.now.monotonic ≤ target) (ticks : List Supervisor.Tick) :
    ∃ events ticks', .drop ∉ events ∧
      (atRest e options loops ticks).run events =
        atRest (loops.sleepUntil e target).1 options (loops.sleepUntil e target).2 ticks' ∧
      (loops.sleepUntil e target).2.window = options.metaExpiry := by
  obtain ⟨events, ticks', hdrop, hrun, hnow', hwindow'⟩ := exists_run_ticks hqueues hwindow hnow
    (loops.flusher.ticksUntil target + loops.purger.ticksUntil target) ticks
  refine ⟨events ++ [.call (.moveTo target)], ticks', by simp [hdrop], ?_, hwindow'⟩
  rw [run_append, hrun]
  simp [step, permits, Tasks.now, atRest, Supervisor.sleepUntil, Engine.after, hnow']

end Sleeping

/-- Calls go through as long as the store is there. -/
theorem run_calls {w : Tasks} (hopen : w.cancelled = false) {log : List Happening}
    (hlog : ∀ x ∈ log, x ≠ .flusherTick ∧ ∀ i, x ≠ .moveTo i) :
    w.run (log.map .call) = { w with engine := w.engine.afterAll log } := by
  induction log generalizing w with
  | nil => rfl
  | cons x log ih =>
    rw [List.forall_mem_cons] at hlog
    have hpermits : w.permits x = true := by
      cases x with
      | flusherTick => exact absurd rfl hlog.1.1
      | moveTo i => exact absurd rfl (hlog.1.2 i)
      | setClock reading => rfl
      | refuse calls => rfl
      | _ => simp [permits, hopen]
    rw [List.map_cons, run_cons, step, if_pos hpermits]
    exact ih hopen hlog.2

end Tasks

/-- Such an event is calls alone. -/
theorem ResultStore.calls_happeningsOf (s : ResultStore) {event : StoreEvent}
    (hevent : event.isTimed = true) (hsleep : ∀ nanos, event ≠ .act (.job (.sleep nanos))) :
    ∀ x ∈ s.happeningsOf event, x ≠ .flusherTick ∧ ∀ i, x ≠ .moveTo i := by
  cases event with
  | refuse calls => simp [happeningsOf]
  | act a =>
    cases a with
    | job a =>
      cases a with
      | purgeMetadata =>
        rw [happeningsOf]
        split <;> simp
      | sleep nanos => exact absurd rfl (hsleep nanos)
      | tick instant => cases hevent
      | _ => simp [happeningsOf]
    | flusherTick instant => cases hevent
    | shutdown => cases hevent
    | _ => simp [happeningsOf]

namespace Tasks

/-- These are the tasks of a store whose loops rest. -/
def Rests (w : Tasks) (s : ResultStore) : Prop :=
  ∃ loops ticks, s.supervisor = some loops ∧ loops.window = s.options.metaExpiry ∧
    w = atRest s.engine s.options loops ticks

variable {w : Tasks} {s : ResultStore}

theorem exists_run_happen (h : w.Rests s) {queue : List Command} (hqueues : s.engine.Queues queue)
    {event : StoreEvent} (hevent : event.isTimed = true) :
    ∃ events, .drop ∉ events ∧ (w.run events).Rests (s.happen event) := by
  obtain ⟨loops, ticks, hloops, hwindow, rfl⟩ := h
  by_cases hsleep : ∃ nanos, event = .act (.job (.sleep nanos))
  · obtain ⟨nanos, rfl⟩ := hsleep
    obtain ⟨e, options, supervisor⟩ := s
    obtain rfl : supervisor = some loops := hloops
    obtain ⟨events, ticks', hdrop, hrun, hwindow'⟩ :=
      exists_run_sleepUntil hqueues hwindow (Nat.le_add_right _ nanos) ticks
    exact ⟨events, hdrop, _, ticks', rfl, hwindow', hrun⟩
  · have hnot : ∀ nanos, event ≠ .act (.job (.sleep nanos)) := fun nanos heq => hsleep ⟨nanos, heq⟩
    have hrun := run_calls (w := atRest s.engine s.options loops ticks) rfl
      (s.calls_happeningsOf hevent hnot)
    refine ⟨_, ?_, loops, ticks, (s.happen_supervisor hevent hnot).trans hloops, ?_, hrun.trans ?_⟩
    · simp
    · rw [s.happen_options, hwindow]
    · rw [s.happen_options, s.happen_engine (StoreEvent.ne_shutdown_of_isTimed hevent)]
      rfl

theorem exists_run_undergo (h : w.Rests s) {queue : List Command} (hqueues : s.engine.Queues queue)
    {happened : List StoreEvent} (htimed : ∀ event ∈ happened, event.isTimed = true) :
    ∃ events, .drop ∉ events ∧ (w.run events).Rests (s.undergo happened) := by
  induction happened generalizing w s queue with
  | nil => exact ⟨[], List.not_mem_nil, h⟩
  | cons event happened ih =>
    rw [List.forall_mem_cons] at htimed
    obtain ⟨events, hdrop, hrests⟩ := exists_run_happen h hqueues htimed.1
    obtain ⟨queue', hqueues', -⟩ := hqueues.afterAll (s.happeningsOf event)
    rw [← s.happen_engine (StoreEvent.ne_shutdown_of_isTimed htimed.1)] at hqueues'
    obtain ⟨events', hdrop', hrests'⟩ := ih hrests hqueues' htimed.2
    refine ⟨events ++ events', by simp [hdrop, hdrop'], ?_⟩
    rw [run_append]
    exact hrests'

/-- What a store undergoes is a run of its tasks, if both are polled at once. -/
theorem exists_run_start (backend : Backend) {options : Options} (now : Now) (clock : ManualClock)
    (hbatched : options.pipePeriod.isZero = false) {happened : List StoreEvent}
    (htimed : ∀ event ∈ happened, event.isTimed = true) :
    ∃ events, .drop ∉ events ∧
      ((start backend options now clock).run (.flusher :: .purger :: events)).Rests
        ((ResultStore.start backend options now clock).undergo happened) := by
  have hrests : ((start backend options now clock).run [.flusher, .purger]).Rests
      (ResultStore.start backend options now clock) := by
    refine ⟨_, [], rfl, ?_, run_start backend options now clock⟩
    simp only [ResultStore.startLoops, Supervisor.start, ResultStore.positive?]
    split
    · next hzero => exact (Duration.eq_zero_of_isZero hzero).symm
    · rfl
  obtain ⟨events, hdrop, hrests'⟩ :=
    exists_run_undergo hrests (ResultStore.queues_start backend now clock hbatched) htimed
  exact ⟨events, hdrop, hrests'⟩

end Tasks

end JobResults
