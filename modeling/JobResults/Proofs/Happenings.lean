import JobResults.Proofs.StoreRun

/-!
  # What happens to an engine

  Until it is shut down, a run of a store is a sequence of happenings to its engine: a call of a
  caller is one, and a sleep is one for each tick on the way and for each move of the clock
  (`ResultStore.undergo_engine`).  So a purge is the same happening whoever asks for it, and the
  ticks of a sleep stand in the sequence where they happen.

  Of such a sequence one can collect what the queue accepted, with the instants, and what was passed
  to the backend, with the origin and the fate of each batch.  For a store that queues its writes
  the two agree (`Engine.Queues.afterAll`): what was accepted is what was sent, batch after batch,
  and then what waits.
-/

namespace JobResults

/-- A call that only reads. -/
inductive Query where
  | get (id : String)
  | list (o : Outcome)
  | ping
  deriving DecidableEq, Repr

def Query.call (clock : Score) : Query → StoreCall
  | get id => .get (resultKey id)
  | list o => .range o.indexKey 0 clock
  | ping => .ping

/-- One thing that happens to an engine. -/
inductive Happening where
  /-- A caller writes a result. -/
  | result (c : Command)
  /-- A caller records an outcome. -/
  | outcome (c : Command)
  | deletion (id : String)
  | query (q : Query)
  /-- A caller or the purger purges. -/
  | purge (window : Duration)
  /-- A caller flushes. -/
  | flush
  | flusherTick
  | moveTo (instant : Instant)
  | setClock (reading : Score)
  | refuse (calls : List Refusal)
  deriving DecidableEq, Repr

namespace Engine

def write (e : Engine) (c : Command) (counted : Metrics → Metrics) : Engine :=
  match e.submit c with
  | (e, .ok _) => e.count counted
  | (e, .error _) => e

def delete (e : Engine) (id : String) : Engine :=
  if e.writes.isClosed then e
  else
    match e.execute (ResultStore.deletion id) with
    | (e, .ok _) => e.count Metrics.jobDeleted
    | (e, .error _) => e

def after (e : Engine) : Happening → Engine
  | .result c => e.write c Metrics.resultWritten
  | .outcome c => e.write c Metrics.outcomeRecorded
  | .deletion id => e.delete id
  | .query q => e.step (.call (q.call e.clock.now))
  | .purge window => (e.purge window).1
  | .flush => e.sendQueue.1
  | .flusherTick => e.flusherTick
  | .moveTo instant => e.moveTo instant
  | .setClock reading => { e with clock := e.clock.set reading }
  | .refuse calls => e.refuse calls

def afterAll (e : Engine) (log : List Happening) : Engine := log.foldl after e

@[simp] theorem afterAll_append (e : Engine) (log log' : List Happening) :
    e.afterAll (log ++ log') = (e.afterAll log).afterAll log' :=
  List.foldl_append

end Engine

/-! ### Ticks and sleeps as happenings -/

namespace Supervisor

def Tick.happenings (now : Instant) (window : Duration) : Tick → List Happening
  | .flusher instant => [.moveTo (max now instant), .flusherTick]
  | .purger instant => [.moveTo (max now instant), .purge window]

/-- What `runTicks` does to the engine. -/
def ticks (target : Instant) : (count : Nat) → Engine → Supervisor → List Happening
  | 0, _, _ => []
  | count + 1, e, s =>
    match s.nextTick? target with
    | none => []
    | some tick =>
      let (e', s') := runTick e s tick
      tick.happenings e.now.monotonic s.window ++ ticks target count e' s'

/-- What `sleepUntil` does to the engine. -/
def sleep (e : Engine) (s : Supervisor) (target : Instant) : List Happening :=
  ticks target (s.flusher.ticksUntil target + s.purger.ticksUntil target) e s ++ [.moveTo target]

theorem runTick_engine (e : Engine) (s : Supervisor) (tick : Tick) :
    (runTick e s tick).1 = e.afterAll (tick.happenings e.now.monotonic s.window) := by
  cases tick <;> rfl

theorem runTicks_engine (target : Instant) (count : Nat) (e : Engine) (s : Supervisor) :
    (runTicks target count e s).1 = e.afterAll (ticks target count e s) := by
  induction count generalizing e s with
  | zero => rfl
  | succ count ih =>
    rw [runTicks, ticks]
    cases s.nextTick? target with
    | none => rfl
    | some tick =>
      dsimp only
      rw [Engine.afterAll_append, ← runTick_engine]
      exact ih _ _

theorem sleepUntil_engine (e : Engine) (s : Supervisor) (target : Instant) :
    (sleepUntil e s target).1 = e.afterAll (sleep e s target) := by
  rw [sleep, Engine.afterAll_append, ← runTicks_engine]
  rfl

end Supervisor

/-! ### Events as happenings -/

namespace ResultStore

/-- What an event other than a shutdown does to the engine. -/
def happeningsOf (s : ResultStore) : StoreEvent → List Happening
  | .act (.job (.set id payload)) => [.result (.set (resultKey id) payload s.ttl?)]
  | .act (.job (.record o id)) => [.outcome (.rank o.indexKey id s.engine.clock.now)]
  | .act (.job (.get id)) => [.query (.get id)]
  | .act (.job (.list o)) => [.query (.list o)]
  | .act (.job (.delete id)) => [.deletion id]
  | .act (.job .purgeMetadata) =>
    if s.options.metaExpiry.isZero then [] else [.purge s.options.metaExpiry]
  | .act (.job (.purgeOlderThan window)) => [.purge window]
  | .act (.job (.setClock reading)) => [.setClock reading]
  | .act (.job (.sleep nanos)) =>
    let target := s.engine.now.monotonic + nanos
    match s.supervisor with
    | none => [.moveTo target]
    | some loops => loops.sleep s.engine target
  | .act (.job (.tick instant)) =>
    match s.supervisor with
    | some ⟨_, .running _, window, _⟩ =>
      (Supervisor.Tick.purger instant).happenings s.engine.now.monotonic window
    | _ => []
  | .act .flush => [.flush]
  | .act (.flusherTick instant) =>
    match s.supervisor with
    | some ⟨.running _, _, window, _⟩ =>
      (Supervisor.Tick.flusher instant).happenings s.engine.now.monotonic window
    | _ => []
  | .act .healthCheck => [.query .ping]
  | .act .shutdown => []
  | .refuse calls => [.refuse calls]

def happenings (s : ResultStore) : List StoreEvent → List Happening
  | [] => []
  | event :: events => s.happeningsOf event ++ (s.happen event).happenings events

theorem submit_engine (s : ResultStore) (c : Command) (counted : Metrics → Metrics) :
    (s.submit c counted).1.engine = s.engine.write c counted := by
  rcases hsubmit : s.engine.submit c with ⟨e, reply⟩
  simp only [submit, Engine.write, hsubmit]
  cases reply <;> rfl

theorem deleteJob_engine (s : ResultStore) (id : String) :
    (s.deleteJob id).1.engine = s.engine.delete id := by
  rcases hexecute : s.engine.execute (deletion id) with ⟨e, reply⟩
  simp only [deleteJob, Engine.delete, hexecute]
  split
  · rfl
  · cases reply <;> rfl

theorem sleep_engine (s : ResultStore) (nanos : Nat) :
    (s.sleep nanos).engine
      = s.engine.afterAll (s.happeningsOf (.act (.job (.sleep nanos)))) := by
  obtain ⟨e, options, supervisor⟩ := s
  cases supervisor with
  | none => rfl
  | some loops => exact loops.sleepUntil_engine e _

theorem purgerTick_engine (s : ResultStore) (instant : Instant) :
    (s.purgerTick instant).engine
      = s.engine.afterAll (s.happeningsOf (.act (.job (.tick instant)))) := by
  obtain ⟨e, options, supervisor⟩ := s
  rcases supervisor with _ | ⟨flusher, purger, window, closesQueue⟩
  · rfl
  · cases purger <;> rfl

theorem flusherTick_engine (s : ResultStore) (instant : Instant) :
    (s.flusherTick instant).engine
      = s.engine.afterAll (s.happeningsOf (.act (.flusherTick instant))) := by
  obtain ⟨e, options, supervisor⟩ := s
  rcases supervisor with _ | ⟨flusher, purger, window, closesQueue⟩
  · rfl
  · cases flusher <;> rfl

theorem happen_engine (s : ResultStore) {event : StoreEvent} (h : event ≠ .act .shutdown) :
    (s.happen event).engine = s.engine.afterAll (s.happeningsOf event) := by
  cases event with
  | refuse calls => rfl
  | act a =>
    cases a with
    | job a =>
      cases a with
      | set id payload => exact s.submit_engine _ _
      | record o id => exact s.submit_engine _ _
      | get id => exact s.get_engine id
      | list o => exact s.list_engine o
      | delete id => exact s.deleteJob_engine id
      | purgeMetadata =>
        simp only [happen, perform, act, reply, purgeMetadata, happeningsOf]
        split <;> rfl
      | purgeOlderThan window => rfl
      | setClock reading => rfl
      | sleep nanos => exact s.sleep_engine nanos
      | tick instant => exact s.purgerTick_engine instant
    | flush => rfl
    | flusherTick instant => exact s.flusherTick_engine instant
    | healthCheck => exact s.healthCheck_engine
    | shutdown => exact absurd rfl h

theorem undergo_engine (s : ResultStore) {events : List StoreEvent}
    (h : .act .shutdown ∉ events) :
    (s.undergo events).engine = s.engine.afterAll (s.happenings events) := by
  induction events generalizing s with
  | nil => rfl
  | cons event events ih =>
    rw [List.mem_cons, not_or] at h
    rw [happenings, Engine.afterAll_append, ← s.happen_engine (Ne.symm h.1)]
    exact ih (s.happen event) h.2

end ResultStore

/-! ### What is collected on the way -/

/-- Who passes a batch to the backend. -/
inductive Origin where
  /-- A caller, who flushes. -/
  | caller
  | flusher
  /-- The deletion of a job, which does not go through the queue. -/
  | deletion
  deriving DecidableEq, Repr

/-- A batch that was passed to the backend, and whether that worked. -/
structure Passing where
  origin : Origin
  batch : List Command
  succeeded : Bool
  deriving DecidableEq, Repr

/-- The batches that were taken from the queue. -/
def queueBatches (passings : List Passing) : List (List Command) :=
  (passings.filter fun p => p.origin != .deletion).map (·.batch)

@[simp] theorem queueBatches_append (passings passings' : List Passing) :
    queueBatches (passings ++ passings') = queueBatches passings ++ queueBatches passings' := by
  simp [queueBatches]

/-- Whether commands are queued. -/
def WritePath.isOpenQueue : WritePath → Bool
  | direct _ => false
  | batched p => !p.closed

/-- The commands that a happening submits to an engine. -/
def Happening.commands (e : Engine) : Happening → List Command
  | .result c => [c]
  | .outcome c => [c]
  | .purge window => removals (e.cutoff window)
  | _ => []

namespace Engine

/-- The commands that the queue accepts at a happening, with the instant. -/
def accepted (e : Engine) (h : Happening) : List (Instant × Command) :=
  if e.writes.isOpenQueue then (h.commands e).map (e.now.monotonic, ·) else []

def sending (e : Engine) (origin : Origin) : List Passing :=
  if e.writes.waiting = [] then []
  else [⟨origin, e.writes.waiting, (e.execute e.writes.waiting).2.isOk⟩]

/-- The batches other than single direct writes that a happening passes to the backend. -/
def passed (e : Engine) : Happening → List Passing
  | .flush => e.sending .caller
  | .flusherTick => e.sending .flusher
  | .deletion id =>
    if e.writes.isClosed then []
    else [⟨.deletion, ResultStore.deletion id, (e.execute (ResultStore.deletion id)).2.isOk⟩]
  | _ => []

/-- What is collected from each happening of a sequence, in order. -/
def collect {α : Type} (f : Engine → Happening → List α) : Engine → List Happening → List α
  | _, [] => []
  | e, h :: log => f e h ++ collect f (e.after h) log

theorem collect_append {α : Type} (f : Engine → Happening → List α) (e : Engine)
    (log log' : List Happening) :
    e.collect f (log ++ log') = e.collect f log ++ (e.afterAll log).collect f log' := by
  induction log generalizing e with
  | nil => rfl
  | cons h log ih =>
    rw [List.cons_append, collect, collect, ih, List.append_assoc]
    rfl

/-- What holds of all that is collected from single happenings. -/
theorem forall_mem_collect {α : Type} {f : Engine → Happening → List α} {P : α → Prop}
    (h : ∀ e x, ∀ y ∈ f e x, P y) (e : Engine) (log : List Happening) :
    ∀ y ∈ e.collect f log, P y := by
  induction log generalizing e with
  | nil => exact nofun
  | cons x log ih =>
    rw [collect, List.forall_mem_append]
    exact ⟨h e x, ih (e.after x)⟩

/-- No batch is empty. -/
theorem passed_ne_nil (e : Engine) (x : Happening) : ∀ p ∈ e.passed x, p.batch ≠ [] := by
  have hsending : ∀ origin, ∀ p ∈ e.sending origin, p.batch ≠ [] := by
    intro origin p hp
    rw [sending] at hp
    split at hp
    · cases hp
    · next hwaiting => rw [List.mem_singleton.1 hp]; exact hwaiting
  cases x with
  | flush => exact hsending .caller
  | flusherTick => exact hsending .flusher
  | deletion id =>
    intro p hp
    rw [passed] at hp
    split at hp
    · cases hp
    · rw [List.mem_singleton.1 hp]
      exact nofun
  | _ => exact nofun

/-! ### Engines that queue -/

/-- The engine of an open store that queues its writes, with what waits. -/
def Queues (e : Engine) (queue : List Command) : Prop := e.writes = .batched ⟨queue, false⟩

def withQueue (e : Engine) (queue : List Command) : Engine :=
  { e with writes := .batched ⟨queue, false⟩ }

theorem queues_withQueue (e : Engine) (queue : List Command) : (e.withQueue queue).Queues queue :=
  rfl

@[simp] theorem withQueue_withQueue (e : Engine) (queue queue' : List Command) :
    (e.withQueue queue).withQueue queue' = e.withQueue queue' :=
  rfl

variable {e : Engine} {queue : List Command}

theorem Queues.submit (h : e.Queues queue) (c : Command) :
    e.submit c = (e.withQueue (queue ++ [c]), .ok ()) := by
  rw [Engine.submit, h]
  rfl

theorem Queues.write (h : e.Queues queue) (c : Command) (counted : Metrics → Metrics) :
    e.write c counted = (e.withQueue (queue ++ [c])).count counted := by
  rw [Engine.write, h.submit]

/-- A purge queues its removals and counts once, whatever becomes of the eviction. -/
theorem Queues.purge (h : e.Queues queue) (window : Duration) :
    ∃ gate metrics,
      (e.purge window).1
        = { e.withQueue (queue ++ removals (e.cutoff window)) with
            gate := gate
            metrics := metrics } ∧
      gate.record = e.gate.record ∧
      (metrics = e.metrics.purgeCompleted ∨ metrics = e.metrics.purgeFailed) := by
  have htrims : queue ++ [.unrankRange Outcome.failed.indexKey 0 (e.cutoff window)]
      ++ [.unrankRange Outcome.success.indexKey 0 (e.cutoff window)]
        = queue ++ removals (e.cutoff window) := List.append_assoc ..
  simp only [Engine.purge, trim, h.submit, (e.queues_withQueue _).submit, withQueue_withQueue,
    htrims]
  -- what is left is the eviction and what it makes the purge count
  have hevict := (e.withQueue (queue ++ removals (e.cutoff window))).evict_fst
  obtain ⟨backend, hcall⟩ :=
    (e.withQueue (queue ++ removals (e.cutoff window))).call_eq .evict
  rw [step, hcall] at hevict
  split
  · next hevicted =>
    rw [hevicted] at hevict
    dsimp only at hevict
    subst hevict
    exact ⟨_, _, rfl, rfl, .inr rfl⟩
  · next hevicted =>
    rw [hevicted] at hevict
    dsimp only at hevict
    subst hevict
    exact ⟨_, _, rfl, rfl, .inl rfl⟩

theorem flusherTick_eq (e : Engine) : e.flusherTick = e.flush := by
  rw [flusherTick]
  split
  · next hpending =>
    rw [WritePath.pending_eq] at hpending
    rw [flush, sendQueue_of_empty (List.eq_nil_of_length_eq_zero hpending)]
    rfl
  · rfl

/-- A tick of the flusher sends the queue, and counts. -/
theorem after_flusherTick (e : Engine) :
    ∃ metrics, e.after .flusherTick = { e.sendQueue.1 with metrics := metrics } := by
  rw [after, flusherTick_eq]
  exact e.flush_eq

theorem Queues.sendQueue (h : e.Queues queue) : e.sendQueue.1.Queues [] := by
  rcases e.sendQueue_cases with ⟨hwaiting, hsend⟩ | ⟨p, -, hwrites, hsend⟩
  · rw [h] at hwaiting
    rw [hsend, ← hwaiting]
    exact h
  · rw [h] at hwrites
    rw [hsend, ← WritePath.batched.inj hwrites]
    rfl

theorem flatten_sending (e : Engine) {origin : Origin} (h : origin ≠ .deletion) :
    (queueBatches (e.sending origin)).flatten = e.writes.waiting := by
  rw [sending]
  split
  · next hwaiting => rw [hwaiting]; rfl
  · simp [queueBatches, h]

theorem sendQueue_record (e : Engine) (origin : Origin) :
    e.sendQueue.1.gate.record = e.gate.record ++ (e.sending origin).map (·.batch) := by
  rw [sending]
  rcases e.sendQueue_cases with ⟨hwaiting, hsend⟩ | ⟨p, hqueue, hwrites, hsend⟩
  · rw [hsend, if_pos hwaiting, List.map_nil, List.append_nil]
  · have hwaiting : e.writes.waiting = p.queue := by rw [hwrites]; rfl
    rw [hsend, hwaiting, if_neg hqueue]
    exact e.execute_record p.queue

theorem delete_writes (e : Engine) (id : String) : (e.delete id).writes = e.writes := by
  rw [delete]
  split
  · rfl
  · have hexecute : (e.execute (ResultStore.deletion id)).1.writes = e.writes := rfl
    split <;> next hcall => rw [hcall] at hexecute; exact hexecute

theorem delete_record (e : Engine) (id : String) :
    (e.delete id).gate.record = e.gate.record ++ (e.passed (.deletion id)).map (·.batch) := by
  rw [delete, passed]
  split
  · rw [List.map_nil, List.append_nil]
  · have hrecord := e.execute_record (ResultStore.deletion id)
    split <;> next hcall => rw [hcall] at hrecord; exact hrecord

/-- One happening conserves commands: what waited and what was accepted is what was sent and what
    waits now. -/
theorem Queues.after (h : e.Queues queue) (x : Happening) :
    ∃ queue', (e.after x).Queues queue' ∧
      queue ++ (e.accepted x).map (·.2) = (queueBatches (e.passed x)).flatten ++ queue' := by
  have haccepted : (e.accepted x).map (·.2) = x.commands e := by
    have hopen : e.writes.isOpenQueue = true := by rw [h]; rfl
    simp [accepted, hopen, Function.comp_def]
  rw [haccepted]
  -- most happenings send nothing and queue what they submit, if anything
  have hqueued : ∀ {e' : Engine}, e'.Queues (queue ++ x.commands e) →
      queueBatches (e.passed x) = [] →
      ∃ queue', e'.Queues queue' ∧
        queue ++ x.commands e = (queueBatches (e.passed x)).flatten ++ queue' := by
    intro e' h' hnone
    exact ⟨_, h', by rw [hnone]; rfl⟩
  have hsame : ∀ {e' : Engine}, e'.writes = e.writes → x.commands e = [] →
      queueBatches (e.passed x) = [] →
      ∃ queue', e'.Queues queue' ∧
        queue ++ x.commands e = (queueBatches (e.passed x)).flatten ++ queue' := by
    intro e' h' hsilent hnone
    refine hqueued ?_ hnone
    rw [hsilent, List.append_nil]
    exact h'.trans h
  have hsent : ∀ (origin : Origin) {e' : Engine}, e'.writes = e.sendQueue.1.writes →
      x.commands e = [] → origin ≠ .deletion → e.passed x = e.sending origin →
      ∃ queue', e'.Queues queue' ∧
        queue ++ x.commands e = (queueBatches (e.passed x)).flatten ++ queue' := by
    intro origin e' h' hsilent horigin hpassed
    refine ⟨[], h'.trans h.sendQueue, ?_⟩
    rw [hsilent, hpassed, e.flatten_sending horigin, h]
    rfl
  cases x with
  | result c => exact hqueued (by rw [Engine.after, h.write]; rfl) rfl
  | outcome c => exact hqueued (by rw [Engine.after, h.write]; rfl) rfl
  | deletion id =>
    refine hsame (e.delete_writes id) rfl ?_
    rw [passed]
    split <;> rfl
  | query q => exact hsame rfl rfl rfl
  | purge window =>
    obtain ⟨gate, metrics, hpurge, -⟩ := h.purge window
    exact hqueued (by rw [Engine.after, hpurge]; rfl) rfl
  | flush => exact hsent .caller rfl rfl nofun rfl
  | flusherTick =>
    obtain ⟨metrics, htick⟩ := e.after_flusherTick
    exact hsent .flusher (by rw [htick]) rfl nofun rfl
  | moveTo instant => exact hsame rfl rfl rfl
  | setClock reading => exact hsame rfl rfl rfl
  | refuse calls => exact hsame rfl rfl rfl

/-- The backend has on record what was passed, and nothing else. -/
theorem Queues.after_record (h : e.Queues queue) (x : Happening) :
    (e.after x).gate.record = e.gate.record ++ (e.passed x).map (·.batch) := by
  have hsilent : ∀ {e' : Engine}, e'.gate.record = e.gate.record → e.passed x = [] →
      e'.gate.record = e.gate.record ++ (e.passed x).map (·.batch) := by
    intro e' h' hnone
    rw [h', hnone, List.map_nil, List.append_nil]
  cases x with
  | result c => exact hsilent (by rw [Engine.after, h.write]; rfl) rfl
  | outcome c => exact hsilent (by rw [Engine.after, h.write]; rfl) rfl
  | deletion id => exact e.delete_record id
  | query q =>
    obtain ⟨backend, hcall⟩ := e.call_eq (q.call e.clock.now)
    refine hsilent ?_ rfl
    rw [Engine.after, step, hcall]
    cases q <;> rfl
  | purge window =>
    obtain ⟨gate, metrics, hpurge, hrecord, -⟩ := h.purge window
    exact hsilent (by rw [Engine.after, hpurge]; exact hrecord) rfl
  | flush => exact e.sendQueue_record .caller
  | flusherTick =>
    obtain ⟨metrics, htick⟩ := e.after_flusherTick
    rw [htick]
    exact e.sendQueue_record .flusher
  | moveTo instant => exact hsilent rfl rfl
  | setClock reading => exact hsilent rfl rfl
  | refuse calls => exact hsilent rfl rfl

/-- What a queue has accepted is what was sent from it, batch after batch, and then what waits. -/
theorem Queues.afterAll (h : e.Queues queue) (log : List Happening) :
    ∃ queue', (e.afterAll log).Queues queue' ∧
      queue ++ (e.collect accepted log).map (·.2)
        = (queueBatches (e.collect passed log)).flatten ++ queue' := by
  induction log generalizing e queue with
  | nil => exact ⟨queue, h, List.append_nil _⟩
  | cons x log ih =>
    obtain ⟨queue', h', hfirst⟩ := h.after x
    obtain ⟨queue'', h'', hrest⟩ := ih h'
    refine ⟨queue'', h'', ?_⟩
    rw [collect, collect, queueBatches_append, List.map_append, List.flatten_append,
      ← List.append_assoc, hfirst, List.append_assoc, hrest, List.append_assoc]

theorem Queues.afterAll_record (h : e.Queues queue) (log : List Happening) :
    (e.afterAll log).gate.record = e.gate.record ++ (e.collect passed log).map (·.batch) := by
  induction log generalizing e queue with
  | nil => exact (List.append_nil _).symm
  | cons x log ih =>
    obtain ⟨queue', h', -⟩ := h.after x
    rw [collect, List.map_append, ← List.append_assoc, ← h.after_record x]
    exact ih h'

end Engine

theorem ResultStore.queues_start (backend : Backend) {options : Options} (now : Now)
    (clock : ManualClock) (h : options.pipePeriod.isZero = false) :
    (start backend options now clock).engine.Queues [] := by
  simp [start, Engine.Queues, WritePath.select, h, Pipeline.empty]

end JobResults
