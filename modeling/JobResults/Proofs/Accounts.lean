import JobResults.Proofs.Happenings

/-!
  # What the counters count

  Every happening to an engine that queues its writes moves the counters by what it accepts and
  what it passes (`Engine.Queues.after_counters`), all modulo `2 ^ 64`.  So over a run before a
  shutdown the counters of results, outcomes and purges, where a purge counts for its two removals
  however it ends, add up to what was sent from the queue and what still waits; and the counters of
  the flusher are the number of its batches and the commands of those that worked.
-/

namespace JobResults

namespace Metrics

/-- The commands that were accepted, as far as the counters tell. -/
def entered (m : Metrics) : UInt64 :=
  m.resultsWritten + m.outcomesRecorded + 2 * (m.purgeCycles + m.purgeFailures)

/-- The batches of the flusher, as far as the counters tell. -/
def attempts (m : Metrics) : UInt64 := m.batchesFlushed + m.flushFailures

/-- Counts a batch that the flusher has passed. -/
def flushed (m : Metrics) (p : Passing) : Metrics :=
  if p.succeeded then m.batchFlushed p.batch.length else m.flushFailed

end Metrics

/-- The batches that the flusher itself has sent. -/
def flusherPassings (passings : List Passing) : List Passing :=
  passings.filter fun p => p.origin == .flusher

/-- The commands of the batches that the flusher has sent and that worked. -/
def flushedCommands (passings : List Passing) : List Command :=
  (((flusherPassings passings).filter (·.succeeded)).map (·.batch)).flatten

theorem flusherPassings_append (passings passings' : List Passing) :
    flusherPassings (passings ++ passings')
      = flusherPassings passings ++ flusherPassings passings' :=
  List.filter_append ..

theorem flushedCommands_append (passings passings' : List Passing) :
    flushedCommands (passings ++ passings')
      = flushedCommands passings ++ flushedCommands passings' := by
  simp [flushedCommands, flusherPassings_append]

namespace Engine

theorem flush_metrics (e : Engine) :
    e.flush.metrics = (e.sending .flusher).foldl Metrics.flushed e.metrics := by
  rw [flush, sending]
  rcases e.sendQueue_cases with ⟨hwaiting, hsend⟩ | ⟨p, hqueue, hwrites, hsend⟩
  · rw [hsend, if_pos hwaiting]
    rfl
  · have hwaiting : e.writes.waiting = p.queue := by rw [hwrites]; rfl
    have hmetrics : (e.execute p.queue).1.metrics = e.metrics := rfl
    rw [hsend, hwaiting, if_neg hqueue]
    cases (e.execute p.queue).2 with
    | error err => simp [Except.map, Metrics.flushed, Except.isOk, Except.toBool, hmetrics]
    | ok _ =>
      obtain ⟨n, hlength⟩ := Nat.exists_eq_succ_of_ne_zero (mt List.eq_nil_of_length_eq_zero hqueue)
      simp [Except.map, Metrics.flushed, Except.isOk, Except.toBool, hmetrics, hlength]

theorem delete_metrics (e : Engine) (id : String) :
    (e.delete id).metrics = e.metrics ∨ (e.delete id).metrics = e.metrics.jobDeleted := by
  rw [delete]
  split
  · exact .inl rfl
  · have hexecute : (e.execute (ResultStore.deletion id)).1.metrics = e.metrics := rfl
    split
    · next hcall =>
      rw [hcall] at hexecute
      exact .inr (congrArg Metrics.jobDeleted hexecute)
    · next hcall =>
      rw [hcall] at hexecute
      exact .inl hexecute

theorem sendQueue_metrics (e : Engine) : e.sendQueue.1.metrics = e.metrics := by
  rcases e.sendQueue_cases with ⟨-, hsend⟩ | ⟨p, -, -, hsend⟩
  · rw [hsend]
  · rw [hsend]
    rfl

/-- From some counters to others, with what was accepted and passed in between. -/
structure Accounted (m m' : Metrics) (accepted : Nat) (passings : List Passing) : Prop where
  entered : m'.entered = m.entered + .ofNat accepted
  attempts : m'.attempts = m.attempts + .ofNat (flusherPassings passings).length
  commandsFlushed :
    m'.commandsFlushed = m.commandsFlushed + .ofNat (flushedCommands passings).length

theorem Accounted.refl (m : Metrics) : Accounted m m 0 [] := by
  constructor <;> exact (UInt64.add_zero _).symm

theorem Accounted.trans {m m' m'' : Metrics} {accepted accepted' : Nat}
    {passings passings' : List Passing} (h : Accounted m m' accepted passings)
    (h' : Accounted m' m'' accepted' passings') :
    Accounted m m'' (accepted + accepted') (passings ++ passings') := by
  constructor
  · rw [h'.entered, h.entered, UInt64.ofNat_add, UInt64.add_assoc]
  · rw [h'.attempts, h.attempts, flusherPassings_append, List.length_append, UInt64.ofNat_add,
      UInt64.add_assoc]
  · rw [h'.commandsFlushed, h.commandsFlushed, flushedCommands_append, List.length_append,
      UInt64.ofNat_add, UInt64.add_assoc]

theorem accounted_flushed (m : Metrics) {p : Passing} (h : p.origin = .flusher) :
    Accounted m (m.flushed p) 0 [p] := by
  have hpassings : flusherPassings [p] = [p] := by simp [flusherPassings, h]
  unfold Metrics.flushed
  split
  · next hworked =>
    refine ⟨(UInt64.add_zero _).symm, ?_, ?_⟩
    · rw [hpassings, Metrics.attempts, Metrics.attempts, Metrics.batchFlushed]
      simp only [List.length_singleton]
      grind
    · simp [Metrics.batchFlushed, flushedCommands, hpassings, hworked]
  · next hfailed =>
    refine ⟨(UInt64.add_zero _).symm, ?_, ?_⟩
    · rw [hpassings, Metrics.attempts, Metrics.attempts, Metrics.flushFailed]
      simp only [List.length_singleton]
      grind
    · simp [Metrics.flushFailed, flushedCommands, hpassings, hfailed]

/-- Batches that do not come from the flusher leave its counters alone. -/
theorem accounted_other {m m' : Metrics} {accepted : Nat} {passings : List Passing}
    (hentered : m'.entered = m.entered + .ofNat accepted) (hattempts : m'.attempts = m.attempts)
    (hcommands : m'.commandsFlushed = m.commandsFlushed)
    (hpassings : ∀ p ∈ passings, p.origin ≠ .flusher) : Accounted m m' accepted passings := by
  have hnone : flusherPassings passings = [] := by
    simpa [flusherPassings] using hpassings
  refine ⟨hentered, ?_, ?_⟩
  · rw [hattempts, hnone]
    exact (UInt64.add_zero _).symm
  · rw [hcommands, flushedCommands, hnone]
    exact (UInt64.add_zero _).symm

/-- Only ticks pass batches of the flusher. -/
theorem origin_ne_flusher (e : Engine) {x : Happening} (hx : x ≠ .flusherTick) :
    ∀ p ∈ e.passed x, p.origin ≠ .flusher := by
  intro p hp
  cases x with
  | flush =>
    rw [passed, sending] at hp
    split at hp
    · cases hp
    · simp [List.mem_singleton.1 hp]
  | deletion id =>
    rw [passed] at hp
    split at hp
    · cases hp
    · simp [List.mem_singleton.1 hp]
  | flusherTick => exact absurd rfl hx
  | _ => cases hp

variable {e : Engine} {queue : List Command}

/-- One happening moves the counters by what it accepts and what it passes. -/
theorem Queues.after_counters (h : e.Queues queue) (x : Happening) :
    Accounted e.metrics (e.after x).metrics (e.accepted x).length (e.passed x) := by
  have hlength : (e.accepted x).length = (x.commands e).length := by
    have hopen : e.writes.isOpenQueue = true := by rw [h]; rfl
    simp [accepted, hopen]
  rw [hlength]
  have hquiet : ∀ {m : Metrics}, m = e.metrics ∨ m = e.metrics.jobDeleted →
      x.commands e = [] → x ≠ .flusherTick →
      Accounted e.metrics m (x.commands e).length (e.passed x) := by
    intro m hm hsilent hx
    rw [hsilent]
    rcases hm with rfl | rfl <;>
      exact accounted_other (UInt64.add_zero _).symm rfl rfl (e.origin_ne_flusher hx)
  cases x with
  | result c =>
    rw [Engine.after, h.write]
    refine accounted_other ?_ rfl rfl (e.origin_ne_flusher (by simp))
    simp only [count, withQueue, Metrics.entered, Metrics.resultWritten, Happening.commands,
      List.length_singleton]
    grind
  | outcome c =>
    rw [Engine.after, h.write]
    refine accounted_other ?_ rfl rfl (e.origin_ne_flusher (by simp))
    simp only [count, withQueue, Metrics.entered, Metrics.outcomeRecorded, Happening.commands,
      List.length_singleton]
    grind
  | deletion id => exact hquiet (e.delete_metrics id) rfl (by simp)
  | query q => exact hquiet (.inl rfl) rfl (by simp)
  | purge window =>
    obtain ⟨gate, metrics, hpurge, -, hmetrics⟩ := h.purge window
    rw [Engine.after, hpurge]
    have hpassings := e.origin_ne_flusher (x := .purge window) (by simp)
    -- two removals were accepted, and one purge is counted for them
    rcases hmetrics with rfl | rfl
    · refine accounted_other ?_ rfl rfl hpassings
      simp only [Metrics.entered, Metrics.purgeCompleted, Happening.commands, removals,
        List.length_cons, List.length_nil]
      grind
    · refine accounted_other ?_ rfl rfl hpassings
      simp only [Metrics.entered, Metrics.purgeFailed, Happening.commands, removals,
        List.length_cons, List.length_nil]
      grind
  | flush => exact hquiet (.inl e.sendQueue_metrics) rfl (by simp)
  | flusherTick =>
    rw [Engine.after, flusherTick_eq, flush_metrics, passed]
    unfold sending
    split
    · exact .refl _
    · exact accounted_flushed e.metrics rfl
  | moveTo instant => exact hquiet (.inl rfl) rfl (by simp)
  | setClock reading => exact hquiet (.inl rfl) rfl (by simp)
  | refuse calls => exact hquiet (.inl rfl) rfl (by simp)

theorem Queues.afterAll_counters (h : e.Queues queue) (log : List Happening) :
    Accounted e.metrics (e.afterAll log).metrics (e.collect accepted log).length
      (e.collect passed log) := by
  induction log generalizing e queue with
  | nil => exact .refl _
  | cons x log ih =>
    obtain ⟨queue', h', -⟩ := h.after x
    rw [collect, collect, List.length_append]
    exact (h.after_counters x).trans (ih h')

end Engine

namespace ResultStore

/-- In every state before a shutdown, whatever was refused, what the counters say was accepted is
    what still waits and what was sent from the queue, and what they say of the flusher are its
    batches, none of them empty, and the commands of those that worked. -/
theorem counters_balance (backend : Backend) (options : Options) (now : Now)
    (clock : ManualClock) (events : List StoreEvent) (hbatched : options.pipePeriod.isZero = false)
    (hevents : .act .shutdown ∉ events) :
    let start := start backend options now clock
    let log := start.happenings events
    let passings := start.engine.collect Engine.passed log
    let s := start.undergo events
    let m := s.engine.metrics
    s.engine = start.engine.afterAll log ∧
      s.engine.gate.record = passings.map (·.batch) ∧
      (∀ p ∈ passings, p.batch ≠ []) ∧
      m.resultsWritten + m.outcomesRecorded + 2 * (m.purgeCycles + m.purgeFailures)
        = .ofNat (s.pending + (queueBatches passings).flatten.length) ∧
      m.batchesFlushed + m.flushFailures = .ofNat (flusherPassings passings).length ∧
      m.commandsFlushed = .ofNat (flushedCommands passings).length := by
  intro start log passings s m
  have hengine : s.engine = start.engine.afterAll log := start.undergo_engine hevents
  have hstart : start.engine.Queues [] := queues_start backend now clock hbatched
  obtain ⟨queue, hqueue, hconserved⟩ := hstart.afterAll log
  have hrecord := hstart.afterAll_record log
  obtain ⟨hentered, hattempts, hcommands⟩ := hstart.afterAll_counters log
  rw [← hengine] at hqueue hrecord hentered hattempts hcommands
  have hpending : s.pending = queue.length := by
    rw [pending, hqueue]
    rfl
  have haccepted : (start.engine.collect Engine.accepted log).length
      = s.pending + (queueBatches passings).flatten.length := by
    have hlength := congrArg List.length hconserved
    rw [List.nil_append, List.length_map, List.length_append] at hlength
    rw [hlength, hpending, Nat.add_comm]
  refine ⟨hengine, hrecord, Engine.forall_mem_collect Engine.passed_ne_nil _ _, ?_, ?_, ?_⟩
  · rw [haccepted] at hentered
    exact hentered.trans (UInt64.zero_add _)
  · exact hattempts.trans (UInt64.zero_add _)
  · exact hcommands.trans (UInt64.zero_add _)

/-- A batch of the flusher works and one fails, a caller flushes, a job is deleted, and of three
    purges one cannot evict. -/
theorem counters_balance_refused :
    let options : Options := ⟨.zero, ⟨90000000, by decide⟩, ⟨60000000, by decide⟩⟩
    let events : List StoreEvent :=
      [.act (.job (.set "a" [1])), .act (.job (.record .success "a")), .act (.job (.sleep 60000000)),
        .refuse [.execute, .evict], .act (.job (.set "b" [2])), .act (.job (.delete "a")),
        .act (.job (.sleep 60000000)), .refuse [], .act (.job (.purgeOlderThan .zero)), .act .flush,
        .act (.job .purgeMetadata)]
    let start := ResultStore.start (.memory .empty) options ⟨0, 0⟩ ⟨5⟩
    let passings := start.engine.collect Engine.passed (start.happenings events)
    let s := start.undergo events
    let m := s.engine.metrics
    (m.resultsWritten, m.outcomesRecorded, m.purgeCycles, m.purgeFailures) = (2, 1, 2, 1) ∧
      s.pending = 2 ∧ (queueBatches passings).map (·.length) = [2, 3, 2] ∧
      m.resultsWritten + m.outcomesRecorded + 2 * (m.purgeCycles + m.purgeFailures)
        = .ofNat (s.pending + (queueBatches passings).flatten.length) ∧
      m.batchesFlushed + m.flushFailures = 2 ∧ m.commandsFlushed = 2 := by
  intro options events
  obtain ⟨-, -, -, hentered, hattempts, hcommands⟩ :=
    counters_balance (.memory .empty) options ⟨0, 0⟩ ⟨5⟩ events rfl (by decide)
  refine ⟨by decide, by decide, by decide, hentered, hattempts.trans ?_, hcommands.trans ?_⟩
  · decide
  · decide

end ResultStore

end JobResults
