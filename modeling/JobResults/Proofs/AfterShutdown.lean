import JobResults.Proofs.StoreRun

/-!
  # Stores that are shut down

  After its shutdown a store has no loops, its way of writing is closed and nothing waits
  (`ShutDown`), whether or not the backend could be closed and whatever it refused.  Everything that
  may happen to such a store leaves it shut down and idle (`ShutDown.happen`): nothing is executed
  or evicted, nothing is closed again, and only the counter of failed purges moves.
-/

namespace JobResults

/-- From one engine to the other no write, eviction or closing was tried, and nothing was counted
    but failed purges. -/
structure Engine.Idle (e e' : Engine) : Prop where
  writes : e'.writes = e.writes
  record : e'.gate.record = e.gate.record
  evictions : e'.gate.evictions = e.gate.evictions
  closings : e'.gate.closings = e.gate.closings
  metrics : ∃ failures, e'.metrics = { e.metrics with purgeFailures := failures }

namespace Engine

theorem Idle.refl (e : Engine) : e.Idle e := ⟨rfl, rfl, rfl, rfl, _, rfl⟩

theorem Idle.trans {e e' e'' : Engine} (h : e.Idle e') (h' : e'.Idle e'') : e.Idle e'' where
  writes := h'.writes.trans h.writes
  record := h'.record.trans h.record
  evictions := h'.evictions.trans h.evictions
  closings := h'.closings.trans h.closings
  metrics := by
    obtain ⟨_, hmetrics⟩ := h.metrics
    obtain ⟨failures, hmetrics'⟩ := h'.metrics
    exact ⟨failures, by rw [hmetrics', hmetrics]⟩

/-- A call that is neither a batch nor an eviction nor a closing only reads. -/
theorem idle_call (e : Engine) {c : StoreCall} (h : ∀ gate, Gate.note gate c = gate) :
    e.Idle (e.step (.call c)) := by
  obtain ⟨backend, hcall⟩ := e.call_eq c
  rw [step, hcall, h]
  exact ⟨rfl, rfl, rfl, rfl, _, rfl⟩

/-! ### Closed ways of writing -/

variable {e : Engine}

theorem submit_of_closed (h : e.writes.isClosed = true) (c : Command) :
    e.submit c = (e, .error .closed) := by
  rcases e.submit_cases c with ⟨-, hsubmit⟩ | ⟨hwrites, -⟩ | ⟨queue, hwrites, -⟩
  · exact hsubmit
  · rw [hwrites] at h
    cases h
  · rw [hwrites] at h
    cases h

/-- A purge fails at its removals and never comes to evict. -/
theorem purge_of_closed (h : e.writes.isClosed = true) (window : Duration) :
    e.purge window = (e.count Metrics.purgeFailed, .error .closed) := by
  simp only [purge, trim, submit_of_closed h]
  rfl

end Engine

namespace ResultStore

/-- A store without loops whose way of writing is closed and empty. -/
structure ShutDown (s : ResultStore) : Prop where
  loops : s.supervisor = none
  closed : s.engine.writes.isClosed = true
  drained : s.engine.writes.waiting = []

variable {s : ResultStore}

/-! ### Operations of a store that is shut down -/

namespace ShutDown

theorem submit (h : s.ShutDown) (c : Command) (counted : Metrics → Metrics) :
    s.submit c counted = (s, .error (.store .closed)) := by
  rw [ResultStore.submit, Engine.submit_of_closed h.closed]

theorem deleteJob (h : s.ShutDown) (id : String) :
    s.deleteJob id = (s, .error (.store .closed)) := by
  rw [ResultStore.deleteJob, if_pos h.closed]

theorem purgeOlderThan (h : s.ShutDown) (window : Duration) :
    s.purgeOlderThan window
      = ({ s with engine := s.engine.count Metrics.purgeFailed }, .error (.store .closed)) := by
  rw [ResultStore.purgeOlderThan, Engine.purge_of_closed h.closed]
  rfl

theorem purgeMetadata (h : s.ShutDown) :
    s.purgeMetadata.2
      = if s.options.metaExpiry.isZero then .ok none else .error (.store .closed) := by
  rw [ResultStore.purgeMetadata, h.purgeOlderThan]
  split <;> rfl

theorem flush (h : s.ShutDown) : s.flush = (s, .ok 0) := by
  rw [ResultStore.flush, Engine.sendQueue_of_empty h.drained]
  rfl

theorem pending (h : s.ShutDown) : s.pending = 0 := by
  rw [ResultStore.pending, WritePath.pending_eq, h.drained]
  rfl

theorem shutdown (h : s.ShutDown) : s.shutdown = (s, .ok ()) := by
  rw [ResultStore.shutdown, h.loops]

/-- Time passes without a tick. -/
theorem sleep (h : s.ShutDown) (nanos : Nat) :
    s.sleep nanos = { s with engine := s.engine.moveTo (s.engine.now.monotonic + nanos) } := by
  rw [ResultStore.sleep, h.loops]

theorem purgerTick (h : s.ShutDown) (instant : Instant) : s.purgerTick instant = s := by
  rw [ResultStore.purgerTick, h.loops]

theorem flusherTick (h : s.ShutDown) (instant : Instant) : s.flusherTick instant = s := by
  rw [ResultStore.flusherTick, h.loops]

/-! ### What happens after a shutdown -/

theorem perform_idle (h : s.ShutDown) (a : StoreAction) : s.engine.Idle (s.perform a).engine := by
  have hreading : ∀ {c : StoreCall} {t : ResultStore}, t.engine = s.engine.step (.call c) →
      (∀ gate, Gate.note gate c = gate) → s.engine.Idle t.engine := by
    intro c t ht hc
    rw [ht]
    exact s.engine.idle_call hc
  have hsame : ∀ {t : ResultStore}, t = s → s.engine.Idle t.engine := by
    rintro t rfl
    exact .refl _
  have hpurged : ∀ window, s.engine.Idle (s.purgeOlderThan window).1.engine := by
    intro window
    rw [h.purgeOlderThan]
    exact ⟨rfl, rfl, rfl, rfl, _, rfl⟩
  cases a with
  | job a =>
    cases a with
    | set id payload => exact hsame (congrArg Prod.fst (h.submit _ _))
    | record o id => exact hsame (congrArg Prod.fst (h.submit _ _))
    | get id => exact hreading (s.get_engine id) fun _ => rfl
    | list o => exact hreading (s.list_engine o) fun _ => rfl
    | delete id => exact hsame (congrArg Prod.fst (h.deleteJob id))
    | purgeMetadata =>
      rw [perform, act, reply, ResultStore.purgeMetadata]
      split
      · exact .refl _
      · exact hpurged _
    | purgeOlderThan window => exact hpurged window
    | setClock reading => exact ⟨rfl, rfl, rfl, rfl, _, rfl⟩
    | sleep nanos =>
      rw [perform, act, h.sleep]
      exact ⟨rfl, rfl, rfl, rfl, _, rfl⟩
    | tick instant => exact hsame (h.purgerTick instant)
  | flush => exact hsame (congrArg Prod.fst h.flush)
  | flusherTick instant => exact hsame (h.flusherTick instant)
  | healthCheck => exact hreading s.healthCheck_engine fun _ => rfl
  | shutdown => exact hsame (congrArg Prod.fst h.shutdown)

theorem happen (h : s.ShutDown) (event : StoreEvent) :
    (s.happen event).ShutDown ∧ s.engine.Idle (s.happen event).engine := by
  have hidle : s.engine.Idle (s.happen event).engine := by
    cases event with
    | act a => exact h.perform_idle a
    | refuse calls => exact ⟨rfl, rfl, rfl, rfl, _, rfl⟩
  have hloops : (s.happen event).supervisor = none := by
    cases event with
    | act a =>
      by_cases ha : a = .shutdown
      · rw [ResultStore.happen, ha, perform, h.shutdown]
        exact h.loops
      · have hshape := congrArg Prod.snd (s.perform_frame ha)
        simpa [frame, h.loops, ResultStore.happen] using hshape
    | refuse calls => exact h.loops
  refine ⟨⟨hloops, ?_, ?_⟩, hidle⟩
  · rw [hidle.writes]
    exact h.closed
  · rw [hidle.writes]
    exact h.drained

theorem undergo (h : s.ShutDown) (events : List StoreEvent) :
    (s.undergo events).ShutDown ∧ s.engine.Idle (s.undergo events).engine := by
  induction events generalizing s with
  | nil => exact ⟨h, .refl _⟩
  | cons event events ih =>
    obtain ⟨hdown, hidle⟩ := h.happen event
    obtain ⟨hdown', hidle'⟩ := ih hdown
    exact ⟨hdown', hidle.trans hidle'⟩

end ShutDown

/-! ### What happens before a shutdown -/

/-- A store with loops sends its queue at shutdown or has none, and one without loops is shut
    down. -/
structure Stoppable (s : ResultStore) : Prop where
  sends : (∃ closed, s.engine.writes = .direct closed) ∨
    ∀ loops, s.supervisor = some loops → loops.closesQueue = true
  stopped : s.supervisor = none → s.ShutDown

theorem stoppable_start (backend : Backend) (options : Options) (now : Now) (clock : ManualClock) :
    (start backend options now clock).Stoppable := by
  refine ⟨?_, nofun⟩
  by_cases hzero : options.pipePeriod.isZero = true
  · exact .inl ⟨false, by rw [start, WritePath.select, if_pos hzero]⟩
  · refine .inr ?_
    rintro loops hloops
    obtain rfl := Option.some.inj hloops
    simp [startLoops, Supervisor.start, hzero]

/-- However the closing of the backend ends, the store is shut down. -/
theorem Stoppable.shutdown (h : s.Stoppable) : s.shutdown.1.ShutDown := by
  cases hloops : s.supervisor with
  | none =>
    have hdown := h.stopped hloops
    rw [hdown.shutdown]
    exact hdown
  | some loops =>
    have hwrites := congrArg Engine.writes (shutdown_engine hloops)
    refine ⟨?_, ?_, ?_⟩
    · rw [ResultStore.shutdown, hloops]
      dsimp only
      split <;> rfl
    · have hclosed : ∀ w : WritePath, w.close.isClosed = true := by
        intro w
        cases w <;> rfl
      rw [hwrites]
      exact hclosed _
    · rcases h.sends with hdirect | hcloses
      · obtain ⟨closed, hwrites'⟩ := Engine.kept_direct.shutdown hdirect
        rw [hwrites']
        rfl
      · exact waiting_shutdown hloops (hcloses loops hloops)

theorem Stoppable.happen (h : s.Stoppable) (event : StoreEvent) : (s.happen event).Stoppable := by
  cases event with
  | refuse calls =>
    refine ⟨h.sends, fun hloops => ?_⟩
    exact ((h.stopped hloops).happen (.refuse calls)).1
  | act a =>
    by_cases ha : a = .shutdown
    · subst ha
      have hdown := h.shutdown
      refine ⟨.inr ?_, fun _ => hdown⟩
      intro loops hloops
      rw [ResultStore.happen, perform, hdown.loops] at hloops
      cases hloops
    · have hshape : (s.perform a).supervisor.map Supervisor.shape
          = s.supervisor.map Supervisor.shape := congrArg Prod.snd (s.perform_frame ha)
      constructor
      · rcases h.sends with hdirect | hcloses
        · exact .inl (Engine.kept_direct.always hdirect [a])
        · refine .inr ?_
          intro loops hloops
          rw [ResultStore.happen] at hloops
          rw [hloops, Option.map_some, eq_comm, Option.map_eq_some_iff] at hshape
          obtain ⟨loops', hloops', hsame⟩ := hshape
          rw [← hcloses loops' hloops']
          exact (congrArg Prod.snd hsame).symm
      · intro hloops
        rw [ResultStore.happen] at hloops
        rw [hloops, Option.map_none, eq_comm, Option.map_eq_none_iff] at hshape
        exact ((h.stopped hshape).happen (.act a)).1

theorem Stoppable.undergo (h : s.Stoppable) (events : List StoreEvent) :
    (s.undergo events).Stoppable := by
  induction events generalizing s with
  | nil => exact h
  | cons event events ih => exact ih (h.happen event)

/-- Once a shutdown has returned, with or without the error of the closing, the store is inert: at
    every later moment all that writes fails as closed, a flush sends nothing, no tick and no
    further shutdown does anything, and time passes without ticks; and since the shutdown nothing
    was passed to `execute`, nothing was evicted or closed, and nothing was counted but failed
    purges. -/
theorem inert_after_shutdown (backend : Backend) (options : Options) (now : Now)
    (clock : ManualClock) (before after : List StoreEvent) :
    let s := ((start backend options now clock).undergo before).shutdown.1
    let t := s.undergo after
    (∀ id payload, t.set id payload = (t, .error (.store .closed))) ∧
      (∀ o id, t.record o id = (t, .error (.store .closed))) ∧
      (∀ id, t.deleteJob id = (t, .error (.store .closed))) ∧
      (∀ window, (t.purgeOlderThan window).2 = .error (.store .closed)) ∧
      (t.purgeMetadata.2
        = if options.metaExpiry.isZero then .ok none else .error (.store .closed)) ∧
      t.flush = (t, .ok 0) ∧
      t.pending = 0 ∧
      t.shutdown = (t, .ok ()) ∧
      (∀ instant, t.flusherTick instant = t ∧ t.purgerTick instant = t) ∧
      (∀ nanos, t.sleep nanos
        = { t with engine := t.engine.moveTo (t.engine.now.monotonic + nanos) }) ∧
      t.engine.gate.record = s.engine.gate.record ∧
      t.engine.gate.evictions = s.engine.gate.evictions ∧
      t.engine.gate.closings = s.engine.gate.closings ∧
      ∃ failures, t.engine.metrics = { s.engine.metrics with purgeFailures := failures } := by
  intro s t
  have hstopped : s.ShutDown :=
    ((stoppable_start backend options now clock).undergo before).shutdown
  obtain ⟨hdown, hidle⟩ := hstopped.undergo after
  have hoptions : t.options = options :=
    (s.undergo_options after).trans
      ((shutdown_options _).trans (undergo_options (start backend options now clock) before))
  have hmetadata := hdown.purgeMetadata
  rw [hoptions] at hmetadata
  exact ⟨fun _ _ => hdown.submit _ _, fun _ _ => hdown.submit _ _, hdown.deleteJob,
    fun window => congrArg Prod.snd (hdown.purgeOlderThan window), hmetadata, hdown.flush,
    hdown.pending, hdown.shutdown,
    fun instant => ⟨hdown.flusherTick instant, hdown.purgerTick instant⟩, hdown.sleep,
    hidle.record, hidle.evictions, hidle.closings, hidle.metrics⟩

end ResultStore

end JobResults
