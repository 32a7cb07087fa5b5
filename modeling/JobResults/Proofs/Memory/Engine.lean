import JobResults.Proofs.Memory.Store
import JobResults.Proofs.StoreRun

/-!
  # Engines on a store in memory

  A store in memory refuses nothing, so a step of its engine can do six things to what it holds
  and to what waits in the queue (`Change`).  `Engine.InMemory.step` says that these are all.
-/

namespace JobResults

/-- What one step does to a store in memory and to the commands that wait for it, with the commands
    that it submits and executes. -/
inductive Change (now : Instant) (closed : Bool) :
    Memory.Store → List Command → (submitted executed : List Command) →
      Memory.Store → List Command → Prop where
  | none (m : Memory.Store) (waiting : List Command) : Change now closed m waiting [] [] m waiting
  | evicted (m : Memory.Store) (waiting : List Command) :
    Change now closed m waiting [] [] (m.evict now).1 waiting
  | executed (m : Memory.Store) (waiting commands : List Command) :
    Change now closed m waiting [] commands (m.execute now commands) waiting
  | refused (m : Memory.Store) (waiting : List Command) (c : Command) (h : closed = true) :
    Change now closed m waiting [c] [] m waiting
  | written (m : Memory.Store) (c : Command) :
    Change now closed m [] [c] [] (m.execute now [c]) []
  | queued (m : Memory.Store) (waiting : List Command) (c : Command) :
    Change now closed m waiting [c] [] m (waiting ++ [c])
  | sent (m : Memory.Store) (waiting : List Command) :
    Change now closed m waiting [] [] (m.execute now waiting) []

theorem Change.wellFormed {now : Instant} {closed : Bool} {m m' : Memory.Store}
    {waiting waiting' submitted executed : List Command}
    (hchange : Change now closed m waiting submitted executed m' waiting') (h : m.WellFormed) :
    m'.WellFormed := by
  cases hchange with
  | none => exact h
  | evicted => exact h
  | executed => exact (h.execute now executed).1
  | refused => exact h
  | written c => exact (h.execute now [c]).1
  | queued => exact h
  | sent => exact (h.execute now waiting).1

/-- The engine of a store in memory, which refuses nothing. -/
structure Engine.InMemory (e : Engine) (m : Memory.Store) : Prop where
  backend : e.gate.backend = .memory m
  unrefused : e.gate.refusals = []

namespace Engine.InMemory

variable {e : Engine} {m : Memory.Store}

theorem call (h : e.InMemory m) (c : StoreCall) :
    ∃ gate, e.call c = ({ e with gate := gate }, .ok (m.answer e.now.monotonic c).2) ∧
      ({ e with gate := gate } : Engine).InMemory (m.answer e.now.monotonic c).1 := by
  obtain ⟨gate, hcall, hbackend, hrefusals⟩ := call_of_unrefused h.unrefused c
  rw [h.backend] at hcall hbackend
  exact ⟨gate, hcall, hbackend, hrefusals⟩

theorem close (h : e.InMemory m) : ({ e with writes := e.writes.close } : Engine).InMemory m :=
  ⟨h.backend, h.unrefused⟩

theorem execute (h : e.InMemory m) (commands : List Command) :
    ∃ gate, e.execute commands = ({ e with gate := gate }, .ok ()) ∧
      ({ e with gate := gate } : Engine).InMemory (m.execute e.now.monotonic commands) := by
  obtain ⟨gate, hcall, hmemory⟩ := h.call (.execute commands)
  refine ⟨gate, ?_, hmemory⟩
  rw [Engine.execute, hcall]
  rfl

theorem submit (h : e.InMemory m) (c : Command) :
    ∃ m', (e.submit c).1.InMemory m' ∧
      Change e.now.monotonic e.writes.isClosed m e.writes.waiting [c] []
        m' (e.submit c).1.writes.waiting := by
  rcases e.submit_cases c with ⟨hclosed, hsubmit⟩ | ⟨hwrites, hsubmit⟩ | ⟨queue, hwrites, hsubmit⟩
  · rw [hsubmit]
    exact ⟨m, h, .refused m _ c hclosed⟩
  · obtain ⟨gate, hexecute, hmemory⟩ := h.execute [c]
    rw [hsubmit, hexecute, hwrites]
    exact ⟨_, ⟨hmemory.backend, hmemory.unrefused⟩, .written m c⟩
  · rw [hsubmit, hwrites]
    exact ⟨m, ⟨h.backend, h.unrefused⟩, .queued m queue c⟩

theorem sendQueue (h : e.InMemory m) :
    ∃ m', e.sendQueue.1.InMemory m' ∧
      Change e.now.monotonic e.writes.isClosed m e.writes.waiting [] []
        m' e.sendQueue.1.writes.waiting := by
  rcases e.sendQueue_cases with ⟨-, hsend⟩ | ⟨p, -, hwrites, hsend⟩
  · rw [hsend]
    exact ⟨m, h, .none m _⟩
  · obtain ⟨gate, hexecute, hmemory⟩ := h.execute p.queue
    rw [hsend, hexecute, hwrites]
    exact ⟨_, ⟨hmemory.backend, hmemory.unrefused⟩, .sent m p.queue⟩

/-- Every step is one of the changes. -/
theorem step (h : e.InMemory m) (s : Step) :
    ∃ m', (e.step s).InMemory m' ∧
      Change e.now.monotonic e.writes.isClosed m e.writes.waiting s.submitted s.executed
        m' (e.step s).writes.waiting := by
  cases s with
  | call c =>
    obtain ⟨gate, hcall, hmemory⟩ := h.call c
    refine ⟨_, by rw [Engine.step, hcall]; exact hmemory, ?_⟩
    cases c with
    | get key => exact .none m _
    | range key min max => exact .none m _
    | execute commands => exact .executed m _ commands
    | ping => exact .none m _
    | evict => exact .evicted m _
    | close => exact .none m _
  | submit c => exact h.submit c
  | send => exact h.sendQueue
  | moveTo instant => exact ⟨m, ⟨h.backend, h.unrefused⟩, .none m _⟩
  | count f => exact ⟨m, ⟨h.backend, h.unrefused⟩, .none m _⟩

/-- Whatever is written, a store in memory stays well-formed. -/
theorem kept_wellFormed :
    Kept (fun _ => True) fun e => ∃ m, e.InMemory m ∧ m.WellFormed where
  step := by
    rintro e s ⟨m, hmemory, hwell⟩ - -
    obtain ⟨m', hmemory', hchange⟩ := hmemory.step s
    exact ⟨m', hmemory', hchange.wellFormed hwell⟩
  setClock := by
    rintro e clock ⟨m, hmemory, hwell⟩
    exact ⟨m, ⟨hmemory.backend, hmemory.unrefused⟩, hwell⟩
  close := by
    rintro e ⟨m, hmemory, hwell⟩
    exact ⟨m, hmemory.close, hwell⟩

end Engine.InMemory

/-! ### Reading -/

namespace ResultStore

variable {s : ResultStore} {m : Memory.Store}

theorem get_inMemory (h : s.engine.InMemory m) (id : String) :
    (s.get id).2
      = (m.get s.engine.now.monotonic (resultKey id)).elim (.error (.notFound id)) .ok := by
  obtain ⟨gate, hcall, -⟩ := h.call (.get (resultKey id))
  rw [get, hcall, Memory.Store.answer]
  cases m.get s.engine.now.monotonic (resultKey id) <;> rfl

theorem list_inMemory (h : s.engine.InMemory m) (o : Outcome) :
    (s.list o).2 = .ok (m.range o.indexKey 0 s.engine.clock.now) := by
  obtain ⟨gate, hcall, -⟩ := h.call (.range o.indexKey 0 s.engine.clock.now)
  rw [list, hcall]
  rfl

end ResultStore

end JobResults
