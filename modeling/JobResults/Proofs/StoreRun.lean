import JobResults.Proofs.Engine
import JobResults.Proofs.JobSystem

/-!
  # Runs of a store in any way of writing

  A run is a list of actions: those of callers, flushes, ticks of both loops, and shutdowns.  All
  that any of them does to the engine is made of five elementary steps (`Engine.Step`), apart from
  setting the clock and from closing.  `ResultStore.perform_moves` takes every action apart once,
  and says which commands it submits and which it passes to the backend at once.  So a property of
  engines that every step keeps is kept by every run (`Engine.Kept.run`).
-/

namespace JobResults

/-! ### Elementary steps -/

inductive Engine.Step where
  | call (c : StoreCall)
  | submit (c : Command)
  | send
  | moveTo (instant : Instant)
  | count (f : Metrics → Metrics)

namespace Engine

def Step.submitted : Step → List Command
  | .submit c => [c]
  | _ => []

/-- The commands that go to the backend at once, whatever the way of writing. -/
def Step.executed : Step → List Command
  | .call (.execute commands) => commands
  | _ => []

def step (e : Engine) : Step → Engine
  | .call c => (e.call c).1
  | .submit c => (e.submit c).1
  | .send => e.sendQueue.1
  | .moveTo instant => e.moveTo instant
  | .count f => e.count f

/-- Steps from one engine to another, with the commands that they submit and execute. -/
inductive Moves : (start : Engine) → (submitted executed : List Command) → Engine → Prop where
  | refl (e : Engine) : Moves e [] [] e
  | step {e e' : Engine} {submitted executed : List Command} (s : Step)
      (h : Moves (e.step s) submitted executed e') :
      Moves e (s.submitted ++ submitted) (s.executed ++ executed) e'

theorem Moves.trans {e e' e'' : Engine} {submitted executed submitted' executed' : List Command}
    (h : e.Moves submitted executed e') (h' : e'.Moves submitted' executed' e'') :
    e.Moves (submitted ++ submitted') (executed ++ executed') e'' := by
  induction h with
  | refl => exact h'
  | step s _ ih =>
    rw [List.append_assoc, List.append_assoc]
    exact .step s (ih h')

/-! ### What no step changes -/

theorem submit_frame (e : Engine) (c : Command) :
    (e.submit c).1.clock = e.clock ∧ (e.submit c).1.writes.isClosed = e.writes.isClosed := by
  rcases e.submit_cases c with ⟨-, hsubmit⟩ | ⟨-, hsubmit⟩ | ⟨queue, hwrites, hsubmit⟩
  · rw [hsubmit]
    exact ⟨rfl, rfl⟩
  · rw [hsubmit]
    exact ⟨rfl, rfl⟩
  · rw [hsubmit, hwrites]
    exact ⟨rfl, rfl⟩

theorem sendQueue_frame (e : Engine) :
    e.sendQueue.1.clock = e.clock ∧ e.sendQueue.1.writes.isClosed = e.writes.isClosed := by
  rcases e.sendQueue_cases with ⟨-, hsend⟩ | ⟨p, -, hwrites, hsend⟩
  · rw [hsend]
    exact ⟨rfl, rfl⟩
  · rw [hsend, hwrites]
    exact ⟨rfl, rfl⟩

theorem step_frame (e : Engine) (s : Step) :
    (e.step s).clock = e.clock ∧ (e.step s).writes.isClosed = e.writes.isClosed := by
  cases s with
  | call c => exact ⟨rfl, rfl⟩
  | submit c => exact e.submit_frame c
  | send => exact e.sendQueue_frame
  | moveTo instant => exact ⟨rfl, rfl⟩
  | count f => exact ⟨rfl, rfl⟩

theorem Moves.frame {e e' : Engine} {submitted executed : List Command}
    (h : e.Moves submitted executed e') :
    e'.clock = e.clock ∧ e'.writes.isClosed = e.writes.isClosed := by
  induction h with
  | refl => exact ⟨rfl, rfl⟩
  | step s _ ih =>
    obtain ⟨hclock, hclosed⟩ := step_frame _ s
    exact ⟨ih.1.trans hclock, ih.2.trans hclosed⟩

/-! ### Flushes and purges -/

theorem flush_moves (e : Engine) : e.Moves [] [] e.flush := by
  obtain ⟨metrics, hflush⟩ := e.flush_eq
  rw [hflush]
  exact .step .send (.step (.count fun _ => metrics) (.refl _))

theorem evict_fst (e : Engine) : e.evict.1 = e.step (.call .evict) := by
  rw [evict, step]
  split <;> next hcall => rw [hcall]

theorem purge_moves (e : Engine) (window : Duration) :
    e.Moves (removals (e.cutoff window)) [] (e.purge window).1 := by
  rcases hfailed : e.trim .failed (e.cutoff window) with ⟨e₁, failed⟩
  rcases hsuccess : e₁.trim .success (e.cutoff window) with ⟨e₂, success⟩
  have htrims : ∀ e', e₂.Moves [] [] e' → e.Moves (removals (e.cutoff window)) [] e' := by
    intro e' hrest
    obtain rfl : (e.trim .failed (e.cutoff window)).1 = e₁ := by rw [hfailed]
    obtain rfl : (Engine.trim _ .success (e.cutoff window)).1 = e₂ := by rw [hsuccess]
    exact .step (.submit _) (.step (.submit _) hrest)
  apply htrims
  -- what comes after the removals: a failure, or an eviction, and a counter
  simp only [purge, hfailed, hsuccess]
  cases failed with
  | error err => exact .step (.count _) (.refl _)
  | ok _ =>
    cases success with
    | error err => exact .step (.count _) (.refl _)
    | ok _ =>
      have hevict := e₂.evict_fst
      rcases he : e₂.evict with ⟨e₃, evicted⟩
      rw [he] at hevict
      subst hevict
      cases evicted with
      | error err => exact .step (.call .evict) (.step (.count _) (.refl _))
      | ok n => exact .step (.call .evict) (.step (.count _) (.refl _))

end Engine

/-! ### Ticks -/

def Loop.isRunning : Loop → Bool
  | running _ => true
  | _ => false

/-- Removals, and those only of a purger that is running. -/
structure FromPurger (running : Bool) (commands : List Command) : Prop where
  removals : ∀ c ∈ commands, ∃ cutoff, c ∈ removals cutoff
  none : running = false → commands = []

theorem FromPurger.nil (running : Bool) : FromPurger running [] := ⟨nofun, fun _ => rfl⟩

theorem FromPurger.append {running : Bool} {commands commands' : List Command}
    (h : FromPurger running commands) (h' : FromPurger running commands') :
    FromPurger running (commands ++ commands') := by
  constructor
  · intro c hc
    rw [List.mem_append] at hc
    exact hc.elim (h.removals c) (h'.removals c)
  · intro hstopped
    rw [h.none hstopped, h'.none hstopped]
    rfl

theorem fromPurger_removals (cutoff : Score) : FromPurger true (removals cutoff) :=
  ⟨fun _ hc => ⟨cutoff, hc⟩, nofun⟩

namespace Supervisor

/-- What never changes about loops: whether the purger runs, and whether the queue is closed at the
    end. -/
def shape (s : Supervisor) : Bool × Bool := (s.purger.isRunning, s.closesQueue)

theorem isRunning_next (l : Loop) (now : Instant) : (l.next now).isRunning = l.isRunning := by
  cases l <;> rfl

theorem nextTick?_purger {s : Supervisor} {target instant : Instant}
    (h : s.nextTick? target = some (.purger instant)) : s.purger.isRunning = true := by
  cases hpurger : s.purger with
  | running ticker => rfl
  | absent =>
    simp only [nextTick?, hpurger, Loop.due?] at h
    split at h <;> simp_all
  | dead =>
    simp only [nextTick?, hpurger, Loop.due?] at h
    split at h <;> simp_all

theorem runTick_shape (e : Engine) (s : Supervisor) (tick : Tick) :
    (runTick e s tick).2.shape = s.shape := by
  cases tick with
  | flusher instant => rfl
  | purger instant => simp only [runTick, shape, isRunning_next]

theorem flusherTick_moves (e : Engine) : e.Moves [] [] e.flusherTick := by
  unfold Engine.flusherTick
  split
  · exact .refl e
  · exact e.flush_moves

theorem runTick_moves (e : Engine) (s : Supervisor) {tick : Tick} {running : Bool}
    (hpurger : ∀ instant, tick = .purger instant → running = true) :
    ∃ ticked, e.Moves ticked [] (runTick e s tick).1 ∧ FromPurger running ticked := by
  cases tick with
  | flusher instant => exact ⟨[], .step (.moveTo _) (flusherTick_moves _), .nil running⟩
  | purger instant =>
    rw [hpurger instant rfl]
    exact ⟨_, .step (.moveTo _) (Engine.purge_moves _ s.window), fromPurger_removals _⟩

theorem runTicks_moves (target : Instant) (count : Nat) (e : Engine) (s : Supervisor) :
    (runTicks target count e s).2.shape = s.shape ∧
      ∃ ticked, e.Moves ticked [] (runTicks target count e s).1 ∧
        FromPurger s.purger.isRunning ticked := by
  induction count generalizing e s with
  | zero => exact ⟨rfl, [], .refl e, .nil _⟩
  | succ count ih =>
    rw [runTicks]
    cases hnext : s.nextTick? target with
    | none => exact ⟨rfl, [], .refl e, .nil _⟩
    | some tick =>
      have hpurger : ∀ instant, tick = .purger instant → s.purger.isRunning = true := by
        rintro instant rfl
        exact nextTick?_purger hnext
      -- a tick leaves the loops as they are, so later ticks come from the same purger
      obtain ⟨first, hfirst, hfrom⟩ := runTick_moves e s hpurger
      obtain ⟨hshape, rest, hrest, hfrom'⟩ := ih (runTick e s tick).1 (runTick e s tick).2
      have hsame := runTick_shape e s tick
      have hrunning : (runTick e s tick).2.purger.isRunning = s.purger.isRunning :=
        congrArg Prod.fst hsame
      rw [hrunning] at hfrom'
      exact ⟨hshape.trans hsame, first ++ rest, hfirst.trans hrest, hfrom.append hfrom'⟩

theorem sleepUntil_moves (e : Engine) (s : Supervisor) (target : Instant) :
    (sleepUntil e s target).2.shape = s.shape ∧
      ∃ ticked, e.Moves ticked [] (sleepUntil e s target).1 ∧
        FromPurger s.purger.isRunning ticked := by
  obtain ⟨hshape, ticked, hmoves, hfrom⟩ :=
    runTicks_moves target (s.flusher.ticksUntil target + s.purger.ticksUntil target) e s
  refine ⟨hshape, ticked, ?_, hfrom⟩
  have hmoves' : e.Moves (ticked ++ []) [] (sleepUntil e s target).1 :=
    hmoves.trans (.step (.moveTo target) (.refl _))
  rw [List.append_nil] at hmoves'
  exact hmoves'

theorem stopFlusher_moves (e : Engine) (s : Supervisor) : e.Moves [] [] (stopFlusher e s) := by
  unfold stopFlusher
  split
  · exact e.flush_moves
  · exact .refl e

end Supervisor

/-! ### Actions -/

inductive StoreAction where
  | job (a : JobAction)
  | flush
  /-- A running flusher ticks at an instant, be it due or not. -/
  | flusherTick (instant : Instant)
  | healthCheck
  | shutdown
  deriving DecidableEq, Repr

namespace StoreAction

/-- What a caller submits with an action, by the options of the store and the score clock. -/
def commands (options : Options) (clock : Score) : StoreAction → List Command
  | .job (.set id payload) =>
    [.set (resultKey id) payload (ResultStore.positive? options.expiry)]
  | .job (.record o id) => [.rank o.indexKey id clock]
  | .job .purgeMetadata =>
    if options.metaExpiry.isZero then []
    else removals (clock.subSaturating options.metaExpiry.signedNanos)
  | .job (.purgeOlderThan window) => removals (clock.subSaturating window.signedNanos)
  | _ => []

/-- The reading of the score clock after an action. -/
def reading (clock : Score) : StoreAction → Score
  | .job (.setClock reading) => reading
  | _ => clock

/-- What an action may execute at once. -/
def deletions : StoreAction → List Command
  | .job (.delete id) => ResultStore.deletion id
  | _ => []

end StoreAction

namespace ResultStore

def flusherTick (s : ResultStore) (instant : Instant) : ResultStore :=
  match s.supervisor with
  | some ⟨.running ticker, purger, window, closesQueue⟩ =>
    let (e, supervisor) :=
      Supervisor.runTick s.engine ⟨.running ticker, purger, window, closesQueue⟩ (.flusher instant)
    { s with engine := e, supervisor := some supervisor }
  | _ => s

def perform (s : ResultStore) : StoreAction → ResultStore
  | .job a => (s.act a).1
  | .flush => s.flush.1
  | .flusherTick instant => s.flusherTick instant
  | .healthCheck => s.healthCheck.1
  | .shutdown => s.shutdown.1

def run (s : ResultStore) (actions : List StoreAction) : ResultStore := actions.foldl perform s

def hasPurger (s : ResultStore) : Bool := s.supervisor.any (·.purger.isRunning)

end ResultStore

/-- An action, or a change of the calls that the backend refuses from now on. -/
inductive StoreEvent where
  | act (a : StoreAction)
  | refuse (calls : List Refusal)
  deriving DecidableEq, Repr

def Engine.refuse (e : Engine) (calls : List Refusal) : Engine :=
  { e with gate := { e.gate with refusals := calls } }

namespace ResultStore

def happen (s : ResultStore) : StoreEvent → ResultStore
  | .act a => s.perform a
  | .refuse calls => { s with engine := s.engine.refuse calls }

def undergo (s : ResultStore) (events : List StoreEvent) : ResultStore := events.foldl happen s

/-! ### What an action does -/

theorem submit_moves (s : ResultStore) (c : Command) (counted : Metrics → Metrics) :
    s.engine.Moves [c] [] (s.submit c counted).1.engine := by
  have hstep : s.engine.step (.submit c) = (s.engine.submit c).1 := rfl
  rw [submit]
  split
  · next e _ hsubmit =>
    rw [hsubmit] at hstep
    refine .step (.submit c) ?_
    rw [hstep]
    exact .step (.count counted) (.refl _)
  · next e _ hsubmit =>
    rw [hsubmit] at hstep
    refine .step (.submit c) ?_
    rw [hstep]
    exact .refl _

theorem deleteJob_moves (s : ResultStore) (id : String) :
    ∃ executed, s.engine.Moves [] executed (s.deleteJob id).1.engine ∧
      executed ⊆ deletion id := by
  have hstep : s.engine.step (.call (.execute (deletion id)))
      = (s.engine.execute (deletion id)).1 := rfl
  rw [deleteJob]
  split
  · exact ⟨[], .refl _, List.nil_subset _⟩
  · refine ⟨deletion id ++ [], .step (.call (.execute (deletion id))) ?_, by simp⟩
    rw [hstep]
    split
    · next hexecute =>
      rw [hexecute]
      exact .step (.count _) (.refl _)
    · next hexecute =>
      rw [hexecute]
      exact .refl _

theorem get_engine (s : ResultStore) (id : String) :
    (s.get id).1.engine = s.engine.step (.call (.get (resultKey id))) := by
  rw [get, Engine.step]
  split <;> next hcall => rw [hcall]

theorem list_engine (s : ResultStore) (o : Outcome) :
    (s.list o).1.engine = s.engine.step (.call (.range o.indexKey 0 s.engine.clock.now)) := by
  rw [list, Engine.step]
  split <;> next hcall => rw [hcall]

theorem healthCheck_engine (s : ResultStore) :
    s.healthCheck.1.engine = s.engine.step (.call .ping) := by
  rw [healthCheck, Engine.step]
  split <;> next hcall => rw [hcall]

theorem purgeMetadata_moves (s : ResultStore) :
    s.engine.Moves ((StoreAction.job .purgeMetadata).commands s.options s.engine.clock.now) []
      s.purgeMetadata.1.engine := by
  unfold StoreAction.commands purgeMetadata
  by_cases hzero : s.options.metaExpiry.isZero = true
  · rw [if_pos hzero, if_pos hzero]
    exact .refl _
  · rw [if_neg hzero, if_neg hzero]
    exact s.engine.purge_moves s.options.metaExpiry

theorem sleep_moves (s : ResultStore) (nanos : Nat) :
    ∃ ticked, s.engine.Moves ticked [] (s.sleep nanos).engine ∧ FromPurger s.hasPurger ticked := by
  unfold sleep hasPurger
  cases s.supervisor with
  | none => exact ⟨[], .step (.moveTo _) (.refl _), .nil _⟩
  | some loops =>
    exact (Supervisor.sleepUntil_moves s.engine loops (s.engine.now.monotonic + nanos)).2

theorem purgerTick_moves (s : ResultStore) (instant : Instant) :
    ∃ ticked, s.engine.Moves ticked [] (s.purgerTick instant).engine ∧
      FromPurger s.hasPurger ticked := by
  unfold purgerTick hasPurger
  split
  · next flusher ticker window closesQueue hloops =>
    rw [hloops]
    exact Supervisor.runTick_moves s.engine _ fun _ _ => rfl
  · exact ⟨[], .refl _, .nil _⟩

theorem flusherTick_moves (s : ResultStore) (instant : Instant) :
    s.engine.Moves [] [] (s.flusherTick instant).engine := by
  unfold flusherTick
  split
  · exact .step (.moveTo _) (Supervisor.flusherTick_moves _)
  · exact .refl _

/-- What an action submits is what its caller does, and then what the purger does. -/
theorem perform_moves (s : ResultStore) {a : StoreAction}
    (hclock : ∀ reading, a ≠ .job (.setClock reading)) (hshutdown : a ≠ .shutdown) :
    ∃ ticked executed,
      s.engine.Moves (a.commands s.options s.engine.clock.now ++ ticked) executed
        (s.perform a).engine ∧
      FromPurger s.hasPurger ticked ∧ executed ⊆ a.deletions := by
  have hcaller : ∀ {a : StoreAction} {e : Engine},
      s.engine.Moves (a.commands s.options s.engine.clock.now) [] e →
        ∃ ticked executed,
          s.engine.Moves (a.commands s.options s.engine.clock.now ++ ticked) executed e ∧
          FromPurger s.hasPurger ticked ∧ executed ⊆ a.deletions := by
    intro a e h
    refine ⟨[], [], ?_, .nil _, List.nil_subset _⟩
    rw [List.append_nil]
    exact h
  cases a with
  | job a =>
    cases a with
    | set id payload => exact hcaller (s.submit_moves _ _)
    | record o id => exact hcaller (s.submit_moves _ _)
    | get id =>
      refine hcaller ?_
      rw [perform, act, reply, get_engine]
      exact .step (.call (.get (resultKey id))) (.refl _)
    | list o =>
      refine hcaller ?_
      rw [perform, act, reply, list_engine]
      exact .step (.call (.range o.indexKey 0 s.engine.clock.now)) (.refl _)
    | delete id =>
      obtain ⟨executed, hmoves, hdeletion⟩ := s.deleteJob_moves id
      exact ⟨[], executed, hmoves, .nil _, hdeletion⟩
    | purgeMetadata => exact hcaller s.purgeMetadata_moves
    | purgeOlderThan window => exact hcaller (s.engine.purge_moves window)
    | setClock reading => exact absurd rfl (hclock reading)
    | sleep nanos =>
      obtain ⟨ticked, hmoves, hfrom⟩ := s.sleep_moves nanos
      exact ⟨ticked, [], hmoves, hfrom, List.nil_subset _⟩
    | tick instant =>
      obtain ⟨ticked, hmoves, hfrom⟩ := s.purgerTick_moves instant
      exact ⟨ticked, [], hmoves, hfrom, List.nil_subset _⟩
  | flush => exact hcaller (.step .send (.refl _))
  | flusherTick instant => exact hcaller (s.flusherTick_moves instant)
  | healthCheck =>
    refine hcaller ?_
    rw [perform, healthCheck_engine]
    exact .step (.call .ping) (.refl _)
  | shutdown => exact absurd rfl hshutdown

/-- Until the shutdown the score clock moves only by its settings, and no store closes. -/
theorem perform_clock (s : ResultStore) {a : StoreAction} (hshutdown : a ≠ .shutdown) :
    (s.perform a).engine.clock.now = a.reading s.engine.clock.now ∧
      (s.perform a).engine.writes.isClosed = s.engine.writes.isClosed := by
  by_cases hclock : ∃ reading, a = .job (.setClock reading)
  · obtain ⟨reading, rfl⟩ := hclock
    exact ⟨rfl, rfl⟩
  · obtain ⟨ticked, executed, hmoves, -, -⟩ :=
      s.perform_moves (fun reading heq => hclock ⟨reading, heq⟩) hshutdown
    have hreading : a.reading s.engine.clock.now = s.engine.clock.now := by
      unfold StoreAction.reading
      split
      · exact absurd ⟨_, rfl⟩ hclock
      · rfl
    rw [hreading, hmoves.frame.1]
    exact ⟨rfl, hmoves.frame.2⟩

theorem shutdown_engine {s : ResultStore} {loops : Supervisor} (h : s.supervisor = some loops) :
    s.shutdown.1.engine
      = Engine.step { loops.shutdown s.engine with
          writes := (loops.shutdown s.engine).writes.close } (.call .close) := by
  rw [shutdown, h, Engine.step]
  dsimp only
  split <;> next hcall => rw [hcall]

/-! ### What no action changes -/

/-- The options of a store, and what stays the same about its loops. -/
def frame (s : ResultStore) : Options × Option (Bool × Bool) :=
  (s.options, s.supervisor.map Supervisor.shape)

theorem submit_frame (s : ResultStore) (c : Command) (counted : Metrics → Metrics) :
    (s.submit c counted).1.frame = s.frame := by
  unfold submit
  split <;> rfl

theorem deleteJob_frame (s : ResultStore) (id : String) : (s.deleteJob id).1.frame = s.frame := by
  unfold deleteJob
  split
  · rfl
  · split <;> rfl

theorem get_frame (s : ResultStore) (id : String) : (s.get id).1.frame = s.frame := by
  unfold get
  split <;> rfl

theorem list_frame (s : ResultStore) (o : Outcome) : (s.list o).1.frame = s.frame := by
  unfold list
  split <;> rfl

theorem healthCheck_frame (s : ResultStore) : s.healthCheck.1.frame = s.frame := by
  unfold healthCheck
  split <;> rfl

theorem purgeMetadata_frame (s : ResultStore) : s.purgeMetadata.1.frame = s.frame := by
  unfold purgeMetadata
  split <;> rfl

theorem sleep_frame (s : ResultStore) (nanos : Nat) : (s.sleep nanos).frame = s.frame := by
  unfold sleep frame
  cases s.supervisor with
  | none => rfl
  | some loops =>
    have hshape := (loops.sleepUntil_moves s.engine (s.engine.now.monotonic + nanos)).1
    exact congrArg (fun shape => (s.options, some shape)) hshape

theorem purgerTick_frame (s : ResultStore) (instant : Instant) :
    (s.purgerTick instant).frame = s.frame := by
  unfold purgerTick frame
  split
  · next hloops =>
    rw [hloops]
    exact congrArg (fun shape => (s.options, some shape)) (Supervisor.runTick_shape _ _ _)
  · rfl

theorem flusherTick_frame (s : ResultStore) (instant : Instant) :
    (s.flusherTick instant).frame = s.frame := by
  unfold flusherTick frame
  split
  · next hloops =>
    rw [hloops]
    exact congrArg (fun shape => (s.options, some shape)) (Supervisor.runTick_shape _ _ _)
  · rfl

theorem perform_frame (s : ResultStore) {a : StoreAction} (h : a ≠ .shutdown) :
    (s.perform a).frame = s.frame := by
  cases a with
  | job a =>
    cases a with
    | set id payload => exact s.submit_frame _ _
    | record o id => exact s.submit_frame _ _
    | get id => exact s.get_frame id
    | list o => exact s.list_frame o
    | delete id => exact s.deleteJob_frame id
    | purgeMetadata => exact s.purgeMetadata_frame
    | purgeOlderThan window => rfl
    | setClock reading => rfl
    | sleep nanos => exact s.sleep_frame nanos
    | tick instant => exact s.purgerTick_frame instant
  | flush => rfl
  | flusherTick instant => exact s.flusherTick_frame instant
  | healthCheck => exact s.healthCheck_frame
  | shutdown => exact absurd rfl h

theorem shutdown_options (s : ResultStore) : s.shutdown.1.options = s.options := by
  unfold shutdown
  split
  · rfl
  · dsimp only
    split <;> rfl

theorem happen_options (s : ResultStore) (event : StoreEvent) :
    (s.happen event).options = s.options := by
  cases event with
  | act a =>
    by_cases ha : a = .shutdown
    · rw [ha]
      exact s.shutdown_options
    · exact congrArg Prod.fst (s.perform_frame ha)
  | refuse calls => rfl

theorem undergo_options (s : ResultStore) (events : List StoreEvent) :
    (s.undergo events).options = s.options := by
  induction events generalizing s with
  | nil => rfl
  | cons event events ih => exact (ih _).trans (s.happen_options event)

end ResultStore

/-! ### Invariants -/

/-- A property that a step keeps if it writes only what is allowed, and that setting the clock and
    closing keep. -/
structure Engine.Kept (allowed : Command → Prop) (P : Engine → Prop) : Prop where
  step : ∀ {e : Engine} (s : Step), P e → (∀ c ∈ s.submitted, allowed c) →
    (∀ c ∈ s.executed, allowed c) → P (e.step s)
  setClock : ∀ {e : Engine} (clock : ManualClock), P e → P { e with clock := clock }
  close : ∀ {e : Engine}, P e → P { e with writes := e.writes.close }

namespace Engine.Kept

variable {allowed : Command → Prop} {P : Engine → Prop}

theorem moves (h : Kept allowed P) {e e' : Engine} {submitted executed : List Command}
    (hmoves : e.Moves submitted executed e') (hsubmitted : ∀ c ∈ submitted, allowed c)
    (hexecuted : ∀ c ∈ executed, allowed c) (he : P e) : P e' := by
  induction hmoves with
  | refl => exact he
  | step s _ ih =>
    rw [List.forall_mem_append] at hsubmitted hexecuted
    exact ih hsubmitted.2 hexecuted.2 (h.step s he hsubmitted.1 hexecuted.1)

/-- A shutdown takes turns between steps that write nothing new and closing. -/
theorem shutdown (h : Kept allowed P) {s : ResultStore} (hs : P s.engine) :
    P s.shutdown.1.engine := by
  have hquiet : ∀ {e e' : Engine}, e.Moves [] [] e' → P e → P e' :=
    fun hmoves => h.moves hmoves nofun nofun
  cases hloops : s.supervisor with
  | none =>
    rw [ResultStore.shutdown, hloops]
    exact hs
  | some loops =>
    have hstopped : P (Supervisor.stopFlusher s.engine loops) :=
      hquiet (Supervisor.stopFlusher_moves s.engine loops) hs
    have hended : P (Supervisor.shutdown s.engine loops) := by
      unfold Supervisor.shutdown
      dsimp only
      split
      · unfold Supervisor.closeQueue
        dsimp only
        split
        · exact h.close hstopped
        · exact hquiet (.step .send (.refl _)) (h.close hstopped)
      · exact hstopped
    rw [ResultStore.shutdown_engine hloops]
    exact hquiet (.step (.call .close) (.refl _)) (h.close hended)

/-- Every action keeps the property if what it writes is allowed, removals included. -/
theorem perform (h : Kept allowed P) (hremovals : ∀ cutoff, ∀ c ∈ removals cutoff, allowed c)
    {s : ResultStore} {a : StoreAction}
    (hcommands : ∀ c ∈ a.commands s.options s.engine.clock.now, allowed c)
    (hdeletions : ∀ c ∈ a.deletions, allowed c) (hs : P s.engine) : P (s.perform a).engine := by
  by_cases hclock : ∃ reading, a = .job (.setClock reading)
  · obtain ⟨reading, rfl⟩ := hclock
    exact h.setClock _ hs
  · by_cases hshutdown : a = .shutdown
    · subst hshutdown
      exact h.shutdown hs
    · obtain ⟨ticked, executed, hmoves, hfrom, hexecuted⟩ :=
        s.perform_moves (fun reading heq => hclock ⟨reading, heq⟩) hshutdown
      refine h.moves hmoves ?_ (fun c hc => hdeletions c (hexecuted hc)) hs
      rw [List.forall_mem_append]
      refine ⟨hcommands, ?_⟩
      intro c hc
      obtain ⟨cutoff, hremoval⟩ := hfrom.removals c hc
      exact hremovals cutoff c hremoval

theorem run (h : Kept allowed P) (hremovals : ∀ cutoff, ∀ c ∈ removals cutoff, allowed c)
    {actions : List StoreAction}
    (hcommands : ∀ a ∈ actions, ∀ options clock, ∀ c ∈ a.commands options clock, allowed c)
    (hdeletions : ∀ a ∈ actions, ∀ c ∈ a.deletions, allowed c) {s : ResultStore}
    (hs : P s.engine) : P (s.run actions).engine := by
  induction actions generalizing s with
  | nil => exact hs
  | cons a actions ih =>
    rw [List.forall_mem_cons] at hcommands hdeletions
    exact ih hcommands.2 hdeletions.2 (h.perform hremovals (hcommands.1 _ _) hdeletions.1 hs)

theorem always (h : Kept (fun _ => True) P) {s : ResultStore} (hs : P s.engine)
    (actions : List StoreAction) : P (s.run actions).engine :=
  h.run (fun _ _ _ => trivial) (fun _ _ _ _ _ _ => trivial) (fun _ _ _ _ => trivial) hs

end Engine.Kept

/-! ### What waits -/

theorem Engine.kept_direct :
    Engine.Kept (fun _ => True) fun e => ∃ closed, e.writes = .direct closed where
  step := by
    rintro e s ⟨closed, hwrites⟩ - -
    cases s with
    | call c => exact ⟨closed, hwrites⟩
    | submit c =>
      rcases e.submit_cases c with ⟨-, hsubmit⟩ | ⟨-, hsubmit⟩ | ⟨queue, hbatched, -⟩
      · exact ⟨closed, by rw [Engine.step, hsubmit]; exact hwrites⟩
      · exact ⟨closed, by rw [Engine.step, hsubmit]; exact hwrites⟩
      · rw [hbatched] at hwrites
        cases hwrites
    | send =>
      rcases e.sendQueue_cases with ⟨-, hsend⟩ | ⟨p, -, hbatched, -⟩
      · exact ⟨closed, by rw [Engine.step, hsend]; exact hwrites⟩
      · rw [hbatched] at hwrites
        cases hwrites
    | moveTo instant => exact ⟨closed, hwrites⟩
    | count f => exact ⟨closed, hwrites⟩
  setClock := by
    rintro e clock ⟨closed, hwrites⟩
    exact ⟨closed, hwrites⟩
  close := by
    rintro e ⟨closed, hwrites⟩
    exact ⟨true, by rw [hwrites]; rfl⟩

theorem ResultStore.waiting_shutdown {s : ResultStore} {loops : Supervisor}
    (h : s.supervisor = some loops) (hcloses : loops.closesQueue = true) :
    s.shutdown.1.engine.writes.waiting = [] := by
  have hclose : ∀ e, (Supervisor.closeQueue e).writes.waiting = [] := by
    intro e
    unfold Supervisor.closeQueue
    dsimp only
    split
    · next hpending =>
      rw [WritePath.pending_eq] at hpending
      exact List.eq_nil_of_length_eq_zero hpending
    · exact Engine.waiting_sendQueue _
  have hended : (loops.shutdown s.engine).writes.waiting = [] := by
    rw [Supervisor.shutdown, if_pos hcloses]
    exact hclose _
  rw [← WritePath.waiting_close] at hended
  rw [shutdown_engine h]
  exact hended

end JobResults
