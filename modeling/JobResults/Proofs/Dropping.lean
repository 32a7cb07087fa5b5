import JobResults.Config.Load
import JobResults.Proofs.LoopPolls

/-!
  # Dropping a store

  A store that goes away without a shutdown cancels its loops, and what its queue holds is still
  sent.  From then on nobody calls, so only the loops act, and what they do until the end is
  conserved (`Tasks.Since`): the batches that the flusher takes and the queue are what waited and the
  removals that a purge under way has submitted.  The flusher takes the queue once more, or twice if
  it was about to take it anyway, and the first batch holds all that waited.  No tick begins, and
  both loops end after a few polls, wherever they were.

  All this needs a flusher that lives.  One whose first deadline the clock cannot count is dead from
  its first poll, and the queue is lost with the store.
-/

namespace JobResults

/-! ### What the steps of the loops leave alone -/

namespace Engine

section

variable {e e' : Engine} {queue : List Command}

theorem Queues.waiting (h : e.Queues queue) : e.Queues e.writes.waiting := by
  rw [h]
  exact h

theorem Queues.of_writes (h : e.Queues queue) (hwrites : e'.writes = e.writes) : e'.Queues queue :=
  hwrites.trans h

theorem Queues.takeQueue (h : e.Queues queue) : e.takeQueue = (queue, e.withQueue []) := by
  rw [Engine.takeQueue, h]
  rfl

end

/-- A batch goes on record, whatever becomes of it. -/
theorem passBatch_frame (e : Engine) (batch : List Command) :
    (e.passBatch batch).writes = e.writes ∧
      (e.passBatch batch).gate.record = e.gate.record ++ [batch] := by
  have hrecord := e.execute_record batch
  have hwrites : (e.execute batch).1.writes = e.writes := rfl
  rw [passBatch]
  split <;> next hexecute =>
    rw [hexecute] at hrecord hwrites
    exact ⟨hwrites, hrecord⟩

theorem endPurge_frame (e : Engine) (failed : Bool) :
    (e.endPurge failed).writes = e.writes ∧
      (e.endPurge failed).gate.record = e.gate.record := by
  rw [endPurge]
  split
  · exact ⟨rfl, rfl⟩
  · have hevict : e.evict.1.writes = e.writes ∧ e.evict.1.gate.record = e.gate.record := by
      obtain ⟨backend, hcall⟩ := e.call_eq .evict
      rw [evict_fst, step, hcall]
      exact ⟨rfl, rfl⟩
    split <;> next hresult =>
      rw [hresult] at hevict
      exact hevict

end Engine

namespace Tasks

def record (w : Tasks) : List (List Command) := w.engine.gate.record

def waiting (w : Tasks) : List Command := w.engine.writes.waiting

variable {w e : Tasks}

/-! ### Stores that are still there -/

/-- A store that has not gone away. -/
structure Open (w : Tasks) : Prop where
  queues : w.engine.Queues w.waiting
  uncancelled : w.cancelled = false
  flusher : w.flusher.isEnding = false

theorem open_start (backend : Backend) {options : Options} (now : Now) (clock : ManualClock)
    (hbatched : options.pipePeriod.isZero = false) : (start backend options now clock).Open where
  queues := (ResultStore.queues_start backend now clock hbatched).waiting
  uncancelled := rfl
  flusher := by rw [start, hbatched]; rfl

theorem Open.stepFlusher (h : w.Open) : w.stepFlusher.Open := by
  obtain ⟨hqueues, hcancelled, hflusher⟩ := h
  cases hloop : w.flusher with
  | unpolled =>
    refine ⟨?_, ?_, ?_⟩ <;> simp only [Tasks.stepFlusher, hloop]
    · exact hqueues
    · exact hcancelled
    · rcases LoopTask.first_eq w.now w.options.pipePeriod with hfirst | ⟨ticker, hfirst⟩ <;>
        rw [hfirst] <;> rfl
  | waiting ticker =>
    simp only [Tasks.stepFlusher, hloop, hcancelled, Bool.false_eq_true, if_false]
    split
    · refine ⟨hqueues, rfl, ?_⟩
      dsimp only
      split <;> rfl
    · exact ⟨hqueues, hcancelled, hflusher⟩
  | working ticker work =>
    rw [hloop] at hflusher
    rcases work with last | ⟨batch, last⟩
    · obtain rfl : last = false := hflusher
      simp only [Tasks.stepFlusher, hloop, hqueues.takeQueue]
      refine ⟨rfl, hcancelled, ?_⟩
      dsimp only [LoopTask.afterBatch]
      split <;> rfl
    · obtain rfl : last = false := hflusher
      simp only [Tasks.stepFlusher, hloop]
      exact ⟨(hqueues.of_writes (w.engine.passBatch_frame batch).1).waiting, hcancelled, rfl⟩
  | gone => rw [hloop] at hflusher; cases hflusher
  | dead => simp only [Tasks.stepFlusher, hloop]; exact ⟨hqueues, hcancelled, hflusher⟩

theorem Open.stepPurger (h : w.Open) : w.stepPurger.Open := by
  obtain ⟨hqueues, hcancelled, hflusher⟩ := h
  unfold Tasks.stepPurger
  split
  · exact ⟨hqueues, hcancelled, hflusher⟩
  · split
    · exact ⟨hqueues, hcancelled, hflusher⟩
    · split <;> exact ⟨hqueues, hcancelled, hflusher⟩
  · next c rest failed hpurger =>
    rw [hqueues.submit]
    exact ⟨rfl, hcancelled, hflusher⟩
  · next failed hpurger =>
    exact ⟨(hqueues.of_writes (w.engine.endPurge_frame failed).1).waiting, hcancelled, hflusher⟩
  · exact ⟨hqueues, hcancelled, hflusher⟩
  · exact ⟨hqueues, hcancelled, hflusher⟩

theorem Open.run (h : w.Open) {events : List Event} (hdrop : .drop ∉ events) :
    (w.run events).Open := by
  induction events generalizing w with
  | nil => exact h
  | cons event events ih =>
    rw [List.mem_cons, not_or] at hdrop
    refine ih ?_ hdrop.2
    cases event with
    | call x =>
      rw [step]
      split
      · obtain ⟨queue', hqueues', -⟩ := h.queues.after x
        exact ⟨hqueues'.waiting, h.uncancelled, h.flusher⟩
      · exact h
    | flusher => exact h.stepFlusher
    | purger => exact h.stepPurger
    | drop => exact absurd rfl hdrop.1

/-! ### Stores that went away -/

/-- What has happened since a store went away: the batches that the flusher has taken, and the
    removals that the purger has submitted. -/
structure Since (w e : Tasks) (taken : List (List Command)) (sent : List Command) : Prop where
  cancelled : e.cancelled = true
  ticks : e.ticks = w.ticks
  queues : e.engine.Queues e.waiting
  unsent : w.purger.unsent = sent ++ e.purger.unsent
  conserved : taken.flatten ++ e.waiting = w.waiting ++ sent
  /-- The first batch holds all that waited. -/
  first : taken = [] ∨ ∃ more rest, taken = (w.waiting ++ more) :: rest
  record : e.record ++ e.flusher.inFlight =
    w.record ++ w.flusher.inFlight ++ taken.filter (· ≠ [])
  /-- A flusher that was never polled, or is dead, has taken nothing. -/
  idle : e.flusher.isAwake = false → taken = []
  /-- Every batch is one of the takes that were left. -/
  takes : e.flusher ≠ .dead → taken.length + e.flusher.takesLeft = w.flusher.takesLeft

theorem Open.since (h : w.Open) : Since w (w.step .drop) [] [] where
  cancelled := rfl
  ticks := rfl
  queues := h.queues
  unsent := rfl
  conserved := (List.append_nil _).symm
  first := .inl rfl
  record := (List.append_nil _).symm
  idle := fun _ => rfl
  takes := fun _ => Nat.zero_add _

namespace Since

variable {taken : List (List Command)} {sent : List Command}

/-- The flusher goes on, and the engine stays. -/
theorem withFlusher (h : Since w e taken sent) {l : LoopTask Flushing}
    (hinFlight : l.inFlight = e.flusher.inFlight) (hidle : l.isAwake = false → taken = [])
    (htakes : l ≠ .dead → e.flusher ≠ .dead ∧ l.takesLeft = e.flusher.takesLeft) :
    Since w { e with flusher := l } taken sent where
  cancelled := h.cancelled
  ticks := h.ticks
  queues := h.queues
  unsent := h.unsent
  conserved := h.conserved
  first := h.first
  record := by
    rw [hinFlight]
    exact h.record
  idle := hidle
  takes hlive := by
    obtain ⟨hlive', htakes'⟩ := htakes hlive
    rw [htakes']
    exact h.takes hlive'

/-- The flusher takes the queue. -/
theorem taking (h : Since w e taken sent) {ticker : Ticker} {last : Bool}
    (hflusher : e.flusher = .working ticker (.taking last)) :
    Since w e.stepFlusher (taken ++ [e.waiting]) sent := by
  have htakes := h.takes (by simp [hflusher])
  have hrecord := h.record
  rw [hflusher] at htakes hrecord
  have hnext : e.stepFlusher = { e with
      engine := e.engine.withQueue []
      flusher := if e.waiting = [] then .afterBatch ticker last
        else .working ticker (.passing e.waiting last) } := by
    simp only [stepFlusher, hflusher, h.queues.takeQueue]
  rw [hnext]
  refine ⟨h.cancelled, h.ticks, rfl, h.unsent, ?_, ?_, ?_, ?_, ?_⟩
  · rw [List.flatten_append, List.flatten_singleton]
    exact (List.append_nil _).trans h.conserved
  · -- until the first take all that waited is still in the queue
    rcases h.first with rfl | ⟨more, rest, rfl⟩
    · exact .inr ⟨sent, [], congrArg (fun batch => [batch]) h.conserved⟩
    · exact .inr ⟨more, rest ++ [e.waiting], rfl⟩
  · rw [List.filter_append, ← List.append_assoc, ← hrecord]
    by_cases hnone : e.waiting = []
    · cases last <;>
        simp [hnone, Tasks.record, LoopTask.afterBatch, LoopTask.inFlight, Engine.withQueue]
    · simp [hnone, Tasks.record, LoopTask.inFlight, Engine.withQueue]
  · dsimp only [LoopTask.afterBatch]
    split <;> (try split) <;> simp [LoopTask.isAwake]
  · intro hlive
    rw [List.length_append, List.length_singleton, ← htakes]
    by_cases hnone : e.waiting = [] <;> cases last <;>
      simp [hnone, LoopTask.afterBatch, LoopTask.takesLeft]

/-- The batch of the flusher goes on record. -/
theorem passing (h : Since w e taken sent) {ticker : Ticker} {batch : List Command} {last : Bool}
    (hflusher : e.flusher = .working ticker (.passing batch last)) :
    Since w e.stepFlusher taken sent := by
  have htakes := h.takes (by simp [hflusher])
  have hrecord := h.record
  rw [hflusher] at htakes hrecord
  obtain ⟨hwrites, hbatch⟩ := e.engine.passBatch_frame batch
  have hwaiting : (e.engine.passBatch batch).writes.waiting = e.waiting :=
    congrArg WritePath.waiting hwrites
  simp only [stepFlusher, hflusher]
  refine ⟨h.cancelled, h.ticks, (h.queues.of_writes hwrites).waiting, h.unsent, ?_, h.first,
    ?_, ?_, ?_⟩
  · rw [waiting, hwaiting]
    exact h.conserved
  · rw [← hrecord, Tasks.record, hbatch]
    cases last <;> exact List.append_nil _
  · cases last <;> simp [LoopTask.afterBatch, LoopTask.isAwake]
  · intro hlive
    rw [← htakes]
    cases last <;> rfl

theorem stepFlusher (h : Since w e taken sent) : ∃ taken', Since w e.stepFlusher taken' sent := by
  cases hflusher : e.flusher with
  | unpolled =>
    have hnone : taken = [] := h.idle (by rw [hflusher]; rfl)
    simp only [Tasks.stepFlusher, hflusher]
    refine ⟨taken, h.withFlusher ?_ (fun _ => hnone) ?_⟩ <;>
      rcases LoopTask.first_eq e.now e.options.pipePeriod with hfirst | ⟨ticker, hfirst⟩ <;>
      rw [hfirst, hflusher]
    · rfl
    · rfl
    · exact fun hlive => absurd rfl hlive
    · exact fun _ => ⟨by simp, rfl⟩
  | waiting ticker =>
    have hnext : e.stepFlusher = { e with flusher := .working ticker (.taking true) } := by
      simp [Tasks.stepFlusher, hflusher, h.cancelled]
    rw [hnext]
    refine ⟨taken, h.withFlusher ?_ (by simp [LoopTask.isAwake]) fun _ => ?_⟩ <;> rw [hflusher]
    · rfl
    · exact ⟨by simp, rfl⟩
  | working ticker work =>
    rcases work with last | ⟨batch, last⟩
    · exact ⟨_, h.taking hflusher⟩
    · exact ⟨_, h.passing hflusher⟩
  | gone => exact ⟨taken, by simpa only [Tasks.stepFlusher, hflusher] using h⟩
  | dead => exact ⟨taken, by simpa only [Tasks.stepFlusher, hflusher] using h⟩

/-- The purger goes on, and queues removals at most. -/
theorem withPurger (h : Since w e taken sent) {engine : Engine} {l : LoopTask Purging}
    {more : List Command} (hqueues : engine.Queues (e.waiting ++ more))
    (hrecord : engine.gate.record = e.record) (hunsent : e.purger.unsent = more ++ l.unsent) :
    Since w { e with engine := engine, purger := l } taken (sent ++ more) := by
  have hwaiting : engine.writes.waiting = e.waiting ++ more := by rw [hqueues]; rfl
  refine ⟨h.cancelled, h.ticks, hqueues.waiting, ?_, ?_, h.first, ?_, h.idle, h.takes⟩
  · rw [h.unsent, hunsent, List.append_assoc]
  · rw [waiting, hwaiting, ← List.append_assoc, h.conserved, List.append_assoc]
  · rw [Tasks.record, hrecord]
    exact h.record

theorem stepPurger (h : Since w e taken sent) : ∃ sent', Since w e.stepPurger taken sent' := by
  have hsame : ∀ l : LoopTask Purging, e.purger.unsent = l.unsent →
      Since w { e with purger := l } taken (sent ++ []) := fun l hunsent =>
    h.withPurger ((List.append_nil e.waiting).symm ▸ h.queues) rfl hunsent
  cases hpurger : e.purger with
  | unpolled =>
    simp only [Tasks.stepPurger, hpurger]
    exact ⟨_, hsame _ (by rw [hpurger, LoopTask.unsent_first]; rfl)⟩
  | waiting ticker =>
    have hnext : e.stepPurger = { e with purger := .gone } := by
      simp [Tasks.stepPurger, hpurger, h.cancelled]
    rw [hnext]
    exact ⟨_, hsame _ (by rw [hpurger]; rfl)⟩
  | working ticker purging =>
    obtain ⟨rest, failed⟩ := purging
    cases rest with
    | nil =>
      obtain ⟨hwrites, hrecord⟩ := e.engine.endPurge_frame failed
      simp only [Tasks.stepPurger, hpurger]
      refine ⟨_, h.withPurger ?_ hrecord (by rw [hpurger]; exact (List.nil_append _).symm)⟩
      rw [List.append_nil]
      exact h.queues.of_writes hwrites
    | cons c rest =>
      simp only [Tasks.stepPurger, hpurger, h.queues.submit]
      exact ⟨_, h.withPurger rfl rfl (by rw [hpurger]; rfl)⟩
  | gone => exact ⟨sent, by simpa only [Tasks.stepPurger, hpurger] using h⟩
  | dead => exact ⟨sent, by simpa only [Tasks.stepPurger, hpurger] using h⟩

/-- Time may pass and the backend may change, but nobody calls. -/
theorem call (h : Since w e taken sent) (x : Happening) : Since w (e.step (.call x)) taken sent := by
  rw [step]
  split
  · next hpermits =>
    cases x with
    | moveTo instant => exact { h with }
    | setClock reading => exact { h with }
    | refuse calls => exact { h with }
    | _ => simp [permits, h.cancelled] at hpermits
  · exact h

theorem run (h : Since w e taken sent) (events : List Event) :
    ∃ taken' sent', Since w (e.run events) taken' sent' := by
  induction events generalizing e taken sent with
  | nil => exact ⟨taken, sent, h⟩
  | cons event events ih =>
    cases event with
    | call x => exact ih (h.call x)
    | flusher =>
      obtain ⟨taken', h'⟩ := h.stepFlusher
      exact ih h'
    | purger =>
      obtain ⟨sent', h'⟩ := h.stepPurger
      exact ih h'
    | drop => exact ih { h with cancelled := rfl }

end Since

/-! ### What becomes of the queue -/

/-- What becomes of a store that went away, once its flusher is over. -/
structure Drained (w e : Tasks) (more later : List Command) : Prop where
  /-- What waited is passed as one batch, in order, after a batch that was on its way. -/
  record : e.record =
    w.record ++ w.flusher.inFlight ++ [w.waiting ++ more, later].filter (· ≠ [])
  /-- What comes on top are removals of a purge that was under way. -/
  purge : w.purger.unsent = more ++ later ++ e.waiting ++ e.purger.unsent
  /-- There is a second batch only if the flusher was about to take the queue at a tick. -/
  second : later ≠ [] → ∃ ticker, w.flusher = .working ticker (.taking false)

theorem Since.drained {taken : List (List Command)} {sent : List Command}
    (h : Since w e taken sent) (hending : w.flusher.isEnding = false) (hlive : w.flusher ≠ .dead)
    (hgone : e.flusher = .gone) : ∃ more later, w.Drained e more later := by
  have htakes : taken.length = w.flusher.takesLeft := by
    rw [← h.takes (by simp [hgone]), hgone]
    rfl
  have hrecord := h.record
  rw [hgone] at hrecord
  replace hrecord := (List.append_nil _).symm.trans hrecord
  have hconserved := h.conserved
  have hunsent := h.unsent
  rcases LoopTask.takesLeft_of_live hending hlive with hone | ⟨htwo, hticker⟩
  · obtain ⟨batch, rfl⟩ := List.length_eq_one_iff.mp (htakes.trans hone)
    rcases h.first with hnone | ⟨more, rest, hfirst⟩
    · cases hnone
    · obtain ⟨rfl, rfl⟩ := List.cons.inj hfirst
      obtain rfl : more ++ e.waiting = sent := by simpa using hconserved
      refine ⟨more, [], ?_, by simpa using hunsent, fun hsecond => absurd rfl hsecond⟩
      rw [hrecord]
      simp [List.filter_cons]
  · obtain ⟨batch, later, rfl⟩ := List.length_eq_two.mp (htakes.trans htwo)
    rcases h.first with hnone | ⟨more, rest, hfirst⟩
    · cases hnone
    · obtain ⟨rfl, rfl⟩ := List.cons.inj hfirst
      obtain rfl : more ++ (later ++ e.waiting) = sent := by simpa using hconserved
      exact ⟨more, later, hrecord, by simpa using hunsent, fun _ => hticker⟩

/-- A flusher that was never polled, or is dead, has taken nothing. -/
theorem Since.lost {taken : List (List Command)} {sent : List Command} (h : Since w e taken sent)
    (hasleep : w.flusher.isAwake = false) (hasleep' : e.flusher.isAwake = false) :
    e.record = w.record ∧ w.waiting <+: e.waiting := by
  obtain rfl := h.idle hasleep'
  have hrecord := h.record
  rw [LoopTask.inFlight_of_asleep hasleep, LoopTask.inFlight_of_asleep hasleep'] at hrecord
  exact ⟨by simpa using hrecord, sent, h.conserved.symm⟩

theorem Open.drained (h : w.Open) {after : List Event}
    (hlive : (w.run (.drop :: after)).flusher ≠ .dead)
    (hover : (w.run (.drop :: after)).flusher.isOver = true) :
    ∃ more later, w.Drained (w.run (.drop :: after)) more later := by
  obtain ⟨taken, sent, hsince⟩ := h.since.run after
  refine hsince.drained h.flusher (fun hdead => hlive (dead_run hdead _)) ?_
  revert hlive hover
  rw [run_cons]
  cases ((w.step .drop).run after).flusher <;> simp [LoopTask.isOver]

theorem Open.lost (h : w.Open) {after : List Event}
    (hasleep : (w.run (.drop :: after)).flusher.isAwake = false) :
    (w.run (.drop :: after)).record = w.record ∧
      w.waiting <+: (w.run (.drop :: after)).waiting := by
  obtain ⟨taken, sent, hsince⟩ := h.since.run after
  refine hsince.lost ?_ hasleep
  by_contra hawake
  have hstill := isAwake_run (Bool.of_not_eq_false hawake) (.drop :: after)
  rw [hasleep] at hstill
  cases hstill

/-! ### Drops that nobody disturbs -/

section

variable {s : ResultStore}

/-- The drop of a store whose loops rest sends what waits, if the flusher lives. -/
theorem Rests.drop_record (h : w.Rests s) (hopen : w.Open) (hlive : w.flusher ≠ .dead) :
    s.drop.gate.record = s.engine.gate.record ++ [s.engine.writes.waiting].filter (· ≠ []) ∧
      s.drop.writes.waiting = [] := by
  obtain ⟨loops, ticks, hloops, -, rfl⟩ := h
  let w := atRest s.engine s.options loops ticks
  let e := w.run [.drop, .flusher, .flusher, .flusher]
  have hdrop : s.drop = e.engine := by
    rw [ResultStore.drop, hloops]
    exact (run_drop s.engine s.options loops ticks).symm
  obtain ⟨hinFlight, hpolls, hdead | hawake⟩ := LoopTask.flusher_ofLoop loops.flusher
  · exact absurd hdead hlive
  · have hlive' : e.flusher ≠ .dead := by
      intro hdead
      have hstill := isAwake_run (w := w) hawake [.drop, .flusher, .flusher, .flusher]
      rw [hdead] at hstill
      cases hstill
    have hover : e.flusher.flusherPolls ≤ 3 - 3 :=
      Nat.le_trans (polls_run rfl [.flusher, .flusher, .flusher]).1 (Nat.sub_le_sub_right hpolls 3)
    obtain ⟨more, later, hrecord, hpurge, -⟩ :=
      hopen.drained hlive' (LoopTask.isOver_of_flusherPolls (Nat.eq_zero_of_le_zero hover))
    -- no purge is under way, so nothing comes on top of what waited
    have hnone : more ++ later ++ e.waiting ++ e.purger.unsent = [] :=
      hpurge.symm.trans (LoopTask.unsent_ofLoop loops.purger)
    simp only [List.append_eq_nil_iff] at hnone
    obtain ⟨⟨⟨rfl, rfl⟩, hwaiting⟩, -⟩ := hnone
    have hbefore : w.record ++ w.flusher.inFlight = s.engine.gate.record :=
      (congrArg (w.record ++ ·) hinFlight).trans (List.append_nil _)
    rw [hdrop]
    refine ⟨hrecord.trans ?_, hwaiting⟩
    rw [hbefore, List.append_nil]
    simp [List.filter_cons, waiting, atRest]

theorem Rests.drop_eq (h : w.Rests s) (hasleep : w.flusher.isAwake = false) :
    s.drop = s.engine := by
  obtain ⟨loops, ticks, hloops, -, rfl⟩ := h
  simp only [ResultStore.drop, hloops, Supervisor.drop, Supervisor.stopFlusher]
  split
  · next ticker hflusher =>
    simp only [atRest, hflusher] at hasleep
    cases hasleep
  · rfl

end

end Tasks

/-- A batched store that is dropped without a shutdown sends what waits, whatever its loops were
    doing, if the clock could count a period when the flusher was polled first. -/
theorem ResultStore.drop_drains (backend : Backend) (options : Options) (now : Now)
    (clock : ManualClock) (hbatched : options.pipePeriod.isZero = false) :
    (∀ before after : List Tasks.Event, .drop ∉ before →
      let start := Tasks.start backend options now clock
      let w := start.run before
      let e := w.run (.drop :: after)
      let first := start.firstPoll (before ++ .drop :: after)
      e.ticks = w.ticks ∧
        (5 ≤ after.count .flusher → e.flusher.isOver = true) ∧
        (w.purger.unsent.length + 2 ≤ after.count .purger → e.purger.isOver = true) ∧
        ((Instant.add? first options.pipePeriod).isSome = true → e.flusher.isOver = true →
          ∃ more later, w.Drained e more later) ∧
        (Instant.add? first options.pipePeriod = none →
          e.record = w.record ∧ w.waiting <+: e.waiting)) ∧
    ∀ happened : List StoreEvent, (∀ event ∈ happened, event.isTimed = true) →
      let s := (start backend options now clock).undergo happened
      ((Instant.add? now.monotonic options.pipePeriod).isSome = true →
          s.drop.gate.record =
              s.engine.gate.record ++ [s.engine.writes.waiting].filter (· ≠ []) ∧
            s.drop.writes.waiting = []) ∧
        (Instant.add? now.monotonic options.pipePeriod = none → s.drop = s.engine) := by
  have hopen := Tasks.open_start backend now clock hbatched
  have hunpolled : (Tasks.start backend options now clock).flusher = .unpolled := by
    simp [Tasks.start, hbatched]
  have hflusher := Tasks.flusher_run (w := Tasks.start backend options now clock) hbatched hunpolled
  constructor
  · intro before after hdrop start w e first
    have hw : w.Open := hopen.run hdrop
    obtain ⟨taken, sent, hsince⟩ := hw.since.run after
    obtain ⟨hflusherPolls, hpurgerPolls⟩ := Tasks.polls_run (w := w.step .drop) rfl after
    obtain ⟨hlive, hasleep⟩ := hflusher (before ++ .drop :: after)
    rw [Tasks.run_append] at hlive hasleep
    refine ⟨hsince.ticks, fun hpolls => ?_, fun hpolls => ?_, fun hsome hover => ?_, fun hnone => ?_⟩
    · apply LoopTask.isOver_of_flusherPolls
      have hleft := w.flusher.flusherPolls_le
      exact Nat.eq_zero_of_le_zero (Nat.le_trans hflusherPolls (by simp [Tasks.step]; omega))
    · apply LoopTask.isOver_of_purgerPolls
      have hleft := w.purger.purgerPolls_le
      exact Nat.eq_zero_of_le_zero (Nat.le_trans hpurgerPolls (by simp [Tasks.step]; omega))
    · exact hw.drained (hlive hsome) hover
    · exact hw.lost (hasleep hnone)
  · intro happened htimed s
    obtain ⟨events, hdrop, hrests⟩ := Tasks.exists_run_start backend now clock hbatched htimed
    obtain ⟨hlive, hasleep⟩ := hflusher (.flusher :: .purger :: events)
    rw [Tasks.firstPoll_cons] at hlive hasleep
    exact ⟨fun hsome => hrests.drop_record (hopen.run (by simp [hdrop])) (hlive hsome),
      fun hnone => hrests.drop_eq (hasleep hnone)⟩

/-- Both loops have just begun a tick when the store goes away, and a removal of the purge comes
    between the two batches of the flusher. -/
theorem ResultStore.drop_drains_amid_ticks :
    let options : Options := ⟨.zero, ⟨60000000, by decide⟩, ⟨60000000, by decide⟩⟩
    let c : Command := .set (resultKey "a") [1] none
    let before : List Tasks.Event :=
      [.flusher, .purger, .call (.result c), .call (.moveTo 60000000), .purger, .flusher]
    let after : List Tasks.Event :=
      [.flusher, .purger, .flusher, .flusher, .purger, .flusher, .flusher, .purger, .purger]
    let w := (Tasks.start (.memory .empty) options ⟨0, 0⟩ ⟨5⟩).run before
    let e := w.run (.drop :: after)
    let s := (start (.memory .empty) options ⟨0, 0⟩ ⟨5⟩).undergo [.act (.job (.set "a" [1]))]
    w.ticks = [.purger 60000000, .flusher 60000000] ∧ w.waiting = [c] ∧ w.record = [] ∧
      e.ticks = w.ticks ∧ e.flusher.isOver = true ∧ e.purger.isOver = true ∧
      (∃ more later, w.Drained e more later) ∧ e.record = [[c], removals ⟨-59999995⟩] ∧
      s.drop.gate.record = [[c]] ∧ s.drop.writes.waiting = [] := by
  intro options c before after w e s
  obtain ⟨htasks, hdrop⟩ := drop_drains (.memory .empty) options ⟨0, 0⟩ ⟨5⟩ (by decide)
  obtain ⟨hticks, hflusher, hpurger, hdrained, -⟩ := htasks before after (by decide)
  have hover : e.flusher.isOver = true := hflusher (by decide)
  obtain ⟨hrecord, hwaiting⟩ :=
    (hdrop [.act (.job (.set "a" [1]))] (by decide)).1 (by decide)
  exact ⟨by decide, by decide, by decide, hticks, hover, hpurger (by decide),
    hdrained (by decide) hover, by decide, hrecord, hwaiting⟩

/-- Settings may ask for a period that the clock cannot count, and what waits is lost. -/
theorem ResultStore.drop_loses :
    let files : Files :=
      ⟨[(["c.toml"], .file (Bytes.ofString "results.pipe_period = \"18446744073709551615\"\n"))]⟩
    let options : Options := { pipePeriod := .ofSeconds 18446744073709551615 }
    let c : Command := .set (resultKey "a") [1] none
    let s := (start (.memory .empty) options ⟨0, 0⟩ ⟨0⟩).undergo [.act (.job (.set "a" [1]))]
    let e := (Tasks.start (.memory .empty) options ⟨0, 0⟩ ⟨0⟩).run
      ([.flusher, .call (.result c), .drop] ++ List.replicate 5 .flusher)
    (Config.loadFrom files [] "c.toml").toOption.map (·.results) = some options ∧
      s.engine.writes.waiting = [c] ∧ s.drop = s.engine ∧
      e.flusher = .dead ∧ e.record = [] ∧ e.waiting = [c] := by
  decide +kernel

end JobResults
