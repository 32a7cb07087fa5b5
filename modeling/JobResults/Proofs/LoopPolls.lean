import JobResults.Proofs.LoopTasks

/-!
  # Polls of loops

  A loop moves at its own polls only.  At the first one it starts its ticker, or it is dead for good,
  and which of the two depends on the clock and the period alone (`Tasks.flusher_run`).  Once both
  loops are cancelled every poll brings them nearer to their end, so that five polls of the flusher
  are enough, and two of the purger after the removals that it has still to submit
  (`Tasks.polls_run`).
-/

namespace JobResults

/-! ### What a loop has still to do -/

namespace LoopTask

variable {Work : Type}

def isOver : LoopTask Work → Bool
  | gone | dead => true
  | _ => false

/-- Whether the loop was polled, and lived. -/
def isAwake : LoopTask Work → Bool
  | unpolled | dead => false
  | _ => true

/-- Whether the flusher has seen that it was cancelled. -/
def isEnding : LoopTask Flushing → Bool
  | working _ (.taking last) | working _ (.passing _ last) => last
  | gone => true
  | _ => false

/-- The batch on its way to the backend. -/
def inFlight : LoopTask Flushing → List (List Command)
  | working _ (.passing batch _) => [batch]
  | _ => []

/-- The removals that a purge has still to submit. -/
def unsent : LoopTask Purging → List Command
  | working _ purging => purging.rest
  | _ => []

/-- How often the flusher will take the queue, once it is cancelled. -/
def takesLeft : LoopTask Flushing → Nat
  | unpolled | waiting _ => 1
  | working _ (.taking last) => if last then 1 else 2
  | working _ (.passing _ last) => if last then 0 else 1
  | gone | dead => 0

theorem first_eq (now : Instant) (period : Duration) :
    (first now period : LoopTask Work) = dead ∨
      ∃ ticker, (first now period : LoopTask Work) = waiting ticker := by
  unfold first
  split
  · exact .inr ⟨_, rfl⟩
  · exact .inl rfl

theorem first_eq_dead_iff {period : Duration} (hperiod : period.isZero = false) (now : Instant) :
    (first now period : LoopTask Work) = dead ↔ Instant.add? now period = none := by
  unfold first Ticker.start?
  rw [hperiod]
  cases Instant.add? now period <;> simp

/-- The polls of a cancelled flusher until it is over, at most. -/
def flusherPolls : LoopTask Flushing → Nat
  | unpolled => 4
  | waiting _ => 3
  | working _ (.taking last) => if last then 2 else 5
  | working _ (.passing _ last) => if last then 1 else 4
  | gone | dead => 0

theorem flusherPolls_le (l : LoopTask Flushing) : l.flusherPolls ≤ 5 := by
  unfold flusherPolls
  split <;> (try split) <;> decide

theorem flusherPolls_first (now : Instant) (period : Duration) :
    (first now period).flusherPolls ≤ 3 := by
  rcases first_eq now period with hfirst | ⟨ticker, hfirst⟩
  · rw [hfirst]
    exact Nat.zero_le 3
  · rw [hfirst]
    exact Nat.le_refl 3

def purgerPolls : LoopTask Purging → Nat
  | unpolled => 2
  | waiting _ => 1
  | working _ purging => purging.rest.length + 2
  | gone | dead => 0

theorem purgerPolls_first (now : Instant) (period : Duration) :
    (first now period).purgerPolls ≤ 1 := by
  rcases first_eq now period with hfirst | ⟨ticker, hfirst⟩
  · rw [hfirst]
    exact Nat.zero_le 1
  · rw [hfirst]
    exact Nat.le_refl 1

theorem unsent_first (now : Instant) (period : Duration) : (first now period).unsent = [] := by
  rcases first_eq now period with hfirst | ⟨ticker, hfirst⟩
  · rw [hfirst]
    rfl
  · rw [hfirst]
    rfl

theorem purgerPolls_le (l : LoopTask Purging) : l.purgerPolls ≤ l.unsent.length + 2 := by
  cases l <;> simp [purgerPolls, unsent]

/-- A flusher at rest has no batch on its way, and is over after three polls. -/
theorem flusher_ofLoop (l : Loop) :
    (ofLoop l).inFlight = [] ∧ (ofLoop l).flusherPolls ≤ 3 ∧
      (ofLoop l = (dead : LoopTask Flushing) ∨ (ofLoop l : LoopTask Flushing).isAwake = true) := by
  cases l with
  | absent => exact ⟨rfl, Nat.zero_le 3, .inr rfl⟩
  | dead => exact ⟨rfl, Nat.zero_le 3, .inl rfl⟩
  | running ticker => exact ⟨rfl, Nat.le_refl 3, .inr rfl⟩

theorem unsent_ofLoop (l : Loop) : (ofLoop l).unsent = [] := by
  cases l <;> rfl

theorem isOver_of_flusherPolls {l : LoopTask Flushing} (h : l.flusherPolls = 0) :
    l.isOver = true := by
  rcases l with _ | _ | ⟨ticker, last | ⟨batch, last⟩⟩ | _ | _
  · cases h
  · cases h
  · cases last <;> cases h
  · cases last <;> cases h
  · rfl
  · rfl

theorem isOver_of_purgerPolls {l : LoopTask Purging} (h : l.purgerPolls = 0) :
    l.isOver = true := by
  cases l with
  | unpolled => cases h
  | waiting ticker => cases h
  | working ticker purging => cases h
  | gone => rfl
  | dead => rfl

/-- A living flusher that was not cancelled yet takes the queue once more, or twice if it is about
    to take it. -/
theorem takesLeft_of_live {l : LoopTask Flushing} (hending : l.isEnding = false)
    (hlive : l ≠ dead) :
    l.takesLeft = 1 ∨ l.takesLeft = 2 ∧ ∃ ticker, l = working ticker (.taking false) := by
  rcases l with _ | _ | ⟨ticker, last | ⟨batch, last⟩⟩ | _ | _
  · exact .inl rfl
  · exact .inl rfl
  · obtain rfl : last = false := hending
    exact .inr ⟨rfl, ticker, rfl⟩
  · obtain rfl : last = false := hending
    exact .inl rfl
  · cases hending
  · exact absurd rfl hlive

theorem inFlight_of_asleep {l : LoopTask Flushing} (h : l.isAwake = false) : l.inFlight = [] := by
  cases l with
  | working ticker work => cases h
  | _ => rfl

end LoopTask

namespace Tasks

variable {w : Tasks}

/-! ### Polls -/

/-- The flusher moves nothing of the purger, and nobody's options. -/
theorem stepFlusher_frame (w : Tasks) :
    ∃ engine flusher ticks,
      w.stepFlusher = { w with engine := engine, flusher := flusher, ticks := ticks } := by
  unfold stepFlusher
  split
  · exact ⟨_, _, _, rfl⟩
  · split
    · exact ⟨_, _, _, rfl⟩
    · split <;> exact ⟨_, _, _, rfl⟩
  all_goals exact ⟨_, _, _, rfl⟩

theorem stepPurger_frame (w : Tasks) :
    ∃ engine purger ticks,
      w.stepPurger = { w with engine := engine, purger := purger, ticks := ticks } := by
  unfold stepPurger
  split
  · exact ⟨_, _, _, rfl⟩
  · split
    · exact ⟨_, _, _, rfl⟩
    · split <;> exact ⟨_, _, _, rfl⟩
  all_goals exact ⟨_, _, _, rfl⟩

/-- A loop moves at its own polls only. -/
theorem step_loops (w : Tasks) (event : Event) :
    (event ≠ .flusher → (w.step event).flusher = w.flusher) ∧
      (event ≠ .purger → (w.step event).purger = w.purger) := by
  cases event with
  | call x =>
    rw [step]
    split <;> exact ⟨fun _ => rfl, fun _ => rfl⟩
  | flusher =>
    obtain ⟨engine, flusher, ticks, hstep⟩ := w.stepFlusher_frame
    exact ⟨fun h => absurd rfl h, fun _ => by rw [step, hstep]⟩
  | purger =>
    obtain ⟨engine, purger, ticks, hstep⟩ := w.stepPurger_frame
    exact ⟨fun _ => by rw [step, hstep], fun h => absurd rfl h⟩
  | drop => exact ⟨fun _ => rfl, fun _ => rfl⟩

theorem step_frame (w : Tasks) (event : Event) :
    (w.step event).options = w.options ∧ (w.cancelled = true → (w.step event).cancelled = true) := by
  cases event with
  | call x =>
    rw [step]
    split <;> exact ⟨rfl, id⟩
  | flusher =>
    obtain ⟨engine, flusher, ticks, hstep⟩ := w.stepFlusher_frame
    rw [step, hstep]
    exact ⟨rfl, id⟩
  | purger =>
    obtain ⟨engine, purger, ticks, hstep⟩ := w.stepPurger_frame
    rw [step, hstep]
    exact ⟨rfl, id⟩
  | drop => exact ⟨rfl, fun _ => rfl⟩

/-- A poll brings a cancelled flusher nearer to its end. -/
theorem flusherPolls_stepFlusher (hcancelled : w.cancelled = true) :
    w.stepFlusher.flusher.flusherPolls ≤ w.flusher.flusherPolls - 1 := by
  cases hflusher : w.flusher with
  | unpolled =>
    rw [stepFlusher, hflusher]
    exact LoopTask.flusherPolls_first _ _
  | waiting ticker => simp [stepFlusher, hflusher, hcancelled, LoopTask.flusherPolls]
  | working ticker work =>
    rcases work with last | ⟨batch, last⟩
    · by_cases hqueue : w.engine.takeQueue.1 = [] <;> cases last <;>
        simp [stepFlusher, hflusher, hqueue, LoopTask.afterBatch, LoopTask.flusherPolls]
    · cases last <;> simp [stepFlusher, hflusher, LoopTask.afterBatch, LoopTask.flusherPolls]
  | gone => simp [stepFlusher, hflusher, LoopTask.flusherPolls]
  | dead => simp [stepFlusher, hflusher, LoopTask.flusherPolls]

theorem purgerPolls_stepPurger (hcancelled : w.cancelled = true) :
    w.stepPurger.purger.purgerPolls ≤ w.purger.purgerPolls - 1 := by
  cases hpurger : w.purger with
  | unpolled =>
    rw [stepPurger, hpurger]
    exact LoopTask.purgerPolls_first _ _
  | waiting ticker => simp [stepPurger, hpurger, hcancelled, LoopTask.purgerPolls]
  | working ticker purging =>
    obtain ⟨rest, failed⟩ := purging
    cases rest <;> simp [stepPurger, hpurger, LoopTask.purgerPolls]
  | gone => simp [stepPurger, hpurger, LoopTask.purgerPolls]
  | dead => simp [stepPurger, hpurger, LoopTask.purgerPolls]

theorem polls_step (hcancelled : w.cancelled = true) (event : Event) :
    (w.step event).flusher.flusherPolls ≤
        w.flusher.flusherPolls - (if event == .flusher then 1 else 0) ∧
      (w.step event).purger.purgerPolls ≤
        w.purger.purgerPolls - (if event == .purger then 1 else 0) := by
  obtain ⟨hflusher, hpurger⟩ := w.step_loops event
  constructor
  · split
    · next hevent =>
      rw [eq_of_beq hevent]
      exact flusherPolls_stepFlusher hcancelled
    · next hevent => exact Nat.le_of_eq (congrArg _ (hflusher (mt beq_iff_eq.mpr hevent)))
  · split
    · next hevent =>
      rw [eq_of_beq hevent]
      exact purgerPolls_stepPurger hcancelled
    · next hevent => exact Nat.le_of_eq (congrArg _ (hpurger (mt beq_iff_eq.mpr hevent)))

/-- Each loop of a store that went away ends after so many polls. -/
theorem polls_run (hcancelled : w.cancelled = true) (events : List Event) :
    (w.run events).flusher.flusherPolls ≤ w.flusher.flusherPolls - events.count .flusher ∧
      (w.run events).purger.purgerPolls ≤ w.purger.purgerPolls - events.count .purger := by
  induction events generalizing w with
  | nil => simp
  | cons event events ih =>
    have hstep := polls_step hcancelled event
    have hrun := ih ((w.step_frame event).2 hcancelled)
    rw [run_cons, List.count_cons, List.count_cons]
    omega

/-! ### First polls -/

/-- The instant of the first poll of the flusher, or of the end if there is none. -/
def firstPoll (w : Tasks) (events : List Event) : Instant :=
  (w.run (events.takeWhile (· ≠ .flusher))).now

@[simp] theorem firstPoll_cons (w : Tasks) (events : List Event) :
    w.firstPoll (.flusher :: events) = w.now := by
  simp [firstPoll]

theorem isAwake_run (h : w.flusher.isAwake = true) (events : List Event) :
    (w.run events).flusher.isAwake = true := by
  induction events generalizing w with
  | nil => exact h
  | cons event events ih =>
    apply ih
    by_cases hevent : event = .flusher
    · subst hevent
      rw [step, stepFlusher]
      split
      · next hflusher => rw [hflusher] at h; cases h
      · split
        · rfl
        · split
          · dsimp only
            split <;> rfl
          · exact h
      · dsimp only [LoopTask.afterBatch]
        split <;> (try split) <;> rfl
      · dsimp only [LoopTask.afterBatch]
        split <;> rfl
      · exact h
      · exact h
    · rw [(w.step_loops event).1 hevent]
      exact h

theorem dead_run (h : w.flusher = .dead) (events : List Event) :
    (w.run events).flusher = .dead := by
  induction events generalizing w with
  | nil => exact h
  | cons event events ih =>
    apply ih
    by_cases hevent : event = .flusher
    · subst hevent
      simp [step, stepFlusher, h]
    · exact ((w.step_loops event).1 hevent).trans h

/-- The flusher is dead if the clock could not count a period at its first poll, and then only. -/
theorem flusher_run (hperiod : w.options.pipePeriod.isZero = false)
    (hunpolled : w.flusher = .unpolled) (events : List Event) :
    ((Instant.add? (w.firstPoll events) w.options.pipePeriod).isSome = true →
        (w.run events).flusher ≠ .dead) ∧
      (Instant.add? (w.firstPoll events) w.options.pipePeriod = none →
        (w.run events).flusher.isAwake = false) := by
  induction events generalizing w with
  | nil => simp [hunpolled, LoopTask.isAwake]
  | cons event events ih =>
    by_cases hevent : event = .flusher
    · subst hevent
      have hstep : (w.step .flusher).flusher = .first w.now w.options.pipePeriod := by
        simp [step, stepFlusher, hunpolled]
      have hdead : (w.step .flusher).flusher = .dead ↔
          Instant.add? w.now w.options.pipePeriod = none := by
        rw [hstep, LoopTask.first_eq_dead_iff hperiod]
      rw [firstPoll_cons, run_cons]
      constructor
      · intro hsome
        have hawake : (w.step .flusher).flusher.isAwake = true := by
          rcases LoopTask.first_eq w.now w.options.pipePeriod with hnone | ⟨ticker, hwaiting⟩
          · rw [hdead.mp (hstep.trans hnone)] at hsome
            cases hsome
          · rw [hstep, hwaiting]
            rfl
        intro hrun
        have hstill := isAwake_run hawake events
        rw [hrun] at hstill
        cases hstill
      · intro hnone
        rw [dead_run (hdead.mpr hnone)]
        rfl
    · have hfirst : w.firstPoll (event :: events) = (w.step event).firstPoll events := by
        simp [firstPoll, hevent]
      have hoptions := (w.step_frame event).1
      rw [hfirst, run_cons, ← hoptions]
      exact ih (hoptions ▸ hperiod) (((w.step_loops event).1 hevent).trans hunpolled)

end Tasks

end JobResults
