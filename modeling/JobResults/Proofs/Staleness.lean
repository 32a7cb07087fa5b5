import JobResults.Proofs.Happenings

/-!
  # How long a write waits

  In a batched store the flusher ticks every period, whatever becomes of its batches, as long as
  time passes in sleeps only: at the start, and after every event, neither loop is late
  (`Supervisor.OnTime`), so each tick happens when it is due, none is skipped and the next is a
  period later (`OnTime.runTick`).  A tick leaves nothing waiting.  So a command waits at most until
  the first tick after it was accepted.
-/

namespace JobResults

/-! ### Tickers on time -/

namespace Ticker

/-- A ticker after a number of ticks that were on time. -/
def later (t : Ticker) (ticks : Nat) : Ticker :=
  { t with deadline := t.deadline + ticks * t.period }

@[simp] theorem later_zero (t : Ticker) : t.later 0 = t := by simp [later]

@[simp] theorem later_later (t : Ticker) (m n : Nat) : (t.later m).later n = t.later (m + n) := by
  simp [later, Nat.add_mul, Nat.add_assoc]

theorem deadline_le_due (t : Ticker) : t.deadline ≤ t.due := by
  unfold due nanosPerMilli
  grind

theorem due_le (t : Ticker) : t.due ≤ t.deadline + tolerance := by
  unfold due tolerance nanosPerMilli
  grind

theorem due_mono {t t' : Ticker} (h : t.deadline ≤ t'.deadline) : t.due ≤ t'.due :=
  Nat.mul_le_mul_right _ (Nat.div_le_div_right (Nat.add_le_add_right h _))

theorem due_later_mono (t : Ticker) {m n : Nat} (h : m ≤ n) : (t.later m).due ≤ (t.later n).due :=
  due_mono (Nat.add_le_add_left (Nat.mul_le_mul_right _ h) _)

/-- A tick that is not late moves the deadline by a period. -/
theorem next_due (t : Ticker) : t.next t.due = t.later 1 := by
  have hpunctual : ¬ t.due > t.deadline + tolerance := Nat.not_lt.2 t.due_le
  simp [next, later, hpunctual]

theorem ticksUntil_later (t : Ticker) {target : Instant} (hperiod : 0 < t.period)
    (h : t.deadline ≤ target) : (t.later 1).ticksUntil target + 1 = t.ticksUntil target := by
  obtain ⟨rest, rfl⟩ := Nat.exists_eq_add_of_le h
  simp only [ticksUntil, later, Nat.one_mul, if_pos h, Nat.add_le_add_iff_left,
    Nat.add_sub_add_left, Nat.add_sub_cancel_left]
  split
  · next hrest =>
    obtain ⟨rest', rfl⟩ := Nat.exists_eq_add_of_le hrest
    rw [Nat.add_sub_cancel_left, Nat.add_div_left _ hperiod]
  · next hrest =>
    rw [Nat.div_eq_of_lt (Nat.lt_of_not_le hrest)]

theorem lt_due_of_ticksUntil (t : Ticker) {target : Instant} (h : t.ticksUntil target = 0) :
    target < t.due := by
  unfold ticksUntil at h
  split at h
  · cases h
  · next hdeadline => exact Nat.lt_of_lt_of_le (Nat.lt_of_not_le hdeadline) t.deadline_le_due

end Ticker

/-! ### Loops on time -/

namespace Loop

variable {l : Loop} {target instant : Instant}

theorem due?_eq_some (h : l.due? target = some instant) :
    ∃ t, l = .running t ∧ t.due = instant ∧ instant ≤ target := by
  unfold due? at h
  split at h
  · next t =>
    obtain ⟨hdue, hinstant⟩ := Option.ite_none_right_eq_some.1 h
    obtain rfl := Option.some.inj hinstant
    exact ⟨t, rfl, rfl, hdue⟩
  · cases h

/-- A running loop whose tick does not come up to an instant that another tick does reach. -/
theorem le_due {t : Ticker} (hl : l = .running t) (hinstant : instant ≤ target)
    (h : ∀ i, l.due? target = some i → instant ≤ i) : instant ≤ t.due := by
  by_cases hdue : t.due ≤ target
  · exact h t.due (by rw [hl, due?, if_pos hdue])
  · exact Nat.le_trans hinstant (Nat.le_of_not_le hdue)

/-- A tick when it is due: the next one is a period later, and there is one tick less to come. -/
theorem next_due {t : Ticker} (hperiod : 0 < t.period) (htarget : t.due ≤ target) :
    (running t).next t.due = running (t.later 1) ∧ t.due ≤ (t.later 1).due ∧
      (running (t.later 1)).ticksUntil target + 1 = (running t).ticksUntil target := by
  refine ⟨?_, Ticker.due_mono (Nat.le_add_right _ _), ?_⟩
  · rw [next, t.next_due]
  · exact t.ticksUntil_later hperiod (Nat.le_trans t.deadline_le_due htarget)

end Loop

/-! ### Instants along a sequence of happenings -/

namespace Engine

/-- The instant of a happening that is a tick of the flusher. -/
def flusherTicks (e : Engine) : Happening → List Instant
  | .flusherTick => [e.now.monotonic]
  | _ => []

/-- Along a sequence of happenings time never goes back. -/
def Forward (e : Engine) : List Happening → Prop
  | [] => True
  | x :: log => e.now.monotonic ≤ (e.after x).now.monotonic ∧ (e.after x).Forward log

variable {e : Engine} {log log' : List Happening} {queue : List Command}

theorem Forward.append (h : e.Forward log) (h' : (e.afterAll log).Forward log') :
    e.Forward (log ++ log') := by
  induction log generalizing e with
  | nil => exact h'
  | cons x log ih => exact ⟨h.1, ih h.2 h'⟩

theorem Forward.right (h : e.Forward (log ++ log')) : (e.afterAll log).Forward log' := by
  induction log generalizing e with
  | nil => exact h
  | cons x log ih => exact ih h.2

theorem Forward.le (h : e.Forward log) : e.now.monotonic ≤ (e.afterAll log).now.monotonic := by
  induction log generalizing e with
  | nil => exact Nat.le_refl _
  | cons x log ih => exact Nat.le_trans h.1 (ih h.2)

/-- What is collected with the instants of its happenings lies between the start and the end. -/
theorem Forward.collected (h : e.Forward log) {α : Type} (f : Engine → Happening → List α)
    (instant : α → Instant) (hf : ∀ e x, ∀ y ∈ f e x, instant y = e.now.monotonic) :
    ∀ y ∈ e.collect f log,
      e.now.monotonic ≤ instant y ∧ instant y ≤ (e.afterAll log).now.monotonic := by
  induction log generalizing e with
  | nil => exact nofun
  | cons x log ih =>
    rw [collect, List.forall_mem_append]
    constructor
    · intro y hy
      rw [hf e x y hy]
      exact ⟨Nat.le_refl _, h.le⟩
    · intro y hy
      obtain ⟨hfirst, hlast⟩ := ih h.2 y hy
      exact ⟨Nat.le_trans h.1 hfirst, hlast⟩

/-- Only moving the clock moves it. -/
theorem Queues.after_now (h : e.Queues queue) {x : Happening} (hx : ∀ i, x ≠ .moveTo i) :
    (e.after x).now = e.now := by
  have hsend : e.sendQueue.1.now = e.now := by
    rcases e.sendQueue_cases with ⟨-, hsend⟩ | ⟨p, -, -, hsend⟩
    · rw [hsend]
    · rw [hsend]
      rfl
  cases x with
  | result c => rw [Engine.after, h.write]; rfl
  | outcome c => rw [Engine.after, h.write]; rfl
  | deletion id =>
    rw [Engine.after, delete]
    split
    · rfl
    · have hexecute : (e.execute (ResultStore.deletion id)).1.now = e.now := rfl
      split <;> next hcall => rw [hcall] at hexecute; exact hexecute
  | query q => rfl
  | purge window =>
    obtain ⟨gate, metrics, hpurge, -⟩ := h.purge window
    rw [Engine.after, hpurge]
    rfl
  | flush => exact hsend
  | flusherTick =>
    obtain ⟨metrics, htick⟩ := e.after_flusherTick
    rw [htick]
    exact hsend
  | moveTo i => exact absurd rfl (hx i)
  | setClock reading => rfl
  | refuse calls => rfl

/-- Along a sequence of happenings the flusher ticks a number of times, always when a ticker is
    due, and time goes forward. -/
structure Punctual (e : Engine) (log : List Happening) (t : Ticker) (ticks : Nat) : Prop where
  ticks : e.collect flusherTicks log = (List.range ticks).map fun k => (t.later k).due
  forward : e.Forward log

theorem Punctual.nil (e : Engine) (t : Ticker) : e.Punctual [] t 0 := ⟨rfl, trivial⟩

theorem Punctual.append {t : Ticker} {m n : Nat} (h : e.Punctual log t m)
    (h' : (e.afterAll log).Punctual log' (t.later m) n) : e.Punctual (log ++ log') t (m + n) := by
  refine ⟨?_, h.forward.append h'.forward⟩
  rw [collect_append, h.ticks, h'.ticks, List.range_add, List.map_append, List.map_map]
  simp [Function.comp_def]

/-- If the next tick is still to come, the ticks that happened are those that are due by now. -/
theorem Punctual.due_le_iff {t : Ticker} {n : Nat} (h : e.Punctual log t n)
    (hnext : (e.afterAll log).now.monotonic < (t.later n).due) (k : Nat) :
    (t.later k).due ≤ (e.afterAll log).now.monotonic ↔ k < n := by
  constructor
  · intro hdue
    apply Nat.lt_of_not_le
    intro hle
    exact Nat.not_le_of_lt (Nat.lt_of_lt_of_le hnext (t.due_later_mono hle)) hdue
  · intro hlt
    have hticks : ∀ e x, ∀ y ∈ flusherTicks e x, y = e.now.monotonic := by
      intro e x y hy
      cases x <;> simp_all [flusherTicks]
    refine (h.forward.collected flusherTicks (fun y => y) hticks _ ?_).2
    rw [h.ticks]
    exact List.mem_map_of_mem (List.mem_range.2 hlt)

/-- Happenings without time or ticks. -/
theorem Queues.punctual_single (h : e.Queues queue) (t : Ticker) {x : Happening}
    (hx : ∀ i, x ≠ .moveTo i) (htick : x ≠ .flusherTick) : e.Punctual [x] t 0 := by
  refine ⟨?_, ?_, trivial⟩
  · cases x <;> first | rfl | exact absurd rfl htick
  · rw [h.after_now hx]

theorem punctual_moveTo (t : Ticker) {instant : Instant} (h : e.now.monotonic ≤ instant) :
    e.Punctual [.moveTo instant] t 0 := ⟨rfl, h, trivial⟩

theorem Queues.punctual_flusherTick (h : e.Queues queue) {t : Ticker}
    (hdue : e.now.monotonic = t.due) : e.Punctual [.flusherTick] t 1 := by
  refine ⟨?_, ?_, trivial⟩
  · simp [collect, flusherTicks, hdue]
  · rw [h.after_now (by simp)]

end Engine

namespace Supervisor

/-- The next tick is that of the loop that is due first, if one is due at all. -/
theorem nextTick?_cases (s : Supervisor) (target : Instant) :
    (s.nextTick? target = none ∧ s.flusher.due? target = none ∧ s.purger.due? target = none) ∨
      (∃ f, s.nextTick? target = some (.flusher f) ∧ s.flusher.due? target = some f ∧
        ∀ p, s.purger.due? target = some p → f ≤ p) ∨
      ∃ p, s.nextTick? target = some (.purger p) ∧ s.purger.due? target = some p ∧
        ∀ f, s.flusher.due? target = some f → p ≤ f := by
  unfold nextTick?
  cases hflusher : s.flusher.due? target with
  | none =>
    cases hpurger : s.purger.due? target with
    | none => simp
    | some p => simp
  | some f =>
    cases hpurger : s.purger.due? target with
    | none => simp
    | some p =>
      by_cases hle : f ≤ p
      · simp [hle]
      · simp [hle, Nat.le_of_not_le hle]

section

variable {s : Supervisor} {target : Instant}

theorem nextTick?_eq_none (h : s.nextTick? target = none) :
    s.flusher.due? target = none ∧ s.purger.due? target = none := by
  rcases s.nextTick?_cases target with ⟨-, hidle⟩ | ⟨f, hsome, -⟩ | ⟨p, hsome, -⟩
  · exact hidle
  · rw [h] at hsome
    cases hsome
  · rw [h] at hsome
    cases hsome

theorem nextTick?_eq_flusher {f : Instant} (h : s.nextTick? target = some (.flusher f)) :
    s.flusher.due? target = some f ∧ ∀ p, s.purger.due? target = some p → f ≤ p := by
  rcases s.nextTick?_cases target with ⟨hnone, -⟩ | ⟨f', hsome, hfirst⟩ | ⟨p, hsome, -⟩
  · rw [h] at hnone
    cases hnone
  · obtain rfl : f = f' := by simpa [h] using hsome
    exact hfirst
  · rw [h] at hsome
    cases hsome

theorem nextTick?_eq_purger {p : Instant} (h : s.nextTick? target = some (.purger p)) :
    s.purger.due? target = some p ∧ ∀ f, s.flusher.due? target = some f → p ≤ f := by
  rcases s.nextTick?_cases target with ⟨hnone, -⟩ | ⟨f, hsome, -⟩ | ⟨p', hsome, hfirst⟩
  · rw [h] at hnone
    cases hnone
  · rw [h] at hsome
    cases hsome
  · obtain rfl : p = p' := by simpa [h] using hsome
    exact hfirst

end

/-- At an instant neither loop is late, and the flusher runs. -/
structure OnTime (s : Supervisor) (flusher : Ticker) (instant : Instant) : Prop where
  runs : s.flusher = .running flusher
  period : 0 < flusher.period
  due : instant ≤ flusher.due
  purger : ∀ t, s.purger = .running t → 0 < t.period ∧ instant ≤ t.due

theorem OnTime.mono {s : Supervisor} {t : Ticker} {instant instant' : Instant}
    (h : s.OnTime t instant) (hle : instant' ≤ instant) : s.OnTime t instant' :=
  ⟨h.runs, h.period, Nat.le_trans hle h.due, fun p hp =>
    ⟨(h.purger p hp).1, Nat.le_trans hle (h.purger p hp).2⟩⟩

/-- The most ticks that both loops have up to an instant. -/
def ticksUntil (s : Supervisor) (target : Instant) : Nat :=
  s.flusher.ticksUntil target + s.purger.ticksUntil target

variable {s : Supervisor} {t : Ticker} {target instant : Instant}

theorem OnTime.of_nextTick? (h : s.OnTime t instant) (hnone : s.nextTick? target = none) :
    s.OnTime t (target + 1) := by
  have hidle : ∀ {l : Loop} {t : Ticker}, l = .running t → l.due? target = none →
      target + 1 ≤ t.due := by
    rintro l t rfl hdue
    simp only [Loop.due?, ite_eq_right_iff, reduceCtorEq, imp_false] at hdue
    exact Nat.lt_of_not_le hdue
  obtain ⟨hflusher, hpurger⟩ := nextTick?_eq_none hnone
  refine ⟨h.runs, h.period, hidle h.runs hflusher, ?_⟩
  intro p hp
  exact ⟨(h.purger p hp).1, hidle hp hpurger⟩

theorem OnTime.of_ticksUntil (h : s.OnTime t instant) (hnone : s.ticksUntil target = 0) :
    s.OnTime t (target + 1) := by
  obtain ⟨hflusher, hpurger⟩ := Nat.add_eq_zero_iff.1 hnone
  rw [h.runs] at hflusher
  refine ⟨h.runs, h.period, t.lt_due_of_ticksUntil hflusher, ?_⟩
  intro p hp
  rw [hp] at hpurger
  exact ⟨(h.purger p hp).1, p.lt_due_of_ticksUntil hpurger⟩

variable {e : Engine} {queue : List Command}

theorem OnTime.flusherTick (h : s.OnTime t e.now.monotonic) {f : Instant}
    (hnext : s.nextTick? target = some (.flusher f)) :
    f = t.due ∧ f ≤ target ∧ (runTick e s (.flusher f)).2.OnTime (t.later 1) f ∧
      (runTick e s (.flusher f)).2.ticksUntil target + 1 = s.ticksUntil target := by
  obtain ⟨hdue, hfirst⟩ := nextTick?_eq_flusher hnext
  obtain ⟨t', hruns, rfl, htarget⟩ := Loop.due?_eq_some hdue
  obtain rfl : t = t' := by simpa [h.runs] using hruns
  obtain ⟨hnext, hlater, hcount⟩ := Loop.next_due h.period htarget
  have hticked : (runTick e s (.flusher t.due)).2 = { s with flusher := .running (t.later 1) } := by
    simp only [runTick, Nat.max_eq_right h.due, Engine.moveTo, hruns, hnext]
  rw [hticked]
  refine ⟨rfl, htarget, ⟨rfl, h.period, hlater, ?_⟩, ?_⟩
  · intro p hp
    exact ⟨(h.purger p hp).1, Loop.le_due hp htarget hfirst⟩
  · simp only [ticksUntil, hruns, ← hcount]
    grind

theorem OnTime.purgerTick (h : s.OnTime t e.now.monotonic) {p : Instant}
    (hnext : s.nextTick? target = some (.purger p)) :
    e.now.monotonic ≤ p ∧ p ≤ target ∧ (runTick e s (.purger p)).2.OnTime t p ∧
      (runTick e s (.purger p)).2.ticksUntil target + 1 = s.ticksUntil target := by
  obtain ⟨hdue, hfirst⟩ := nextTick?_eq_purger hnext
  obtain ⟨u, hruns, rfl, htarget⟩ := Loop.due?_eq_some hdue
  obtain ⟨hperiod, hlate⟩ := h.purger u hruns
  obtain ⟨hnext, hlater, hcount⟩ := Loop.next_due hperiod htarget
  have hticked : (runTick e s (.purger u.due)).2 = { s with purger := .running (u.later 1) } := by
    simp only [runTick, Nat.max_eq_right hlate, Engine.moveTo, hruns, hnext]
  rw [hticked]
  refine ⟨hlate, htarget, ⟨h.runs, h.period, Loop.le_due h.runs htarget hfirst, ?_⟩, ?_⟩
  · rintro _ hp
    obtain rfl := Loop.running.inj hp
    exact ⟨hperiod, hlater⟩
  · simp only [ticksUntil, hruns, ← hcount]
    grind

/-- A tick is when it is due, and afterwards the loops are still on time. -/
theorem OnTime.runTick (hqueues : e.Queues queue) (h : s.OnTime t e.now.monotonic) {tick : Tick}
    (hnext : s.nextTick? target = some tick) :
    ∃ n, (runTick e s tick).2.OnTime (t.later n) (runTick e s tick).1.now.monotonic ∧
      e.Punctual (tick.happenings e.now.monotonic s.window) t n ∧
      (runTick e s tick).1.now.monotonic ≤ target ∧
      (runTick e s tick).2.ticksUntil target + 1 = s.ticksUntil target := by
  have hmoved : ∀ i, (e.moveTo (max e.now.monotonic i)).Queues queue := fun _ => hqueues
  have hmove : ∀ i, e.Punctual [.moveTo (max e.now.monotonic i)] t 0 :=
    fun i => Engine.punctual_moveTo t (Nat.le_max_left _ _)
  cases tick with
  | flusher f =>
    obtain ⟨hdue, htarget, hontime, hcount⟩ := h.flusherTick hnext
    have hinstant : (e.moveTo (max e.now.monotonic f)).now.monotonic = f :=
      Nat.max_eq_right (hdue ▸ h.due)
    have htick := (hmoved f).punctual_flusherTick (hinstant.trans hdue)
    have hnow : (Supervisor.runTick e s (.flusher f)).1.now.monotonic = f := by
      have hsame := (hmoved f).after_now (x := .flusherTick) (by simp)
      exact (congrArg Now.monotonic hsame).trans hinstant
    rw [← t.later_zero] at htick
    rw [hnow]
    exact ⟨1, hontime, (hmove f).append htick, htarget, hcount⟩
  | purger p =>
    obtain ⟨hlate, htarget, hontime, hcount⟩ := h.purgerTick hnext
    have hinstant : (e.moveTo (max e.now.monotonic p)).now.monotonic = p :=
      Nat.max_eq_right hlate
    have htick := (hmoved p).punctual_single t (x := .purge s.window) (by simp) (by simp)
    have hnow : (Supervisor.runTick e s (.purger p)).1.now.monotonic = p := by
      have hsame := (hmoved p).after_now (x := .purge s.window) (by simp)
      exact (congrArg Now.monotonic hsame).trans hinstant
    rw [← t.later_zero] at htick hontime
    rw [hnow]
    exact ⟨0, hontime, (hmove p).append htick, htarget, hcount⟩

theorem OnTime.runTicks {count : Nat} (hqueues : e.Queues queue) (h : s.OnTime t e.now.monotonic)
    (hnow : e.now.monotonic ≤ target) (hcount : s.ticksUntil target ≤ count) :
    ∃ n, (runTicks target count e s).2.OnTime (t.later n) (target + 1) ∧
      e.Punctual (ticks target count e s) t n ∧
      (runTicks target count e s).1.now.monotonic ≤ target := by
  induction count generalizing e s t queue with
  | zero =>
    have hidle : s.OnTime t (target + 1) := h.of_ticksUntil (Nat.le_zero.1 hcount)
    rw [← t.later_zero] at hidle
    exact ⟨0, hidle, .nil e t, hnow⟩
  | succ count ih =>
    cases hnext : s.nextTick? target with
    | none =>
      have hidle : s.OnTime t (target + 1) := h.of_nextTick? hnext
      rw [← t.later_zero] at hidle
      simp only [Supervisor.runTicks, ticks, hnext]
      exact ⟨0, hidle, .nil e t, hnow⟩
    | some tick =>
      obtain ⟨m, hontime, hpunctual, hnow', hless⟩ := OnTime.runTick hqueues h hnext
      obtain ⟨queue', hqueues', -⟩ := hqueues.afterAll (tick.happenings e.now.monotonic s.window)
      rw [← runTick_engine] at hqueues'
      obtain ⟨n, hontime', hpunctual', hnow''⟩ := ih hqueues' hontime hnow' (by omega)
      rw [Ticker.later_later] at hontime'
      simp only [Supervisor.runTicks, ticks, hnext]
      refine ⟨m + n, hontime', hpunctual.append ?_, hnow''⟩
      rw [← runTick_engine]
      exact hpunctual'

/-- While time passes all ticks that are due happen. -/
theorem OnTime.sleepUntil (hqueues : e.Queues queue) (h : s.OnTime t e.now.monotonic)
    (hnow : e.now.monotonic ≤ target) :
    ∃ n, (sleepUntil e s target).2.OnTime (t.later n)
        ((sleepUntil e s target).1.now.monotonic + 1) ∧
      e.Punctual (sleep e s target) t n := by
  obtain ⟨n, hontime, hpunctual, hnow'⟩ := OnTime.runTicks hqueues h hnow (Nat.le_refl _)
  have hmove := Engine.punctual_moveTo (t.later n) hnow'
  rw [runTicks_engine] at hmove
  exact ⟨n, hontime, hpunctual.append hmove⟩

end Supervisor

/-! ### Stores on time -/

/-- Whether an event leaves ticks to the loops: it is no tick at an instant of its own, and no
    shutdown. -/
def StoreEvent.isTimed : StoreEvent → Bool
  | .act .shutdown | .act (.flusherTick _) | .act (.job (.tick _)) => false
  | _ => true

theorem StoreEvent.ne_shutdown_of_isTimed {event : StoreEvent} (h : event.isTimed = true) :
    event ≠ .act .shutdown := by
  rintro rfl
  cases h

theorem Ticker.start?_eq_some {now : Instant} {period : Duration} {t : Ticker}
    (h : Ticker.start? now period = some t) :
    t = ⟨now + period.nanos, period.nanos⟩ ∧ 0 < t.period ∧ now + 1 ≤ t.due := by
  unfold start? Instant.add? at h
  split at h
  · cases h
  · next hzero =>
    have hpositive : 0 < period.nanos := Nat.pos_of_ne_zero (by simpa [Duration.isZero] using hzero)
    split at h
    · obtain rfl := Option.some.inj h
      have hdue := Ticker.deadline_le_due ⟨now + period.nanos, period.nanos⟩
      exact ⟨rfl, hpositive, Nat.le_trans (Nat.add_le_add_left hpositive now) hdue⟩
    · cases h

namespace ResultStore

/-- The loops of a store are not late, and will not be when time goes on. -/
def Ticking (s : ResultStore) (t : Ticker) : Prop :=
  ∃ loops, s.supervisor = some loops ∧ loops.OnTime t (s.engine.now.monotonic + 1)

variable {s : ResultStore} {t : Ticker} {queue : List Command}

theorem ticking_start (backend : Backend) {options : Options} {now : Now} (clock : ManualClock)
    (hbatched : options.pipePeriod.isZero = false)
    (hfirst : (Instant.add? now.monotonic options.pipePeriod).isSome = true) :
    (start backend options now clock).Ticking
      ⟨now.monotonic + options.pipePeriod.nanos, options.pipePeriod.nanos⟩ := by
  obtain ⟨t, ht⟩ : ∃ t, Ticker.start? now.monotonic options.pipePeriod = some t := by
    obtain ⟨deadline, hdeadline⟩ := Option.isSome_iff_exists.1 hfirst
    exact ⟨_, by rw [Ticker.start?, hbatched, hdeadline]; rfl⟩
  obtain ⟨rfl, hperiod, hdue⟩ := Ticker.start?_eq_some ht
  refine ⟨_, rfl, ?_, hperiod, hdue, ?_⟩
  · simp [startLoops, Supervisor.start, positive?, hbatched, Loop.start, ht]
  · -- the purger starts like the flusher, if there is one
    intro p hp
    simp only [startLoops, Supervisor.start, positive?] at hp
    split at hp
    · cases hp
    · simp only [Option.elim_some, Loop.start] at hp
      split at hp
      · next hstart =>
        obtain rfl := Loop.running.inj hp
        exact (Ticker.start?_eq_some hstart).2
      · cases hp

/-- An event without time leaves the loops alone. -/
theorem happen_supervisor (s : ResultStore) {event : StoreEvent} (hevent : event.isTimed = true)
    (hsleep : ∀ nanos, event ≠ .act (.job (.sleep nanos))) :
    (s.happen event).supervisor = s.supervisor := by
  cases event with
  | refuse calls => rfl
  | act a =>
    cases a with
    | job a =>
      cases a with
      | set id payload =>
        simp only [happen, perform, act, reply, set, submit]
        split <;> rfl
      | record o id =>
        simp only [happen, perform, act, reply, record, submit]
        split <;> rfl
      | get id =>
        simp only [happen, perform, act, reply, get]
        split <;> rfl
      | list o =>
        simp only [happen, perform, act, reply, list]
        split <;> rfl
      | delete id =>
        simp only [happen, perform, act, reply, deleteJob]
        split
        · rfl
        · split <;> rfl
      | purgeMetadata =>
        simp only [happen, perform, act, reply, purgeMetadata]
        split <;> rfl
      | purgeOlderThan window => rfl
      | setClock reading => rfl
      | sleep nanos => exact absurd rfl (hsleep nanos)
      | tick instant => cases hevent
    | flush => rfl
    | flusherTick instant => cases hevent
    | healthCheck =>
      simp only [happen, perform, healthCheck]
      split <;> rfl
    | shutdown => cases hevent

/-- Such an event is at most one happening, without time and no tick of the flusher. -/
theorem punctual_happeningsOf (hqueues : s.engine.Queues queue) (t : Ticker) {event : StoreEvent}
    (hevent : event.isTimed = true) (hsleep : ∀ nanos, event ≠ .act (.job (.sleep nanos))) :
    s.engine.Punctual (s.happeningsOf event) t 0 ∧
      (s.engine.afterAll (s.happeningsOf event)).now = s.engine.now := by
  have hsingle : ∀ x : Happening, (∀ i, x ≠ .moveTo i) → x ≠ .flusherTick →
      s.engine.Punctual [x] t 0 ∧ (s.engine.afterAll [x]).now = s.engine.now :=
    fun x hx htick => ⟨hqueues.punctual_single t hx htick, hqueues.after_now hx⟩
  cases event with
  | refuse calls => exact hsingle _ (by simp) (by simp)
  | act a =>
    cases a with
    | job a =>
      cases a with
      | purgeMetadata =>
        rw [happeningsOf]
        split
        · exact ⟨.nil _ t, rfl⟩
        · exact hsingle _ (by simp) (by simp)
      | sleep nanos => exact absurd rfl (hsleep nanos)
      | tick instant => cases hevent
      | _ => exact hsingle _ (by simp) (by simp)
    | flush => exact hsingle _ (by simp) (by simp)
    | flusherTick instant => cases hevent
    | healthCheck => exact hsingle _ (by simp) (by simp)
    | shutdown => cases hevent

theorem Ticking.happen (h : s.Ticking t) (hqueues : s.engine.Queues queue) {event : StoreEvent}
    (hevent : event.isTimed = true) :
    ∃ n, (s.happen event).Ticking (t.later n) ∧ s.engine.Punctual (s.happeningsOf event) t n := by
  obtain ⟨loops, hloops, hontime⟩ := h
  by_cases hsleep : ∃ nanos, event = .act (.job (.sleep nanos))
  · obtain ⟨nanos, rfl⟩ := hsleep
    obtain ⟨e, options, supervisor⟩ := s
    obtain rfl : supervisor = some loops := hloops
    obtain ⟨n, hlater, hpunctual⟩ :=
      (hontime.mono (Nat.le_succ _)).sleepUntil hqueues (Nat.le_add_right _ nanos)
    exact ⟨n, ⟨_, rfl, hlater⟩, hpunctual⟩
  · have hnot : ∀ nanos, event ≠ .act (.job (.sleep nanos)) := fun nanos heq => hsleep ⟨nanos, heq⟩
    obtain ⟨hpunctual, hnow⟩ := punctual_happeningsOf hqueues t hevent hnot
    rw [← s.happen_engine (StoreEvent.ne_shutdown_of_isTimed hevent)] at hnow
    refine ⟨0, ⟨loops, (s.happen_supervisor hevent hnot).trans hloops, ?_⟩, hpunctual⟩
    rw [hnow, Ticker.later_zero]
    exact hontime

theorem Ticking.undergo (h : s.Ticking t) (hqueues : s.engine.Queues queue)
    {events : List StoreEvent} (hevents : ∀ event ∈ events, event.isTimed = true) :
    ∃ n, (s.undergo events).Ticking (t.later n) ∧ s.engine.Punctual (s.happenings events) t n := by
  induction events generalizing s t queue with
  | nil => exact ⟨0, by rw [Ticker.later_zero]; exact h, .nil _ t⟩
  | cons event events ih =>
    rw [List.forall_mem_cons] at hevents
    have hengine := s.happen_engine (StoreEvent.ne_shutdown_of_isTimed hevents.1)
    obtain ⟨m, hticking, hpunctual⟩ := h.happen hqueues hevents.1
    obtain ⟨queue', hqueues', -⟩ := hqueues.afterAll (s.happeningsOf event)
    rw [← hengine] at hqueues'
    obtain ⟨n, hticking', hpunctual'⟩ := ih hticking hqueues' hevents.2
    rw [Ticker.later_later] at hticking'
    rw [hengine] at hpunctual'
    exact ⟨m + n, hticking', hpunctual.append hpunctual'⟩

end ResultStore

/-! ### Ticks and what waits -/

/-- What a tick of the flusher does within a sequence of happenings, between what was earlier and
    what comes later. -/
structure Engine.Drained (start : Engine) (earlier later : List Happening) : Prop where
  /-- Nothing waits any more. -/
  emptied : ((start.afterAll earlier).after .flusherTick).writes.pending = 0
  /-- All that waited was passed as one batch, and nothing if nothing did. -/
  batch : ((start.afterAll earlier).after .flusherTick).gate.record
    = (start.afterAll earlier).gate.record
      ++ if (start.afterAll earlier).writes.waiting = [] then []
         else [(start.afterAll earlier).writes.waiting]
  /-- All that was accepted before is in the batches sent by then, once and in order. -/
  passed : (start.collect accepted earlier).map (·.2)
    = (queueBatches (start.collect Engine.passed (earlier ++ [.flusherTick]))).flatten
  /-- What is accepted later is accepted at that instant or after it. -/
  newer : ∀ a ∈ ((start.afterAll earlier).after .flusherTick).collect accepted later,
    (start.afterAll earlier).now.monotonic ≤ a.1
  /-- What waits in the end was accepted after the tick. -/
  waiting : (start.afterAll (earlier ++ .flusherTick :: later)).writes.waiting
    <:+ (((start.afterAll earlier).after .flusherTick).collect accepted later).map (·.2)

theorem Engine.Queues.drained {start : Engine} (h : start.Queues []) {earlier later : List Happening}
    (hforward : start.Forward (earlier ++ .flusherTick :: later)) :
    start.Drained earlier later := by
  obtain ⟨queue, hqueue, -⟩ := h.afterAll earlier
  have hdrained : ((start.afterAll earlier).after .flusherTick).Queues [] := by
    obtain ⟨metrics, htick⟩ := (start.afterAll earlier).after_flusherTick
    rw [htick]
    exact hqueue.sendQueue
  constructor
  · rw [WritePath.pending_eq, hdrained]
    rfl
  · rw [hqueue.after_record, Engine.passed, sending]
    split <;> rfl
  · obtain ⟨queue', hqueue', hconserved⟩ := h.afterAll (earlier ++ [.flusherTick])
    have hnone : queue' = [] := by
      rw [afterAll_append] at hqueue'
      have hsame := hqueue'.symm.trans hdrained
      simpa using hsame
    rw [hnone, List.append_nil, collect_append, List.map_append] at hconserved
    rw [← hconserved]
    simp [collect, accepted, Happening.commands]
  · have hlater := hforward.right.2.collected accepted (·.1) ?_
    · intro a ha
      have hfirst := (hlater a ha).1
      rw [hqueue.after_now (by simp)] at hfirst
      exact hfirst
    · intro e x a ha
      unfold accepted at ha
      split at ha
      · obtain ⟨c, -, rfl⟩ := List.mem_map.1 ha
        rfl
      · cases ha
  · obtain ⟨queue', hqueue', hconserved⟩ := hdrained.afterAll later
    have hend : start.afterAll (earlier ++ .flusherTick :: later)
        = ((start.afterAll earlier).after .flusherTick).afterAll later := afterAll_append ..
    rw [hend, hqueue', ← List.nil_append (List.map _ _), hconserved]
    exact List.suffix_append _ _

/-- In a batched store a write waits at most for one tick of the flusher, whatever fails.  The
    flusher ticks each time that its period has passed, and every tick drains the queue. -/
theorem ResultStore.staleness_bounded (backend : Backend) (options : Options) (now : Now)
    (clock : ManualClock) (events : List StoreEvent) (hbatched : options.pipePeriod.isZero = false)
    (hfirst : (Instant.add? now.monotonic options.pipePeriod).isSome = true)
    (hevents : ∀ event ∈ events, event.isTimed = true) :
    let start := start backend options now clock
    let log := start.happenings events
    let passings := start.engine.collect Engine.passed log
    let s := start.undergo events
    let first : Ticker := ⟨now.monotonic + options.pipePeriod.nanos, options.pipePeriod.nanos⟩
    s.engine = start.engine.afterAll log ∧
      s.engine.gate.record = passings.map (·.batch) ∧
      (start.engine.collect Engine.accepted log).map (·.2)
        = (queueBatches passings).flatten ++ s.engine.writes.waiting ∧
      (∀ earlier later, log = earlier ++ .flusherTick :: later →
        start.engine.Drained earlier later) ∧
      ∃ ticks,
        start.engine.collect Engine.flusherTicks log
          = (List.range ticks).map (fun k => (first.later k).due) ∧
        ∀ k, (first.later k).due ≤ s.engine.now.monotonic ↔ k < ticks := by
  intro start log passings s first
  have hshutdown : .act .shutdown ∉ events := fun hmem => by cases hevents _ hmem
  have hengine : s.engine = start.engine.afterAll log := start.undergo_engine hshutdown
  have hstart : start.engine.Queues [] := queues_start backend now clock hbatched
  obtain ⟨queue, hqueue, hconserved⟩ := hstart.afterAll log
  have hticking : start.Ticking first := ticking_start backend clock hbatched hfirst
  obtain ⟨ticks, ⟨loops, -, hontime⟩, hpunctual⟩ := hticking.undergo hstart hevents
  have hnext : s.engine.now.monotonic < (first.later ticks).due := hontime.due
  rw [hengine] at hnext ⊢
  refine ⟨rfl, hstart.afterAll_record log, ?_, ?_, ticks, hpunctual.ticks,
    hpunctual.due_le_iff hnext⟩
  · rw [hqueue]
    exact hconserved
  · intro earlier later hlog
    apply hstart.drained
    rw [← hlog]
    exact hpunctual.forward

/-- The first batch fails, the purger ticks between two ticks of the flusher, and a write comes after
    the last. -/
theorem ResultStore.staleness_bounded_refused :
    let options : Options := ⟨.zero, ⟨90000000, by decide⟩, ⟨60000000, by decide⟩⟩
    let events : List StoreEvent :=
      [.act (.job (.set "a" [1])), .refuse [.execute], .act (.job (.sleep 100000000)), .refuse [],
        .act (.job (.record .success "a")), .act (.job (.sleep 50000000)),
        .act (.job (.set "b" [2]))]
    let start := ResultStore.start (.memory .empty) options ⟨0, 0⟩ ⟨5⟩
    let log := start.happenings events
    let s := start.undergo events
    s.engine.gate.record.map (·.length) = [1, 3] ∧ s.engine.metrics.flushFailures = 1 ∧
      s.engine.writes.waiting = [.set (resultKey "b") [2] none] ∧
      start.engine.collect Engine.flusherTicks log = [60000000, 120000000] ∧
      ∀ earlier later, log = earlier ++ .flusherTick :: later →
        start.engine.Drained earlier later := by
  intro options events start log s
  obtain ⟨-, -, -, hdrained, -⟩ :=
    staleness_bounded (.memory .empty) options ⟨0, 0⟩ ⟨5⟩ events rfl (by decide) (by decide)
  exact ⟨by decide, by decide, by decide, by decide, hdrained⟩

end JobResults
