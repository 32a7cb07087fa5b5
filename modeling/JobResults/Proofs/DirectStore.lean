import JobResults.Proofs.Engine
import JobResults.Proofs.JobSystem
import JobResults.Proofs.Memory.Store

/-!
  # Result stores that write directly

  A result store that writes directly to a store in memory follows a system of jobs
  (`Engine.Follows`): every operation, every tick and every passage of time does to the store
  what it does to the system, and tells the same (`Follows.act`).  So a run of actions tells what
  it tells on the table of jobs.
-/

namespace JobResults

/-- The engine of an open store that writes directly to a backend and is refused nothing. -/
structure Engine.Direct (e : Engine) (b : Backend) : Prop where
  backend : e.gate.backend = b
  unrefused : e.gate.refusals = []
  writes : e.writes = .direct false

namespace Engine.Direct

variable {e : Engine} {b : Backend}

/-- A call goes to the backend and changes nothing else. -/
theorem call (h : e.Direct b) (c : StoreCall) :
    ∃ gate, e.call c = ({ e with gate := gate }, (b.answer e.now c).2) ∧
      ({ e with gate := gate } : Engine).Direct (b.answer e.now c).1 := by
  obtain ⟨gate, hcall, hbackend, hrefusals⟩ := call_of_unrefused h.unrefused c
  rw [h.backend] at hcall hbackend
  exact ⟨gate, hcall, hbackend, hrefusals, h.writes⟩

end Engine.Direct

/-! ### One engine -/

/-- The loops of a store that follows a system: no flusher, and the purger of the system. -/
def JobSystem.supervisor (t : JobSystem) : Supervisor :=
  ⟨.absent, t.purger, t.options.metaExpiry, false⟩

/-- An engine that writes directly to a store in memory, which holds the table of a system. -/
structure Engine.Follows (e : Engine) (t : JobSystem) (m : Memory.Store) : Prop where
  direct : e.Direct (.memory m)
  now : e.now.monotonic = t.now
  clock : e.clock.now = t.clock
  wellFormed : m.WellFormed
  held : t.table.Held m.contents

namespace Engine.Follows

variable {e : Engine} {t : JobSystem} {m : Memory.Store}

/-- A call after which the contents hold a table is a step to that table. -/
theorem call (h : e.Follows t m) (c : StoreCall) {table : JobTable Memory.Entry}
    (htable : table.Held (m.contents.after (Memory.stamp t.now) (t.isExpired ·) c)) :
    ∃ e', e.call c = (e', .ok (m.answer t.now c).2) ∧
      e'.Follows { t with table := table } (m.answer t.now c).1 := by
  obtain ⟨gate, hcall, hdirect⟩ := h.direct.call c
  obtain ⟨hwell, hcontents⟩ := h.wellFormed.answer t.now c
  refine ⟨{ e with gate := gate }, ?_, ?_, h.now, h.clock, hwell, ?_⟩
  · rw [hcall, Backend.answer, h.now]
  · rw [← h.now]
    exact hdirect
  · rw [hcontents]
    exact htable

/-- A written command. -/
theorem submit (h : e.Follows t m) (c : Command) {table : JobTable Memory.Entry}
    (htable : table.Held (m.contents.apply (Memory.stamp t.now) c)) :
    ∃ e' m', e.submit c = (e', .ok ()) ∧ e'.Follows { t with table := table } m' := by
  obtain ⟨e', hcall, hfollows⟩ := h.call (.execute [c]) htable
  refine ⟨e', _, ?_, hfollows⟩
  rw [Engine.submit, h.direct.writes]
  simp only [Engine.execute, hcall]
  rfl

/-- Counting changes nothing that the system knows. -/
theorem count (h : e.Follows t m) (f : Metrics → Metrics) : (e.count f).Follows t m :=
  ⟨⟨h.direct.backend, h.direct.unrefused, h.direct.writes⟩, h.now, h.clock, h.wellFormed, h.held⟩

theorem moveTo (h : e.Follows t m) (instant : Instant) :
    (e.moveTo instant).Follows { t with now := instant } m :=
  ⟨⟨h.direct.backend, h.direct.unrefused, h.direct.writes⟩, rfl, h.clock, h.wellFormed, h.held⟩

/-! ### Purges -/

theorem trim (h : e.Follows t m) (o : Outcome) (window : Duration) :
    ∃ e' m', e.trim o (Score.clamp (exactCutoff t.clock window)) = (e', .ok ()) ∧
      e'.Follows { t with table := t.table.trim o (exactCutoff t.clock window) } m' :=
  h.submit _ (h.held.trim _ o (stale_exactCutoff t.clock window))

theorem evict (h : e.Follows t m) :
    ∃ e' m', e.evict = (e', .ok (t.table.expired t.isExpired)) ∧
      e'.Follows { t with table := t.table.evict t.isExpired } m' := by
  obtain ⟨e', hcall, hfollows⟩ := h.call .evict (h.held.evict _)
  refine ⟨e', _, ?_, hfollows⟩
  have hcount : (m.evict t.now).2 = t.table.expired t.isExpired :=
    (Memory.Store.evict_count m t.now).trans (h.held.expired_eq fun _ => rfl)
  simp only [Engine.evict, hcall, Memory.Store.answer, hcount]

theorem purge (h : e.Follows t m) (window : Duration) :
    ∃ e' m', e.purge window = (e', .ok (t.purge window).2) ∧ e'.Follows (t.purge window).1 m' := by
  obtain ⟨e₁, m₁, hfailed, h₁⟩ := h.trim .failed window
  obtain ⟨e₂, m₂, hsuccess, h₂⟩ := h₁.trim .success window
  obtain ⟨e₃, m₃, hevict, h₃⟩ := h₂.evict
  refine ⟨e₃.count Metrics.purgeCompleted, m₃, ?_, ?_⟩
  · rw [Engine.purge, Engine.cutoff_eq, h.clock]
    dsimp only at hsuccess
    simp only [hfailed, hsuccess, hevict]
    rfl
  · have htable := t.table.purge_eq t.isExpired (exactCutoff t.clock window)
    rw [JobSystem.purge, ← htable]
    exact h₃.count _

/-! ### Time -/

theorem runTick (h : e.Follows t m) (instant : Instant) :
    ∃ e' m', Supervisor.runTick e t.supervisor (.purger instant)
        = (e', (t.tick instant).supervisor) ∧ e'.Follows (t.tick instant) m' := by
  have hmoved := h.moveTo (max t.now instant)
  obtain ⟨e', m', hpurge, h'⟩ := hmoved.purge t.options.metaExpiry
  refine ⟨e', m', ?_, h'.direct, h'.now, h'.clock, h'.wellFormed, h'.held⟩
  simp only [Supervisor.runTick, h.now, Engine.purgerTick, JobSystem.supervisor, hpurge]
  rfl

theorem runTicks (h : e.Follows t m) (target : Instant) (count : Nat) :
    ∃ e' m', Supervisor.runTicks target count e t.supervisor
        = (e', (JobSystem.ticks target count t).supervisor) ∧
      e'.Follows (JobSystem.ticks target count t) m' := by
  induction count generalizing e t m with
  | zero => exact ⟨e, m, rfl, h⟩
  | succ count ih =>
    have hnext : t.supervisor.nextTick? target = (t.purger.due? target).map .purger := by
      simp only [Supervisor.nextTick?, JobSystem.supervisor, Loop.due?]
      split <;> simp_all
    rw [Supervisor.runTicks, hnext, JobSystem.ticks]
    cases t.purger.due? target with
    | none => exact ⟨e, m, rfl, h⟩
    | some instant =>
      obtain ⟨e₁, m₁, htick, h₁⟩ := h.runTick instant
      obtain ⟨e', m', hrest, h'⟩ := ih h₁
      refine ⟨e', m', ?_, h'⟩
      simp only [Option.map_some, htick]
      exact hrest

theorem sleepUntil (h : e.Follows t m) (nanos : Nat) :
    ∃ e' m', Supervisor.sleepUntil e t.supervisor (t.now + nanos)
        = (e', (t.sleep nanos).supervisor) ∧ e'.Follows (t.sleep nanos) m' := by
  obtain ⟨e', m', hticks, h'⟩ :=
    h.runTicks (t.now + nanos) (t.purger.ticksUntil (t.now + nanos))
  refine ⟨_, m', ?_, h'.moveTo (t.now + nanos)⟩
  have hcount : t.supervisor.flusher.ticksUntil (t.now + nanos)
      + t.supervisor.purger.ticksUntil (t.now + nanos) = t.purger.ticksUntil (t.now + nanos) :=
    Nat.zero_add _
  simp only [Supervisor.sleepUntil, hcount, hticks]
  rfl

end Engine.Follows

/-! ### Operations -/

/-- The store of an engine that follows a system. -/
def JobSystem.store (t : JobSystem) (e : Engine) : ResultStore := ⟨e, t.options, some t.supervisor⟩

namespace Engine.Follows

variable {e : Engine} {t : JobSystem} {m : Memory.Store}

/-- A store tells the same as the system that it follows, and follows it on. -/
def Agrees (store : ResultStore) (t : JobSystem) (a : JobAction) : Prop :=
  ∃ e' m', store.act a = ((t.act a).1.store e', (t.act a).2) ∧ e'.Follows (t.act a).1 m'

/-- Writing a command for a caller. -/
theorem submitted (h : e.Follows t m) (c : Command) (counted : Metrics → Metrics)
    {table : JobTable Memory.Entry}
    (htable : table.Held (m.contents.apply (Memory.stamp t.now) c)) :
    ∃ e' m', (t.store e).submit c counted
        = (({ t with table := table } : JobSystem).store e', .ok ()) ∧
      e'.Follows { t with table := table } m' := by
  obtain ⟨e', m', hsubmit, h'⟩ := h.submit c htable
  refine ⟨e'.count counted, m', ?_, h'.count counted⟩
  simp only [ResultStore.submit, JobSystem.store, hsubmit]
  rfl

theorem set (h : e.Follows t m) {id : String} (hid : Plain id) (payload : Bytes) :
    Agrees (t.store e) t (.set id payload) := by
  have hentry : t.entry payload = Memory.stamp t.now payload (t.store e).ttl? := by
    have httl : (t.store e).ttl?
        = if t.options.expiry.isZero then none else some t.options.expiry := rfl
    rw [JobSystem.entry, Memory.stamp, httl]
    by_cases hzero : t.options.expiry.isZero = true
    · simp only [if_pos hzero, Option.bind_none]
    · simp only [if_neg hzero, Option.bind_some]
  obtain ⟨e', m', hsubmit, h'⟩ :=
    h.submitted (.set (resultKey id) payload (t.store e).ttl?) Metrics.resultWritten
      (h.held.put _ hid payload _)
  refine ⟨e', m', ?_, ?_⟩
  · simp only [ResultStore.act, ResultStore.set, ResultStore.reply, hsubmit, JobSystem.act, hentry]
    rfl
  · rw [JobSystem.act, hentry]
    exact h'

theorem record (h : e.Follows t m) (o : Outcome) (id : String) :
    Agrees (t.store e) t (.record o id) := by
  obtain ⟨e', m', hsubmit, h'⟩ :=
    h.submitted (.rank o.indexKey id t.clock) Metrics.outcomeRecorded (h.held.rank _ o id _)
  refine ⟨e', m', ?_, h'⟩
  have hclock : (t.store e).engine.clock.now = t.clock := h.clock
  simp only [ResultStore.act, ResultStore.record, ResultStore.reply, hclock, hsubmit]
  rfl

theorem get (h : e.Follows t m) (id : String) : Agrees (t.store e) t (.get id) := by
  obtain ⟨e', hcall, h'⟩ := h.call (.get (resultKey id)) h.held
  have hpayload : m.get t.now (resultKey id) = t.payload? id := by
    rw [Memory.Store.get_eq, Contents.payload, h.held.value]
    rfl
  have hact : (t.act (.get id)).1 = t := by
    simp only [JobSystem.act]
    split <;> rfl
  refine ⟨e', m, ?_, by rw [hact]; exact h'⟩
  simp only [Memory.Store.answer, hpayload] at hcall
  simp only [ResultStore.act, ResultStore.get, ResultStore.reply, JobSystem.store, hcall,
    JobSystem.act]
  cases t.payload? id <;> rfl

theorem list (h : e.Follows t m) (o : Outcome) : Agrees (t.store e) t (.list o) := by
  obtain ⟨e', hcall, h'⟩ := h.call (.range o.indexKey 0 t.clock) h.held
  have hlisted : m.range o.indexKey 0 t.clock = t.table.listed o t.clock := by
    rw [Memory.Store.range_eq]
    symm
    refine JobTable.listed_eq (Memory.RankedSet.ranking_ascending _) (fun r => ?_) t.clock
    rw [h.wellFormed.mem_ranking, h.held.score]
  refine ⟨e', m, ?_, h'⟩
  simp only [Memory.Store.answer, hlisted] at hcall
  simp only [ResultStore.act, ResultStore.list, ResultStore.reply, JobSystem.store, h.clock, hcall]
  rfl

theorem delete (h : e.Follows t m) {id : String} (hid : Plain id) :
    Agrees (t.store e) t (.delete id) := by
  have htable : (t.table.delete id).Held
      (m.contents.applyAll (Memory.stamp t.now) (ResultStore.deletion id)) := by
    rw [← t.table.delete_eq]
    have hsuccess := h.held.unrank (Memory.stamp t.now) .success id
    have hfailed := hsuccess.unrank (Memory.stamp t.now) .failed id
    exact hfailed.erase (Memory.stamp t.now) hid
  obtain ⟨e', hcall, h'⟩ := h.call (.execute (ResultStore.deletion id)) htable
  refine ⟨e'.count Metrics.jobDeleted, _, ?_, h'.count _⟩
  simp only [ResultStore.act, ResultStore.deleteJob, ResultStore.reply, JobSystem.store,
    h.direct.writes, WritePath.isClosed, Engine.execute, hcall]
  rfl

/-- A purge for a caller. -/
theorem purged (h : e.Follows t m) (window : Duration) :
    ∃ e' m', (t.store e).purgeOlderThan window
        = ((t.purge window).1.store e', .ok (t.purge window).2) ∧
      e'.Follows (t.purge window).1 m' := by
  obtain ⟨e', m', hpurge, h'⟩ := h.purge window
  refine ⟨e', m', ?_, h'⟩
  simp only [ResultStore.purgeOlderThan, JobSystem.store, hpurge]
  rfl

theorem purgeMetadata (h : e.Follows t m) : Agrees (t.store e) t .purgeMetadata := by
  have hoptions : (t.store e).options = t.options := rfl
  by_cases hzero : t.options.metaExpiry.isZero = true
  · refine ⟨e, m, ?_, ?_⟩
    · simp only [ResultStore.act, ResultStore.purgeMetadata, ResultStore.reply, hoptions,
        JobSystem.act, if_pos hzero]
      rfl
    · rw [JobSystem.act, if_pos hzero]
      exact h
  · obtain ⟨e', m', hpurge, h'⟩ := h.purged t.options.metaExpiry
    refine ⟨e', m', ?_, ?_⟩
    · simp only [ResultStore.act, ResultStore.purgeMetadata, ResultStore.reply, hoptions, hpurge,
        JobSystem.act, if_neg hzero]
      rfl
    · rw [JobSystem.act, if_neg hzero]
      exact h'

theorem tick (h : e.Follows t m) (instant : Instant) : Agrees (t.store e) t (.tick instant) := by
  cases hpurger : t.purger with
  | running ticker =>
    obtain ⟨e', m', htick, h'⟩ := h.runTick instant
    refine ⟨e', m', ?_, ?_⟩
    · simp only [JobSystem.supervisor, hpurger] at htick
      simp only [ResultStore.act, ResultStore.purgerTick, JobSystem.store, JobSystem.supervisor,
        hpurger, htick, JobSystem.act]
      rfl
    · simp only [JobSystem.act, hpurger]
      exact h'
  | absent =>
    refine ⟨e, m, ?_, ?_⟩
    · simp only [ResultStore.act, ResultStore.purgerTick, JobSystem.store, JobSystem.supervisor,
        hpurger, JobSystem.act]
    · simp only [JobSystem.act, hpurger]
      exact h
  | dead =>
    refine ⟨e, m, ?_, ?_⟩
    · simp only [ResultStore.act, ResultStore.purgerTick, JobSystem.store, JobSystem.supervisor,
        hpurger, JobSystem.act]
    · simp only [JobSystem.act, hpurger]
      exact h

/-- Whatever happens, a store tells the same as the system that it follows. -/
theorem act (h : e.Follows t m) (a : JobAction) (hids : ∀ id ∈ a.ids, Plain id) :
    Agrees (t.store e) t a := by
  cases a with
  | set id payload => exact h.set (hids id List.mem_cons_self) payload
  | record o id => exact h.record o id
  | get id => exact h.get id
  | list o => exact h.list o
  | delete id => exact h.delete (hids id List.mem_cons_self)
  | purgeMetadata => exact h.purgeMetadata
  | purgeOlderThan window =>
    obtain ⟨e', m', hpurge, h'⟩ := h.purged window
    refine ⟨e', m', ?_, h'⟩
    simp only [ResultStore.act, ResultStore.reply, hpurge]
    rfl
  | setClock reading =>
    exact ⟨_, m, rfl, ⟨h.direct.backend, h.direct.unrefused, h.direct.writes⟩, h.now, rfl,
      h.wellFormed, h.held⟩
  | sleep nanos =>
    obtain ⟨e', m', hsleep, h'⟩ := h.sleepUntil nanos
    refine ⟨e', m', ?_, h'⟩
    have hoptions : (t.sleep nanos).options = t.options := t.ticks_options _ _
    simp only [ResultStore.act, ResultStore.sleep, JobSystem.store, h.now, hsleep, JobSystem.act,
      hoptions]
  | tick instant => exact h.tick instant

theorem replies (h : e.Follows t m) (actions : List JobAction)
    (hids : ∀ a ∈ actions, ∀ id ∈ a.ids, Plain id) :
    (t.store e).replies actions = t.replies actions := by
  induction actions generalizing e t m with
  | nil => rfl
  | cons a actions ih =>
    obtain ⟨e', m', hact, h'⟩ := h.act a (hids a List.mem_cons_self)
    have hrest := ih h' fun b hb => hids b (List.mem_cons_of_mem _ hb)
    rw [ResultStore.replies, JobSystem.replies, hact, hrest]

end Engine.Follows

/-! ### Runs -/

theorem Duration.eq_zero_of_isZero {d : Duration} (h : d.isZero = true) : d = .zero := by
  obtain ⟨nanos, hbounded⟩ := d
  obtain rfl : nanos = 0 := by simpa [Duration.isZero] using h
  rfl

/-- Over a new store in memory that is written directly, every run of actions tells what it tells
    on a table of jobs.  The names of the outcomes are not used as ids. -/
theorem ResultStore.replies_eq_jobSystem (options : Options)
    (hdirect : options.pipePeriod = .zero) (now : Now) (clock : ManualClock)
    (actions : List JobAction) (hids : ∀ a ∈ actions, ∀ id ∈ a.ids, Plain id) :
    (ResultStore.start (.memory .empty) options now clock).replies actions
      = (JobSystem.start options now.monotonic clock.now).replies actions := by
  let t := JobSystem.start options now.monotonic clock.now
  let e : Engine := ⟨.ofBackend (.memory .empty), now, clock, .direct false, {}⟩
  have hfollows : e.Follows t .empty :=
    ⟨⟨rfl, rfl, rfl⟩, rfl, rfl, Memory.Store.wellFormed_empty, JobTable.Held.empty⟩
  have hloops : ResultStore.startLoops options now.monotonic = t.supervisor := by
    simp only [ResultStore.startLoops, ResultStore.positive?, hdirect, Supervisor.start, t,
      JobSystem.supervisor, JobSystem.start]
    by_cases hzero : options.metaExpiry.isZero = true
    · simp only [Duration.eq_zero_of_isZero hzero]
      rfl
    · simp only [if_neg hzero]
      rfl
  have hstart : ResultStore.start (.memory .empty) options now clock = t.store e := by
    simp only [ResultStore.start, hloops, hdirect]
    rfl
  rw [hstart]
  exact hfollows.replies actions hids

/-- A job that is recorded twice, a clock that goes back, and a purge that finds an expired
    record. -/
theorem ResultStore.replies_expired_record :
    let options : Options := ⟨⟨10, by decide⟩, ⟨1000000, by decide⟩, .zero⟩
    let actions : List JobAction :=
      [.setClock 50, .set "a" [1], .record .success "a", .record .failed "b", .setClock 70,
        .record .success "a", .list .success, .setClock 60, .list .success, .get "a", .sleep 10,
        .get "a", .purgeOlderThan ⟨20, by decide⟩, .list .failed, .tick 25, .setClock 70,
        .purgeOlderThan .zero, .list .success]
    (JobSystem.start options 5 0).replies actions
      = [.ok .done, .ok .done, .ok .done, .ok .done, .ok .done, .ok .done, .ok (.jobs ["a"]),
        .ok .done, .ok (.jobs []), .ok (.payload [1]), .ok .done, .error (.notFound "a"),
        .ok (.purged (some ⟨40, 1⟩)), .ok (.jobs ["b"]), .ok .done, .ok .done,
        .ok (.purged (some ⟨70, 0⟩)), .ok (.jobs [])] := by
  intro options actions
  have hids : ∀ a ∈ actions, ∀ id ∈ a.ids, Plain id := by decide
  rw [← ResultStore.replies_eq_jobSystem options rfl ⟨5, 5⟩ ⟨0⟩ actions hids]
  decide

end JobResults
