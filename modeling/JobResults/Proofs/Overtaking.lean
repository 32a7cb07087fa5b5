import JobResults.Proofs.Memory.Slots
import JobResults.Proofs.Traffic

/-!
  # Batches that overtake each other

  A call takes the queue in one step and hands its batch to the store in another, and nothing keeps
  a later call from handing over its batch in between.  So the store may run batches in another
  order than that of taking, which is the order of acceptance.  For every key it comes to the same
  as long as the batches with commands on that key do not overtake each other
  (`last_write_wins_in_order`); where calls do not overlap none do (`Serial.inOrder`).  A batch that
  the store refuses is dropped and its commands are not kept for another one.  A call whose steps
  follow each other is `Engine.sendQueue` on the store in memory (`Engine.sendQueue_memory`).
-/

namespace JobResults

namespace Traffic

/-- The batch that an event passes to the store, with the place of its call. -/
def passed? (t : Traffic) : Event → Option (Nat × List Command)
  | .hand place =>
    match t.sendings[place]? with
    | some ⟨batch, .taken⟩ => some (place, batch)
    | _ => none
  | _ => none

theorem record_step (answers : Nat → Except StoreError Unit) (t : Traffic) (event : Event) :
    (t.step answers event).record = t.record ++ (t.passed? event).toList := by
  cases event with
  | enqueue c =>
    simp only [step, passed?]
    split <;> simp
  | close => simp [step, passed?]
  | take => simp [step, passed?]
  | hand place =>
    cases hs : t.sendings[place]? with
    | none => simp [step, passed?, hs]
    | some s =>
      obtain ⟨batch, stage⟩ := s
      cases stage with
      | taken => simp [step, passed?, hs]
      | handed => simp [step, passed?, hs]
      | returned result => simp [step, passed?, hs]
  | answer place =>
    simp only [step, passed?]
    split <;> simp

/-- The calls have taken their batches in the order of their places. -/
theorem batches_ascending (t : Traffic) : t.batches.Pairwise fun b b' => b.1 < b'.1 := by
  refine List.Pairwise.filter _ ?_
  rw [List.pairwise_map]
  have hplaces : (t.sendings.zipIdx.map (·.2)).Pairwise (· < ·) := by
    rw [List.zipIdx_map_snd]
    exact List.pairwise_lt_range'
  exact List.pairwise_map.mp hplaces

end Traffic

/-- Traffic on a queue in front of the store in memory. -/
structure MemoryTraffic where
  traffic : Traffic
  store : Memory.Store
  deriving DecidableEq

namespace MemoryTraffic

open Traffic (Event)

def start (s : Memory.Store) : MemoryTraffic := ⟨.start .empty, s⟩

section

-- what the store answers to the call at each place, and when that call hands over its batch
variable (answers : Nat → Except StoreError Unit) (instants : Nat → Instant)

/-- The store runs a batch that is passed to it, unless it answers with an error. -/
def step (m : MemoryTraffic) (event : Event) : MemoryTraffic where
  traffic := m.traffic.step answers event
  store :=
    match m.traffic.passed? event with
    | some (place, batch) =>
      if (answers place).isOk then m.store.execute (instants place) batch else m.store
    | none => m.store

def run (m : MemoryTraffic) (events : List Event) : MemoryTraffic :=
  events.foldl (step answers instants) m

/-- The commands of a batch at the instant of its call, or none of them if it is refused. -/
def dated (b : Nat × List Command) : List (Instant × Command) :=
  if (answers b.1).isOk then b.2.map fun c => (instants b.1, c) else []

/-- The commands in the order of acceptance, without those of refused batches. -/
def kept (t : Traffic) : List (Instant × Command) := t.batches.flatMap (dated answers instants)

/-- A batch that the store runs and that has a command on a key. -/
def concerns (key : String) (b : Nat × List Command) : Bool :=
  (answers b.1).isOk && Refusal.touches key b.2

/-- The batches with commands on a key have reached the store in the order of taking. -/
def InOrder (t : Traffic) (key : String) : Prop :=
  (t.record.filter (concerns answers key)).Pairwise fun b b' => b.1 < b'.1

instance (t : Traffic) (key : String) : Decidable (InOrder answers t key) :=
  inferInstanceAs (Decidable (List.Pairwise _ _))

end

variable {answers : Nat → Except StoreError Unit} {instants : Nat → Instant}

/-! ### What the store holds -/

theorem run_traffic (m : MemoryTraffic) (events : List Event) :
    (m.run answers instants events).traffic = m.traffic.run answers events := by
  induction events generalizing m with
  | nil => rfl
  | cons event events ih => exact ih (m.step answers instants event)

/-- The store holds what the batches on record have made of it. -/
def Landed (answers : Nat → Except StoreError Unit) (instants : Nat → Instant) (s : Memory.Store)
    (m : MemoryTraffic) : Prop :=
  m.store = s.applyDated (m.traffic.record.flatMap (dated answers instants))

theorem landed_start (s : Memory.Store) : Landed answers instants s (start s) := rfl

theorem Landed.step {s : Memory.Store} {m : MemoryTraffic} (h : Landed answers instants s m)
    (event : Event) : Landed answers instants s (m.step answers instants event) := by
  unfold Landed MemoryTraffic.step at *
  dsimp only
  rw [Traffic.record_step, List.flatMap_append, Memory.Store.applyDated_append, ← h]
  cases m.traffic.passed? event with
  | none => rfl
  | some b =>
    obtain ⟨place, batch⟩ := b
    by_cases hok : (answers place).isOk = true
    · simp [dated, hok, Memory.Store.applyDated_batch]
    · simp [dated, hok, Memory.Store.applyDated]

theorem Landed.run {s : Memory.Store} {m : MemoryTraffic} (h : Landed answers instants s m)
    (events : List Event) : Landed answers instants s (m.run answers instants events) := by
  induction events generalizing m with
  | nil => exact h
  | cons event events ih => exact ih (h.step event)

/-! ### The order of taking -/

/-- The commands on a key are those of the batches that concern it. -/
theorem filter_dated (batches : List (Nat × List Command)) (key : String) :
    ((batches.flatMap (dated answers instants)).filter fun c => key = c.2.key) =
      ((batches.filter (concerns answers key)).flatMap (dated answers instants)).filter
        fun c => key = c.2.key := by
  induction batches with
  | nil => rfl
  | cons b batches ih =>
    by_cases h : concerns answers key b = true
    · simp [h, ih]
    · have hnone : ((dated answers instants b).filter fun c => key = c.2.key) = [] := by
        unfold dated
        split
        · next hok =>
          simp only [concerns, hok, Refusal.touches, Bool.true_and, List.any_eq_true, beq_iff_eq,
            not_exists, not_and] at h
          simp only [List.filter_eq_nil_iff, List.mem_map, decide_eq_true_eq]
          rintro _ ⟨c, hc, rfl⟩ hkey
          exact h c hc hkey.symm
        · rfl
      simp [h, ih, hnone]

/-- When all calls have returned, batches in order are the batches that were taken. -/
theorem filter_record {t : Traffic} (h : t.Orderly answers)
    (hreturned : ∀ place < t.sendings.length, t.hasReturned place = true) {key : String}
    (horder : InOrder answers t key) :
    t.record.filter (concerns answers key) = t.batches.filter (concerns answers key) := by
  refine List.Perm.eq_of_pairwise (fun b b' _ _ hlt hgt => ?_) horder
    (t.batches_ascending.filter _) ((h.record_perm hreturned).filter _)
  exact absurd hlt (Nat.lt_asymm hgt)

theorem kept_commands (t : Traffic) :
    (kept answers instants t).map (·.2) =
      ((t.batches.filter fun b => (answers b.1).isOk).map (·.2)).flatten := by
  unfold kept
  induction t.batches with
  | nil => rfl
  | cons b batches ih =>
    by_cases hok : (answers b.1).isOk = true
    · have hbatch : (dated answers instants b).map (·.2) = b.2 := by
        simp only [dated, hok, if_true, List.map_map]
        exact List.map_id b.2
      simp [hok, hbatch, ih]
    · simp [dated, hok, ih]

/-- When the queue is empty and all calls have returned, the accepted commands are those of the
    batches one after another.  What the store holds under a key is what the commands of all
    batches that it has not refused make of it in that order, provided that those of them with
    commands on that key were handed over in the order in which they were taken. -/
theorem last_write_wins_in_order (answers : Nat → Except StoreError Unit)
    (instants : Nat → Instant) (s : Memory.Store) (events : List Event) :
    let m := (start s).run answers instants events
    m.traffic.pipeline.queue = [] →
    (∀ place < m.traffic.sendings.length, m.traffic.hasReturned place = true) →
      m.traffic.accepted = (m.traffic.batches.map (·.2)).flatten ∧
      (kept answers instants m.traffic).map (·.2) =
        ((m.traffic.batches.filter fun b => (answers b.1).isOk).map (·.2)).flatten ∧
      (∀ key, InOrder answers m.traffic key →
        m.store.slot key = (s.applyDated (kept answers instants m.traffic)).slot key) ∧
      ((∀ key, InOrder answers m.traffic key) →
        m.store = s.applyDated (kept answers instants m.traffic)) := by
  intro m hqueue hreturned
  have horderly : m.traffic.Orderly answers := by
    rw [run_traffic]
    exact (Traffic.orderly_start .empty).run events
  have hlanded : Landed answers instants s m := (landed_start s).run events
  have hkey : ∀ key, InOrder answers m.traffic key →
      m.store.slot key = (s.applyDated (kept answers instants m.traffic)).slot key := by
    intro key horder
    rw [hlanded]
    refine Memory.Store.slot_applyDated_congr s ?_
    rw [kept, filter_dated, filter_record horderly hreturned horder, ← filter_dated]
  refine ⟨?_, kept_commands _, hkey,
    fun horder => Memory.Store.ext_slot fun key => hkey key (horder key)⟩
  rw [Traffic.flatten_batches, ← horderly.conserved, hqueue, List.append_nil]

/-- Three calls: the second one overtakes the first, which has a command on another key, and the
    third one is refused. -/
theorem last_write_wins_in_order_other_key :
    let answers : Nat → Except StoreError Unit := fun place =>
      if place = 2 then .error .remote else .ok ()
    let m := (start .empty).run answers (fun place => 10 - place)
      [.enqueue (.set "a" [1] none), .take, .enqueue (.set "b" [2] none), .take, .hand 1,
        .enqueue (.delete "b"), .take, .hand 2, .hand 0, .answer 2, .answer 0, .answer 1]
    m.traffic.record = [(1, [.set "b" [2] none]), (2, [.delete "b"]), (0, [.set "a" [1] none])] ∧
      m.traffic.accepted = (m.traffic.batches.map (·.2)).flatten ∧
      m.store = (Memory.Store.empty.apply 10 (.set "a" [1] none)).apply 9 (.set "b" [2] none) := by
  intro answers m
  have hrecord : m.traffic.record =
      [(1, [.set "b" [2] none]), (2, [.delete "b"]), (0, [.set "a" [1] none])] := by decide
  obtain ⟨haccepted, -, -, hstore⟩ :=
    last_write_wins_in_order answers (fun place => 10 - place) .empty
      [.enqueue (.set "a" [1] none), .take, .enqueue (.set "b" [2] none), .take, .hand 1,
        .enqueue (.delete "b"), .take, .hand 2, .hand 0, .answer 2, .answer 0, .answer 1]
      (by decide) (by decide)
  refine ⟨hrecord, haccepted, (hstore fun key => ?_).trans (by decide)⟩
  change (m.traffic.record.filter (concerns answers key)).Pairwise fun b b' => b.1 < b'.1
  rw [hrecord]
  by_cases ha : key = "a"
  · subst ha
    decide
  · -- without the first batch one is left that is not refused
    have hfirst : concerns answers key (0, [.set "a" [1] none]) = false := by
      simp [concerns, Refusal.touches, Command.key, Ne.symm ha]
    have hrefused : concerns answers key (2, [.delete "b"]) = false := rfl
    rw [List.filter_cons]
    split
    · simp [hfirst, hrefused]
    · simp [hfirst, hrefused]

/-- The first of two writes wins where its batch is overtaken, and where the other is refused. -/
theorem overtaken_write_wins :
    let first : Command := .set "k" [1] none
    let second : Command := .set "k" [2] none
    let crossing := (start .empty).run (fun _ => .ok ()) (fun _ => 0)
      [.enqueue first, .take, .enqueue second, .take, .hand 1, .answer 1, .hand 0, .answer 0]
    let refused := (start .empty).run (fun place => if place = 0 then .ok () else .error .remote)
      (fun _ => 0)
      [.enqueue first, .take, .hand 0, .answer 0, .enqueue second, .take, .hand 1, .answer 1]
    ∀ m ∈ [crossing, refused],
      m.traffic.pipeline.queue = [] ∧
      (∀ place < m.traffic.sendings.length, m.traffic.hasReturned place = true) ∧
      m.traffic.accepted = [first, second] ∧
      m.store.get 0 "k" = some [1] ∧
      (Memory.Store.empty.execute 0 m.traffic.accepted).get 0 "k" = some [2] := by
  decide

/-! ### Calls that do not overlap -/

/-- Every call takes the queue when all calls before it have returned. -/
def Serial (answers : Nat → Except StoreError Unit) : Traffic → List Event → Prop
  | _, [] => True
  | t, event :: events =>
    (event = .take → ∀ place < t.sendings.length, t.hasReturned place = true) ∧
      Serial answers (t.step answers event) events

/-- The batches on record ascend, and a call that has its batch still to hand over is the last. -/
structure Ascending (t : Traffic) : Prop where
  record : t.record.Pairwise fun b b' => b.1 < b'.1
  waiting : ∀ place batch, t.sendings[place]? = some ⟨batch, .taken⟩ →
    place + 1 = t.sendings.length ∧ ∀ b ∈ t.record, b.1 < place

theorem Ascending.step {t : Traffic} (h : Ascending t) (horderly : t.Orderly answers)
    {event : Event}
    (hserial : event = .take → ∀ place < t.sendings.length, t.hasReturned place = true) :
    Ascending (t.step answers event) := by
  cases event with
  | enqueue c =>
    simp only [Traffic.step]
    split
    · exact ⟨h.record, h.waiting⟩
    · exact h
  | close => exact ⟨h.record, h.waiting⟩
  | take =>
    refine ⟨h.record, fun place batch hs => ?_⟩
    simp only [Traffic.step, Pipeline.take] at hs ⊢
    rcases Traffic.getElem?_sendings_concat.mp hs with hold | ⟨rfl, -⟩
    · have hreturned := hserial rfl place (List.getElem?_eq_some_iff.1 hold).1
      simp [Traffic.hasReturned, hold] at hreturned
    · refine ⟨by simp, fun b hb => ?_⟩
      obtain ⟨stage, hb, -⟩ := (horderly.recorded b.1 b.2).mp hb
      exact (List.getElem?_eq_some_iff.1 hb).1
  | hand place =>
    simp only [Traffic.step]
    split
    · next batch hs =>
      obtain ⟨hlast, hbefore⟩ := h.waiting place batch hs
      refine ⟨?_, fun other batch' hother => ?_⟩
      · refine List.pairwise_append.mpr ⟨h.record, List.pairwise_singleton _ _, ?_⟩
        intro b hb b' hb'
        rw [List.mem_singleton.mp hb']
        exact hbefore b hb
      · -- no other call waits
        rw [Traffic.getElem?_sendings_set hs] at hother
        split at hother
        · cases hother
        · next hne =>
          have := (h.waiting other batch' hother).1
          omega
    · exact h
  | answer place =>
    simp only [Traffic.step]
    split
    · next batch hs =>
      refine ⟨h.record, fun other batch' hother => ?_⟩
      rw [Traffic.getElem?_sendings_set hs] at hother
      split at hother
      · cases hother
      · rw [List.length_set]
        exact h.waiting other batch' hother
    · exact h

theorem Ascending.run {t : Traffic} (h : Ascending t) (horderly : t.Orderly answers)
    {events : List Event} (hserial : Serial answers t events) :
    Ascending (t.run answers events) := by
  induction events generalizing t with
  | nil => exact h
  | cons event events ih =>
    exact ih (h.step horderly hserial.1) (horderly.step event) hserial.2

/-- Where calls do not overlap, no batch overtakes another one. -/
theorem Serial.inOrder {events : List Event} (h : Serial answers (.start .empty) events)
    (key : String) : InOrder answers ((Traffic.start .empty).run answers events) key := by
  have hascending : Ascending (Traffic.start .empty) := ⟨List.Pairwise.nil, nofun⟩
  exact (hascending.run (Traffic.orderly_start .empty) h).record.filter _

/-! ### A call that nobody interrupts -/

/-- An empty queue is not passed to the store, and any other one is run as a batch. -/
theorem store_alone (m : MemoryTraffic) :
    (m.run answers instants m.traffic.alone).store =
      if m.traffic.pipeline.queue ≠ [] ∧ (answers m.traffic.sendings.length).isOk = true then
        m.store.execute (instants m.traffic.sendings.length) m.traffic.pipeline.queue
      else m.store := by
  by_cases hqueue : m.traffic.pipeline.queue = []
  · simp [run, Traffic.alone, step, Traffic.passed?, Traffic.step, Pipeline.take, Sending.ofBatch,
      hqueue]
  · simp [run, Traffic.alone, step, Traffic.passed?, Traffic.step, Pipeline.take, Sending.ofBatch,
      hqueue]

end MemoryTraffic

namespace Engine

/-- The store in memory runs a batch unless the call is refused. -/
theorem execute_memory {e : Engine} {s : Memory.Store} (h : e.gate.backend = .memory s)
    (batch : List Command) :
    (e.execute batch).1.gate.backend =
      .memory (if (e.execute batch).2.isOk then s.execute e.now.monotonic batch else s) := by
  have hbackend : (e.gate.note (.execute batch)).backend = .memory s := h
  cases hrefused : (e.gate.note (.execute batch)).refused? (.execute batch) with
  | some refusal =>
    have hanswer : e.gate.answer e.now (.execute batch) =
        (e.gate.note (.execute batch), .error refusal) := by
      simp only [Gate.answer, hrefused]
    unfold execute call
    rw [hanswer]
    exact hbackend
  | none =>
    have hanswer : e.gate.answer e.now (.execute batch) =
        ({ e.gate.note (.execute batch) with
            backend := .memory (s.execute e.now.monotonic batch) }, .ok .done) := by
      simp only [Gate.answer, hrefused, hbackend]
      rfl
    unfold execute call
    rw [hanswer]
    rfl

/-- Sending the queue does to the store in memory what an uninterrupted call does. -/
theorem sendQueue_memory {e : Engine} {m : MemoryTraffic}
    (hwrites : e.writes = .batched m.traffic.pipeline) (hstore : e.gate.backend = .memory m.store) :
    e.sendQueue.1.gate.backend =
      .memory (m.run (fun _ => (e.execute m.traffic.pipeline.queue).2) (fun _ => e.now.monotonic)
        m.traffic.alone).store := by
  rw [MemoryTraffic.store_alone]
  by_cases hqueue : m.traffic.pipeline.queue = []
  · have hwaiting : e.writes.waiting = [] := by
      rw [hwrites]
      exact hqueue
    rw [sendQueue_of_empty hwaiting, hstore]
    simp [hqueue]
  · rw [sendQueue_of_queue hwrites hqueue]
    refine (execute_memory hstore _).trans ?_
    simp [hqueue]

end Engine

end JobResults
