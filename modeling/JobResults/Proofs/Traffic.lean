import Mathlib.Data.List.Nodup
import JobResults.Proofs.Engine

/-!
  # Traffic on the queue

  Many callers share one queue: some accept commands, some close it, and some send it.  A call
  that sends works in three steps between which anything may happen: it takes the queue as its
  batch, it hands the batch to the store, and it returns with what the store answers.  A `Traffic`
  is the queue with all such calls, and a list of events is one way in which their steps may fall.
  What the store answers to each call is left open.

  `Orderly` is what every step keeps (`Orderly.step`) and so every run (`Orderly.run`): no command
  is lost, repeated or moved.  A call whose steps follow each other is `Engine.sendQueue`
  (`Engine.sendQueue_eq_alone`).
-/

namespace JobResults

inductive Stage where
  | taken
  | handed
  | returned (result : Except StoreError Nat)
  deriving DecidableEq, Repr

/-- A call that sends the queue, with the batch that it took. -/
structure Sending where
  batch : List Command
  stage : Stage
  deriving DecidableEq, Repr

/-- A call that has just taken a batch.  An empty batch is not sent: its call returns at once. -/
def Sending.ofBatch (batch : List Command) : Sending :=
  ⟨batch, if batch.isEmpty then .returned (.ok 0) else .taken⟩

/-- A queue and the calls that have sent it, in the order in which they took it.  The record holds
    the batches that were passed to the store, each with the place of its call. -/
structure Traffic where
  pipeline : Pipeline
  sendings : List Sending
  record : List (Nat × List Command)
  /-- The commands that the queue has accepted. -/
  accepted : List Command
  deriving DecidableEq, Repr

namespace Traffic

inductive Event where
  | enqueue (c : Command)
  | close
  | take
  /-- The call at a place hands its batch to the store. -/
  | hand (place : Nat)
  /-- The store answers the call at a place, which returns. -/
  | answer (place : Nat)
  deriving DecidableEq, Repr

def start (p : Pipeline) : Traffic := ⟨p, [], [], p.queue⟩

section

-- what the store answers to the call at each place
variable (answers : Nat → Except StoreError Unit)

/-- One step of one caller.  A step that its call cannot make leaves everything as it is. -/
def step (t : Traffic) : Event → Traffic
  | .enqueue c =>
    match t.pipeline.enqueue c with
    | .ok p => { t with pipeline := p, accepted := t.accepted ++ [c] }
    | .error _ => t
  | .close => { t with pipeline := t.pipeline.close }
  | .take =>
    let (batch, p) := t.pipeline.take
    { t with pipeline := p, sendings := t.sendings ++ [.ofBatch batch] }
  | .hand place =>
    match t.sendings[place]? with
    | some ⟨batch, .taken⟩ =>
      { t with
        sendings := t.sendings.set place ⟨batch, .handed⟩
        record := t.record ++ [(place, batch)] }
    | _ => t
  | .answer place =>
    match t.sendings[place]? with
    | some ⟨batch, .handed⟩ =>
      let result := (answers place).map fun _ => batch.length
      { t with sendings := t.sendings.set place ⟨batch, .returned result⟩ }
    | _ => t

def run (t : Traffic) (events : List Event) : Traffic := events.foldl (step answers) t

def alone (t : Traffic) : List Event :=
  [.take, .hand t.sendings.length, .answer t.sendings.length]

end

def hasReturned (t : Traffic) (place : Nat) : Bool :=
  match t.sendings[place]? with
  | some ⟨_, .returned _⟩ => true
  | _ => false

/-- The batches that were not empty, with the places of their calls, in the order of taking. -/
def batches (t : Traffic) : List (Nat × List Command) :=
  (t.sendings.zipIdx.map fun (s, place) => (place, s.batch)).filter fun b => !b.2.isEmpty

/-- The commands taken so far, batch after batch. -/
def sent (t : Traffic) : List Command := (t.sendings.map (·.batch)).flatten

/-! ### What every step keeps -/

/-- A call has returned the length of its batch, or the error of the store. -/
def Sound (answer : Except StoreError Unit) : Sending → Prop
  | ⟨batch, .returned result⟩ =>
    result = if batch = [] then .ok 0 else answer.map fun _ => batch.length
  | ⟨batch, _⟩ => batch ≠ []

/-- Nothing is lost, repeated or moved. -/
structure Orderly (answers : Nat → Except StoreError Unit) (t : Traffic) : Prop where
  conserved : t.sent ++ t.pipeline.queue = t.accepted
  /-- The record has the batch of each call that went past taking one, and no other. -/
  recorded : ∀ place batch, (place, batch) ∈ t.record ↔
    ∃ stage, t.sendings[place]? = some ⟨batch, stage⟩ ∧ batch ≠ [] ∧ stage ≠ .taken
  once : (t.record.map (·.1)).Nodup
  sound : ∀ place s, t.sendings[place]? = some s → Sound (answers place) s

variable {answers : Nat → Except StoreError Unit} {t : Traffic}

theorem orderly_start (p : Pipeline) : (start p).Orderly answers := by
  refine ⟨rfl, ?_, List.nodup_nil, ?_⟩
  · intro place batch
    simp [start]
  · intro place s hs
    simp [start] at hs

theorem Orderly.queue (h : t.Orderly answers) {p : Pipeline} {accepted : List Command}
    (hqueue : t.sent ++ p.queue = accepted) :
    Orderly answers { t with pipeline := p, accepted := accepted } :=
  ⟨hqueue, h.recorded, h.once, h.sound⟩

theorem Orderly.enqueue (h : t.Orderly answers) (c : Command) :
    (t.step answers (.enqueue c)).Orderly answers := by
  simp only [step, Pipeline.enqueue]
  split
  · next hp =>
    split at hp
    · cases hp
    · cases hp
      apply h.queue
      rw [← List.append_assoc, h.conserved]
  · exact h

theorem getElem?_sendings_concat {sendings : List Sending} {last s : Sending} {place : Nat} :
    (sendings ++ [last])[place]? = some s ↔
      sendings[place]? = some s ∨ place = sendings.length ∧ last = s := by
  rw [List.getElem?_append]
  split
  · next hlt =>
    constructor
    · exact .inl
    · rintro (hs | ⟨rfl, -⟩)
      · exact hs
      · exact absurd hlt (Nat.lt_irrefl _)
  · next hge =>
    rw [List.getElem?_eq_none (Nat.not_lt.1 hge), List.getElem?_singleton]
    simp
    omega

theorem Orderly.take (h : t.Orderly answers) : (t.step answers .take).Orderly answers := by
  simp only [step, Pipeline.take]
  refine ⟨?_, ?_, h.once, ?_⟩
  · have hsent := h.conserved
    simp only [sent] at hsent ⊢
    simpa [Sending.ofBatch] using hsent
  · -- the new call is not on record: its batch is empty or waits
    intro place batch
    simp only [h.recorded, getElem?_sendings_concat]
    constructor
    · rintro ⟨stage, hs, hpast⟩
      exact ⟨stage, .inl hs, hpast⟩
    · rintro ⟨stage, hs | ⟨-, hnew⟩, hne, hpast⟩
      · exact ⟨stage, hs, hne, hpast⟩
      · obtain ⟨rfl, rfl⟩ := Sending.mk.inj hnew
        simp [hne] at hpast
  · intro place s hs
    rw [getElem?_sendings_concat] at hs
    rcases hs with hs | ⟨-, rfl⟩
    · exact h.sound place s hs
    · unfold Sending.ofBatch
      cases hbatch : t.pipeline.queue with
      | nil => simp [Sound]
      | cons c rest => simp [Sound]

theorem getElem?_sendings_set {sendings : List Sending} {place : Nat} {old : Sending}
    (hold : sendings[place]? = some old) (new : Sending) (other : Nat) :
    (sendings.set place new)[other]? = if other = place then some new else sendings[other]? := by
  have hlt := (List.getElem?_eq_some_iff.1 hold).1
  rw [List.getElem?_set]
  by_cases hplace : place = other
  · subst hplace
    simp [hlt]
  · simp [hplace, Ne.symm hplace]

/-- A call that goes on keeps its batch. -/
theorem sent_set {place : Nat} {batch : List Command} {stage : Stage}
    (hs : t.sendings[place]? = some ⟨batch, stage⟩) (stage' : Stage) :
    ((t.sendings.set place ⟨batch, stage'⟩).map (·.batch)).flatten = t.sent := by
  have hbatch : (t.sendings.map (·.batch))[place]? = some batch := by
    rw [List.getElem?_map, hs]
    rfl
  obtain ⟨hlt, hget⟩ := List.getElem?_eq_some_iff.1 hbatch
  have hset : (t.sendings.map (·.batch)).set place batch = t.sendings.map (·.batch) := by
    conv_lhs => rw [← hget]
    exact List.set_getElem_self hlt
  rw [sent, List.map_set, hset]

/-- A call that goes on leaves all in order, if the record is right about it and its new stage is
    sound. -/
theorem Orderly.set (h : t.Orderly answers) {place : Nat} {batch : List Command}
    {stage stage' : Stage} {record : List (Nat × List Command)}
    (hs : t.sendings[place]? = some ⟨batch, stage⟩)
    (hrecorded : ∀ other batch', (other, batch') ∈ record ↔
      ∃ stage'', (t.sendings.set place ⟨batch, stage'⟩)[other]? = some ⟨batch', stage''⟩ ∧
        batch' ≠ [] ∧ stage'' ≠ .taken)
    (honce : (record.map (·.1)).Nodup) (hsound : Sound (answers place) ⟨batch, stage'⟩) :
    Orderly answers
      { t with sendings := t.sendings.set place ⟨batch, stage'⟩, record := record } := by
  refine ⟨?_, hrecorded, honce, ?_⟩
  · unfold sent
    rw [sent_set hs]
    exact h.conserved
  · intro other s hother
    rw [getElem?_sendings_set hs] at hother
    split at hother
    · next heq =>
      subst heq
      cases hother
      exact hsound
    · exact h.sound other s hother

theorem Orderly.hand (h : t.Orderly answers) (place : Nat) :
    (t.step answers (.hand place)).Orderly answers := by
  simp only [step]
  split
  · next batch hs =>
    have hne : batch ≠ [] := h.sound place _ hs
    refine h.set hs ?_ ?_ hne
    · intro other batch'
      simp only [List.mem_append, List.mem_singleton, h.recorded, getElem?_sendings_set hs]
      by_cases hother : other = place
      · subst hother
        simp only [hs, if_true]
        constructor
        · rintro (⟨stage, hstage, -, hpast⟩ | hnew)
          · cases hstage
            exact absurd rfl hpast
          · cases hnew
            exact ⟨.handed, rfl, hne, nofun⟩
        · rintro ⟨stage, hstage, -⟩
          cases hstage
          exact .inr rfl
      · simp [hother]
    · -- a call that holds its batch is not on record yet
      have hfresh : place ∉ t.record.map (·.1) := by
        intro hmem
        rw [List.mem_map] at hmem
        obtain ⟨⟨_, batch'⟩, hin, rfl⟩ := hmem
        obtain ⟨stage, hs', -, hpast⟩ := (h.recorded _ _).1 hin
        rw [hs] at hs'
        cases hs'
        exact hpast rfl
      rw [List.map_append, List.map_singleton, List.nodup_append]
      refine ⟨h.once, List.nodup_singleton _, ?_⟩
      intro a ha b hb heq
      rw [List.mem_singleton] at hb
      rw [heq, hb] at ha
      exact hfresh ha
  · exact h

theorem Orderly.answer (h : t.Orderly answers) (place : Nat) :
    (t.step answers (.answer place)).Orderly answers := by
  simp only [step]
  split
  · next batch hs =>
    have hne : batch ≠ [] := h.sound place _ hs
    refine h.set hs ?_ h.once (by simp [Sound, hne])
    intro other batch'
    simp only [h.recorded, getElem?_sendings_set hs]
    by_cases hother : other = place
    · subst hother
      simp only [hs]
      grind
    · simp [hother]
  · exact h

theorem Orderly.step (h : t.Orderly answers) (event : Event) :
    (t.step answers event).Orderly answers := by
  cases event with
  | enqueue c => exact h.enqueue c
  | close => exact h.queue h.conserved
  | take => exact h.take
  | hand place => exact h.hand place
  | answer place => exact h.answer place

theorem Orderly.run (h : t.Orderly answers) (events : List Event) :
    (t.run answers events).Orderly answers := by
  induction events generalizing t with
  | nil => exact h
  | cons event events ih => exact ih (h.step event)

/-! ### What was taken, and what was passed to the store -/

theorem mem_batches {place : Nat} {batch : List Command} :
    (place, batch) ∈ t.batches ↔
      ∃ stage, t.sendings[place]? = some ⟨batch, stage⟩ ∧ batch ≠ [] := by
  unfold batches
  rw [List.mem_filter, List.mem_map]
  constructor
  · rintro ⟨⟨⟨s, place'⟩, hs, heq⟩, hne⟩
    obtain ⟨rfl, rfl⟩ := Prod.mk.inj heq
    rw [List.mem_zipIdx_iff_getElem?] at hs
    exact ⟨s.stage, hs, by simpa using hne⟩
  · rintro ⟨stage, hs, hne⟩
    refine ⟨⟨(⟨batch, stage⟩, place), ?_, rfl⟩, by simpa using hne⟩
    rw [List.mem_zipIdx_iff_getElem?]
    exact hs

theorem nodup_batches (t : Traffic) : t.batches.Nodup := by
  have hplaces : (t.sendings.zipIdx.map fun (s, place) => (place, s.batch)).Nodup := by
    refine List.Nodup.of_map (·.1) ?_
    rw [List.map_map]
    have hsnd : t.sendings.zipIdx.map (·.2) = List.range' 0 t.sendings.length :=
      List.zipIdx_map_snd 0 _
    exact hsnd ▸ List.nodup_range'
  exact hplaces.filter _

theorem flatten_batches (t : Traffic) : (t.batches.map (·.2)).flatten = t.sent := by
  have hbatch : (t.sendings.zipIdx.map fun (s, place) => (place, s.batch)).map (·.2)
      = t.sendings.map (·.batch) := by
    calc (t.sendings.zipIdx.map fun (s, place) => (place, s.batch)).map (·.2)
      _ = (t.sendings.zipIdx.map (·.1)).map (·.batch) := by simp only [List.map_map]; rfl
      _ = t.sendings.map (·.batch) := by rw [List.zipIdx_map_fst]
  have hfilter : t.batches.map (·.2) = (t.sendings.map (·.batch)).filter fun b => !b.isEmpty := by
    rw [← hbatch, List.filter_map]
    rfl
  rw [hfilter, List.flatten_filter_not_isEmpty, sent]

/-- When all calls have returned, the store has got every batch, once. -/
theorem Orderly.record_perm (h : t.Orderly answers)
    (hreturned : ∀ place < t.sendings.length, t.hasReturned place = true) :
    t.record.Perm t.batches := by
  rw [List.perm_ext_iff_of_nodup h.once.of_map t.nodup_batches]
  rintro ⟨place, batch⟩
  rw [h.recorded, mem_batches]
  constructor
  · rintro ⟨stage, hs, hne, -⟩
    exact ⟨stage, hs, hne⟩
  · rintro ⟨stage, hs, hne⟩
    refine ⟨stage, hs, hne, ?_⟩
    rintro rfl
    have hplace := hreturned place (List.getElem?_eq_some_iff.1 hs).1
    simp [hasReturned, hs] at hplace

/-! ### A closed queue -/

/-- A closed queue stays closed and accepts nothing, and once it is empty it stays so. -/
theorem step_closed (answers : Nat → Except StoreError Unit) (h : t.pipeline.closed = true)
    (event : Event) :
    (t.step answers event).pipeline.closed = true ∧
      (t.step answers event).accepted = t.accepted ∧
      (t.pipeline.queue = [] → (t.step answers event).pipeline.queue = []) := by
  cases event with
  | enqueue c =>
    have hrefused : t.pipeline.enqueue c = .error .closed := by
      unfold Pipeline.enqueue
      rw [if_pos h]
    simp only [Traffic.step, hrefused]
    exact ⟨h, trivial, id⟩
  | close => exact ⟨rfl, rfl, id⟩
  | take => exact ⟨h, rfl, fun _ => rfl⟩
  | hand place =>
    simp only [Traffic.step]
    split <;> exact ⟨h, rfl, id⟩
  | answer place =>
    simp only [Traffic.step]
    split <;> exact ⟨h, rfl, id⟩

theorem run_closed (answers : Nat → Except StoreError Unit) (h : t.pipeline.closed = true)
    (events : List Event) :
    (t.run answers events).pipeline.closed = true ∧
      (t.run answers events).accepted = t.accepted ∧
      (t.pipeline.queue = [] → (t.run answers events).pipeline.queue = []) := by
  induction events generalizing t with
  | nil => exact ⟨h, rfl, id⟩
  | cons event events ih =>
    obtain ⟨hclosed, haccepted, hempty⟩ := step_closed answers h event
    obtain ⟨hclosed', haccepted', hempty'⟩ := ih hclosed
    exact ⟨hclosed', haccepted'.trans haccepted, fun hqueue => hempty' (hempty hqueue)⟩

/-! ### A call that nobody interrupts -/

theorem run_alone_of_empty (h : t.pipeline.queue = []) :
    t.run answers t.alone = { t with sendings := t.sendings ++ [⟨[], .returned (.ok 0)⟩] } := by
  have hpipeline : (⟨[], t.pipeline.closed⟩ : Pipeline) = t.pipeline := by
    rw [← h]
  simp [run, alone, Traffic.step, Pipeline.take, h, Sending.ofBatch, hpipeline]

theorem run_alone (h : t.pipeline.queue ≠ []) :
    t.run answers t.alone =
      { t with
        pipeline := { t.pipeline with queue := [] }
        sendings := t.sendings ++ [⟨t.pipeline.queue,
          .returned ((answers t.sendings.length).map fun _ => t.pipeline.queue.length)⟩]
        record := t.record ++ [(t.sendings.length, t.pipeline.queue)] } := by
  simp [run, alone, Traffic.step, Pipeline.take, h, Sending.ofBatch]

/-- Over any run on a new queue everything stays in order, whatever the store answers.  After a
    close no more is accepted, and a call still sends what is in the queue. -/
theorem conserved_and_closed (answers : Nat → Except StoreError Unit) (events : List Event) :
    let t := (start .empty).run answers events
    t.Orderly answers ∧
      ∀ later,
        let t' := t.run answers (.close :: later)
        t'.accepted = t.accepted ∧
          (t'.pipeline.queue ≠ [] →
            (t'.run answers t'.alone).record
              = t'.record ++ [(t'.sendings.length, t'.pipeline.queue)]) := by
  intro t
  refine ⟨(orderly_start .empty).run events, ?_⟩
  intro later t'
  constructor
  · have hclosed : (t.step answers .close).pipeline.closed = true := rfl
    obtain ⟨-, haccepted, -⟩ := run_closed answers hclosed later
    exact haccepted
  · intro hqueue
    rw [run_alone hqueue]

/-- Two calls cross: the second takes and hands over its batch before the first, which fails.  What
    waits at the close is sent by a later call, and what comes after the close is refused. -/
example :
    let answers place := if place = 0 then .error .remote else .ok ()
    let t := (start .empty).run answers
      [.enqueue (.delete "a"), .take, .enqueue (.delete "b"), .take, .hand 1, .hand 0, .answer 0,
        .enqueue (.delete "c"), .close, .enqueue (.delete "d"), .answer 1]
    t.record = [(1, [.delete "b"]), (0, [.delete "a"])] ∧
      t.sendings.map (·.stage) = [.returned (.error .remote), .returned (.ok 1)] ∧
      t.accepted = [.delete "a", .delete "b", .delete "c"] ∧
      t.pipeline.queue = [.delete "c"] ∧
      (t.run answers t.alone).record = t.record ++ [(2, [.delete "c"])] := by
  decide

end Traffic

/-! ### The store sends its queue by a call that nobody interrupts -/

/-- Sending the queue is one call of the traffic that takes, hands over and returns at once. -/
theorem Engine.sendQueue_eq_alone {e : Engine} {t : Traffic}
    (h : e.writes = .batched t.pipeline) :
    let t' := t.run (fun _ => (e.execute t.pipeline.queue).2) t.alone
    e.sendQueue.1.writes = .batched t'.pipeline ∧
      t'.sendings = t.sendings ++ [⟨t.pipeline.queue, .returned e.sendQueue.2⟩] ∧
      ∃ passed, t'.record = t.record ++ passed ∧
        e.sendQueue.1.gate.record = e.gate.record ++ passed.map (·.2) := by
  intro t'
  by_cases hqueue : t.pipeline.queue = []
  · have hrun : t' = _ := Traffic.run_alone_of_empty hqueue
    have hwaiting : e.writes.waiting = [] := by
      rw [h]
      exact hqueue
    rw [hrun, Engine.sendQueue_of_empty hwaiting]
    refine ⟨h, ?_, [], ?_, ?_⟩
    · rw [hqueue]
    · simp
    · simp
  · have hrun : t' = _ := Traffic.run_alone hqueue
    rw [hrun, Engine.sendQueue_of_queue h hqueue]
    exact ⟨rfl, rfl, _, rfl, Engine.execute_record e _⟩

end JobResults
