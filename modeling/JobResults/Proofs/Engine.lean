import JobResults.Purge

/-!
  # Calls of an engine

  A call changes the gate and nothing else; a batch that is passed to the backend is on record,
  whatever becomes of it (`execute_record`).  There are three ways of submitting a command
  (`submit_cases`) and two of sending the queue (`sendQueue_cases`); a flush is a sending that is
  counted (`flush_eq`).
-/

namespace JobResults

/-- The commands of a purge, in order. -/
def removals (cutoff : Score) : List Command :=
  [.unrankRange Outcome.failed.indexKey 0 cutoff, .unrankRange Outcome.success.indexKey 0 cutoff]

/-- The commands that wait in a queue. -/
def WritePath.waiting : WritePath → List Command
  | direct _ => []
  | batched p => p.queue

@[simp] theorem WritePath.waiting_close (w : WritePath) : w.close.waiting = w.waiting := by
  cases w <;> rfl

theorem WritePath.pending_eq (w : WritePath) : w.pending = w.waiting.length := by
  cases w <;> rfl

namespace Engine

theorem call_eq (e : Engine) (c : StoreCall) :
    ∃ backend, (e.call c).1 = { e with gate := { e.gate.note c with backend := backend } } := by
  simp only [call, Gate.answer]
  split
  · exact ⟨(e.gate.note c).backend, rfl⟩
  · exact ⟨_, rfl⟩

theorem execute_record (e : Engine) (commands : List Command) :
    (e.execute commands).1.gate.record = e.gate.record ++ [commands] := by
  simp only [execute, call, Gate.answer]
  split <;> rfl

/-- A call that is not refused goes to the backend. -/
theorem call_of_unrefused {e : Engine} (h : e.gate.refusals = []) (c : StoreCall) :
    ∃ gate, e.call c = ({ e with gate := gate }, (e.gate.backend.answer e.now c).2) ∧
      gate.backend = (e.gate.backend.answer e.now c).1 ∧ gate.refusals = [] := by
  have hnote : (e.gate.note c).backend = e.gate.backend ∧ (e.gate.note c).refusals = [] := by
    cases c <;> exact ⟨rfl, h⟩
  have hrefused : (e.gate.note c).refused? c = none := by
    simp [Gate.refused?, hnote.2]
  refine ⟨(e.gate.answer e.now c).1, ?_, ?_, ?_⟩
  · simp only [call, Gate.answer, hrefused, hnote.1]
  · simp only [Gate.answer, hrefused, hnote.1]
  · simp only [Gate.answer, hrefused, hnote.2]

/-! ### Submitting -/

/-- A command is refused by a store that is closed, or executed at once, or queued. -/
theorem submit_cases (e : Engine) (c : Command) :
    (e.writes.isClosed = true ∧ e.submit c = (e, .error .closed)) ∨
      (e.writes = .direct false ∧ e.submit c = e.execute [c]) ∨
      ∃ queue, e.writes = .batched ⟨queue, false⟩ ∧
        e.submit c = ({ e with writes := .batched ⟨queue ++ [c], false⟩ }, .ok ()) := by
  cases hwrites : e.writes with
  | direct closed =>
    cases closed with
    | true => exact .inl ⟨rfl, by rw [submit, hwrites]⟩
    | false => exact .inr (.inl ⟨rfl, by rw [submit, hwrites]⟩)
  | batched p =>
    obtain ⟨queue, closed⟩ := p
    cases closed with
    | true => exact .inl ⟨rfl, by rw [submit, hwrites]; rfl⟩
    | false => exact .inr (.inr ⟨queue, rfl, by rw [submit, hwrites]; rfl⟩)

/-! ### Sending -/

section

variable {e : Engine} {p : Pipeline}

theorem sendQueue_of_empty (h : e.writes.waiting = []) : e.sendQueue = (e, .ok 0) := by
  obtain ⟨gate, now, clock, writes, metrics⟩ := e
  cases writes with
  | direct closed => rfl
  | batched p =>
    obtain ⟨queue, closed⟩ := p
    simp only [WritePath.waiting] at h
    subst h
    rfl

theorem sendQueue_of_queue (h : e.writes = .batched p) (hqueue : p.queue ≠ []) :
    e.sendQueue =
      ({ (e.execute p.queue).1 with writes := .batched { p with queue := [] } },
        (e.execute p.queue).2.map fun _ => p.queue.length) := by
  have hsome : p.queue.isEmpty = false := by simpa using hqueue
  simp only [sendQueue, h, Pipeline.take, hsome, Bool.false_eq_true, if_false]
  rfl

end

/-- Nothing waits and nothing is sent, or a queue is executed and emptied. -/
theorem sendQueue_cases (e : Engine) :
    (e.writes.waiting = [] ∧ e.sendQueue = (e, .ok 0)) ∨
      ∃ p, p.queue ≠ [] ∧ e.writes = .batched p ∧
        e.sendQueue =
          ({ (e.execute p.queue).1 with writes := .batched { p with queue := [] } },
            (e.execute p.queue).2.map fun _ => p.queue.length) := by
  by_cases hwaiting : e.writes.waiting = []
  · exact .inl ⟨hwaiting, sendQueue_of_empty hwaiting⟩
  · cases hwrites : e.writes with
    | direct closed =>
      rw [hwrites] at hwaiting
      exact absurd rfl hwaiting
    | batched p =>
      rw [hwrites] at hwaiting
      exact .inr ⟨p, hwaiting, rfl, sendQueue_of_queue hwrites hwaiting⟩

theorem waiting_sendQueue (e : Engine) : e.sendQueue.1.writes.waiting = [] := by
  rcases e.sendQueue_cases with ⟨hwaiting, hsend⟩ | ⟨p, -, -, hsend⟩
  · rw [hsend]
    exact hwaiting
  · rw [hsend]
    rfl

/-- Flushing is sending the queue, and counting. -/
theorem flush_eq (e : Engine) : ∃ metrics, e.flush = { e.sendQueue.1 with metrics := metrics } := by
  unfold flush
  split <;> next hsent => rw [hsent]; exact ⟨_, rfl⟩

end Engine

end JobResults
