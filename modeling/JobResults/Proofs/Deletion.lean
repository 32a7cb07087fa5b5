import JobResults.Proofs.JobTable
import JobResults.Proofs.Memory.Engine

/-!
  # Deleted jobs

  A job is deleted at once, while results and outcomes may wait in a queue.  So a deletion is final
  when nothing that was written for the job is still waiting: then no run that writes nothing for
  the job brings it back (`Engine.kept_without`).  What waits at the deletion does bring it back.
-/

namespace JobResults

/-- Whether a command brings a job back: it writes its result or records an outcome of it. -/
def Command.Revives (id : String) : Command → Prop
  | .set key _ _ => key = resultKey id
  | .rank key member _ => member = id ∧ ∃ o : Outcome, key = o.indexKey
  | _ => False

/-- Whether an action writes for a job. -/
def StoreAction.WritesFor (id : String) : StoreAction → Prop
  | .job (.set id' _) => id' = id
  | .job (.record _ id') => id' = id
  | _ => False

/-! ### Contents without a job -/

namespace Contents

variable {ν : Type} {c : Contents ν} {id : String}

/-- Contents that have no result and no outcome of a job. -/
structure Lacks (c : Contents ν) (id : String) : Prop where
  value : c.value (resultKey id) = none
  score : ∀ o : Outcome, c.score o.indexKey id = none

theorem Lacks.putNone (h : c.Lacks id) (key : String) : (c.putValue key none).Lacks id := by
  refine ⟨?_, h.score⟩
  simp [putValue, h.value]

theorem Lacks.revise (h : c.Lacks id) (key : String) {f : String → Option Score → Option Score}
    (hf : (∃ o : Outcome, key = o.indexKey) → f id none = none) : (c.revise key f).Lacks id := by
  refine ⟨h.value, ?_⟩
  intro o
  simp only [Contents.revise, h.score o]
  split
  · next hkey => exact hf ⟨o, hkey.symm⟩
  · rfl

/-- A command that does not bring the job back leaves it away. -/
theorem Lacks.apply (h : c.Lacks id) (stamp : Bytes → Option Duration → ν) {command : Command}
    (hc : ¬ command.Revives id) : (c.apply stamp command).Lacks id := by
  cases command with
  | set key payload ttl =>
    have hkey : resultKey id ≠ key := fun heq => hc heq.symm
    refine ⟨?_, (h.revise key fun _ => drop_all id none).score⟩
    simp [Contents.apply, putValue, Contents.revise, hkey, h.value]
  | delete key => exact (h.revise key fun _ => drop_all id none).putNone key
  | rank key member score =>
    refine (h.putNone key).revise key fun ho => ?_
    have hmember : id ≠ member := fun heq => hc ⟨heq.symm, ho⟩
    simp [assign, hmember]
  | unrank key member => exact h.revise key fun _ => by simp [assign]
  | unrankRange key min max => exact h.revise key fun _ => rfl

theorem Lacks.applyAll (h : c.Lacks id) (stamp : Bytes → Option Duration → ν)
    {commands : List Command} (hc : ∀ command ∈ commands, ¬ command.Revives id) :
    (c.applyAll stamp commands).Lacks id := by
  induction commands generalizing c with
  | nil => exact h
  | cons command commands ih =>
    obtain ⟨hfirst, hrest⟩ := List.forall_mem_cons.1 hc
    exact ih (h.apply stamp hfirst) hrest

theorem Lacks.keepValues (h : c.Lacks id) (p : ν → Bool) : (c.keepValues p).Lacks id := by
  refine ⟨?_, h.score⟩
  simp [Contents.keepValues, h.value]

/-- A deletion takes all of a job away. -/
theorem lacks_deletion (c : Contents ν) (stamp : Bytes → Option Duration → ν) (id : String) :
    (c.applyAll stamp (ResultStore.deletion id)).Lacks id := by
  constructor
  · simp [ResultStore.deletion, applyAll, Contents.apply, putValue]
  · intro o
    simp only [ResultStore.deletion, applyAll, List.foldl_cons, List.foldl_nil, Contents.apply,
      putValue, Contents.revise]
    cases o <;> simp [assign]

end Contents

/-! ### Stores without a job -/

/-- A store in memory that has nothing of a job, with nothing waiting that brings it back. -/
structure Memory.Store.Without (m : Memory.Store) (waiting : List Command) (id : String) :
    Prop where
  wellFormed : m.WellFormed
  lacks : m.contents.Lacks id
  waiting : ∀ c ∈ waiting, ¬ c.Revives id

theorem Memory.Store.Without.execute {m : Memory.Store} {waiting : List Command} {id : String}
    (h : m.Without waiting id) (now : Instant) {commands : List Command}
    (hcommands : ∀ c ∈ commands, ¬ c.Revives id) : (m.execute now commands).Without waiting id := by
  obtain ⟨hwell, hcontents⟩ := h.wellFormed.execute now commands
  refine ⟨hwell, ?_, h.waiting⟩
  rw [hcontents]
  exact h.lacks.applyAll _ hcommands

theorem Change.without {now : Instant} {closed : Bool} {m m' : Memory.Store}
    {waiting waiting' submitted executed : List Command} {id : String}
    (hchange : Change now closed m waiting submitted executed m' waiting')
    (h : m.Without waiting id) (hsubmitted : ∀ c ∈ submitted, ¬ c.Revives id)
    (hexecuted : ∀ c ∈ executed, ¬ c.Revives id) : m'.Without waiting' id := by
  cases hchange with
  | none => exact h
  | evicted =>
    refine ⟨h.wellFormed, ?_, h.waiting⟩
    rw [Memory.Store.contents_evict]
    exact h.lacks.keepValues _
  | executed => exact h.execute now hexecuted
  | refused => exact h
  | written => exact h.execute now hsubmitted
  | queued =>
    refine ⟨h.wellFormed, h.lacks, ?_⟩
    intro c hc
    rw [List.mem_append] at hc
    exact hc.elim (h.waiting c) (hsubmitted c)
  | sent =>
    obtain ⟨hwell, hlacks, -⟩ := h.execute now h.waiting
    exact ⟨hwell, hlacks, nofun⟩

/-- An engine on a store in memory without a job. -/
def Engine.Without (e : Engine) (id : String) : Prop :=
  ∃ m, e.InMemory m ∧ m.Without e.writes.waiting id

/-! ### What brings a job back -/

theorem not_revives_removals (id : String) (cutoff : Score) :
    ∀ c ∈ removals cutoff, ¬ c.Revives id := by
  intro c hc
  simp only [removals, List.mem_cons, List.not_mem_nil, or_false] at hc
  rcases hc with rfl | rfl <;> exact not_false

theorem StoreAction.not_revives_commands {a : StoreAction} {id : String} (h : ¬ a.WritesFor id)
    (options : Options) (clock : Score) : ∀ c ∈ a.commands options clock, ¬ c.Revives id := by
  unfold commands
  split
  · next id' payload =>
    intro c hc
    obtain rfl := List.mem_singleton.1 hc
    exact fun hkey => h (resultKey_inj.1 hkey)
  · next o id' =>
    intro c hc
    obtain rfl := List.mem_singleton.1 hc
    exact fun hmember => h hmember.1
  · split
    · exact nofun
    · exact not_revives_removals id _
  · exact not_revives_removals id _
  · exact nofun

theorem StoreAction.not_revives_deletions (a : StoreAction) (id : String) :
    ∀ c ∈ a.deletions, ¬ c.Revives id := by
  unfold deletions
  split
  · intro c hc
    simp only [ResultStore.deletion, List.mem_cons, List.not_mem_nil, or_false] at hc
    rcases hc with rfl | rfl | rfl <;> exact not_false
  · exact nofun

theorem Engine.kept_without (id : String) :
    Engine.Kept (fun c => ¬ c.Revives id) fun e => e.Without id where
  step := by
    rintro e s ⟨m, hmemory, hwithout⟩ hsubmitted hexecuted
    obtain ⟨m', hmemory', hchange⟩ := hmemory.step s
    exact ⟨m', hmemory', hchange.without hwithout hsubmitted hexecuted⟩
  setClock := by
    rintro e clock ⟨m, hmemory, hwithout⟩
    exact ⟨m, ⟨hmemory.backend, hmemory.unrefused⟩, hwithout⟩
  close := by
    rintro e ⟨m, hmemory, hwithout⟩
    refine ⟨m, hmemory.close, ?_⟩
    rw [WritePath.waiting_close]
    exact hwithout

/-! ### Deletions -/

namespace ResultStore

variable {s : ResultStore} {m : Memory.Store} {id : String}

theorem deleteJob_without (hmemory : s.engine.InMemory m) (hwell : m.WellFormed)
    (hwaiting : ∀ c ∈ s.engine.writes.waiting, ¬ c.Revives id)
    (hdeleted : (s.deleteJob id).2 = .ok ()) : (s.deleteJob id).1.engine.Without id := by
  obtain ⟨gate, hexecute, hmemory'⟩ := hmemory.execute (deletion id)
  obtain ⟨hwell', hcontents⟩ := hwell.execute s.engine.now.monotonic (deletion id)
  unfold deleteJob at hdeleted ⊢
  split
  · next hclosed =>
    rw [if_pos hclosed] at hdeleted
    cases hdeleted
  · rw [hexecute]
    refine ⟨_, ⟨hmemory'.backend, hmemory'.unrefused⟩, hwell', ?_, hwaiting⟩
    rw [hcontents]
    exact Contents.lacks_deletion _ _ id

/-- A store without a job shows neither a result nor an outcome of it. -/
theorem not_shown_of_without (h : s.engine.Without id) :
    (s.get id).2 = .error (.notFound id) ∧
      ∀ o, ∃ ids, (s.list o).2 = .ok ids ∧ id ∉ ids := by
  obtain ⟨m, hmemory, hwithout⟩ := h
  constructor
  · rw [get_inMemory hmemory, Memory.Store.get_eq, Contents.payload, hwithout.lacks.value]
    rfl
  · intro o
    refine ⟨_, list_inMemory hmemory o, ?_⟩
    rw [Memory.Store.range_eq, List.mem_map]
    rintro ⟨r, hr, rfl⟩
    rw [List.mem_reverse, List.mem_filter] at hr
    have hscore := (hwithout.wellFormed.mem_ranking o.indexKey r).1 hr.1
    rw [hwithout.lacks.score o] at hscore
    cases hscore

/-- A deletion is final once nothing written for the job is waiting: over any run that writes
    nothing for it afterwards, it has neither a result nor an outcome. -/
theorem deleteJob_final (m : Memory.Store) (hwell : m.WellFormed) (options : Options) (now : Now)
    (clock : ManualClock) (id : String) (before after : List StoreAction) :
    let s := (start (.memory m) options now clock).run before
    (∀ c ∈ s.engine.writes.waiting, ¬ c.Revives id) → (s.deleteJob id).2 = .ok () →
      (∀ a ∈ after, ¬ a.WritesFor id) →
        let t := (s.deleteJob id).1.run after
        (t.get id).2 = .error (.notFound id) ∧
          ∀ o, ∃ ids, (t.list o).2 = .ok ids ∧ id ∉ ids := by
  intro s hwaiting hdeleted hafter
  have hstart : ∃ m', (start (.memory m) options now clock).engine.InMemory m' ∧ m'.WellFormed :=
    ⟨m, ⟨rfl, rfl⟩, hwell⟩
  obtain ⟨m', hmemory, hwell'⟩ : ∃ m', s.engine.InMemory m' ∧ m'.WellFormed :=
    Engine.InMemory.kept_wellFormed.always hstart before
  have hwithout := deleteJob_without hmemory hwell' hwaiting hdeleted
  apply not_shown_of_without
  refine (Engine.kept_without id).run (not_revives_removals id) ?_ ?_ hwithout
  · intro a ha
    exact StoreAction.not_revives_commands (hafter a ha)
  · intro a _
    exact a.not_revives_deletions id

theorem deleteJob_final_flushed :
    let s := (start (.memory .empty) ⟨.zero, .zero, ⟨60, by decide⟩⟩ ⟨0, 0⟩ ⟨5⟩).run
      [.job (.set "a" [1]), .job (.record .success "a"), .flush, .job (.set "b" [2])]
    let t := (s.deleteJob "a").1.run [.job (.record .failed "b"), .flush, .shutdown]
    (s.get "a").2 = .ok [1] ∧ (t.get "a").2 = .error (.notFound "a") ∧
      ∀ o, ∃ ids, (t.list o).2 = .ok ids ∧ "a" ∉ ids := by
  intro s t
  have hqueue : s.engine.writes.waiting = [.set (resultKey "b") [2] none] := by decide
  have hwaiting : ∀ c ∈ s.engine.writes.waiting, ¬ c.Revives "a" := by
    intro c hc
    rw [hqueue, List.mem_singleton] at hc
    rw [hc]
    exact (by decide : resultKey "b" ≠ resultKey "a")
  have hafter : ∀ a ∈ [.job (.record .failed "b"), .flush, .shutdown],
      ¬ StoreAction.WritesFor "a" a := by
    simp [StoreAction.WritesFor]
  exact ⟨by decide, deleteJob_final .empty Memory.Store.wellFormed_empty _ _ _ "a" _ _ hwaiting
    (by decide) hafter⟩

/-- What waits in the queue when a job is deleted brings the job back. -/
theorem deleteJob_undone :
    let s := (start (.memory .empty) ⟨.zero, .zero, ⟨3600000000000, by decide⟩⟩ ⟨0, 0⟩ ⟨5⟩).run
      [.job (.set "a" [1])]
    (s.deleteJob "a").2 = .ok () ∧ (((s.deleteJob "a").1.run [.flush]).get "a").2 = .ok [1] := by
  decide

end ResultStore

end JobResults
