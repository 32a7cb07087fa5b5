import JobResults.Proofs.Memory.Engine

/-!
  # Batched and direct writes

  A batched store queues its commands and executes them later, in batches that are cut anywhere.
  Scores and cutoffs are part of the commands, so the sets do not depend on when a command is
  executed; values do, but only through their expiry (`Memory.Store.Agree`).  At any moment a store
  in memory, once it has executed what waits, agrees with an empty one that executes all that was
  submitted (`Memory.Store.Mirrors`, `ResultStore.Calm.run`).  So when their callers submit the same
  and nothing waits any more, a batched and a direct store agree.
-/

namespace JobResults

/-! ### What does not depend on time -/

/-- Whether a command writes nothing that expires. -/
def Command.Lasting : Command → Prop
  | .set _ _ ttl => ttl = none
  | _ => True

namespace Memory.Store

/-- The same sets, and the same values if those last. -/
structure Agree (lasting : Prop) (m m' : Store) : Prop where
  sets : m.sets = m'.sets
  values : lasting → m.values = m'.values

variable {lasting : Prop} {m m' : Store}

theorem Agree.updateSet (h : Agree lasting m m') (key : String) (f : RankedSet → RankedSet) :
    Agree lasting (m.updateSet key f) (m'.updateSet key f) := by
  unfold Store.updateSet
  rw [h.sets]
  split
  · exact h
  · exact ⟨rfl, h.values⟩

theorem Agree.map (h : Agree lasting m m')
    (f : OrderedMap String Entry → OrderedMap String Entry)
    (g : OrderedMap String RankedSet → OrderedMap String RankedSet) :
    Agree lasting ⟨f m.values, g m.sets⟩ ⟨f m'.values, g m'.sets⟩ :=
  ⟨congrArg g h.sets, fun hlasting => congrArg f (h.values hlasting)⟩

theorem Agree.apply (h : Agree lasting m m') (now now' : Instant) {c : Command}
    (hc : lasting → c.Lasting) : Agree lasting (m.apply now c) (m'.apply now' c) := by
  cases c with
  | set key payload ttl =>
    constructor
    · exact congrArg (·.erase key) h.sets
    · intro hlasting
      have httl : ttl = none := hc hlasting
      simp only [Store.apply, h.values hlasting, httl, Option.bind_none]
  | delete key => exact h.map (·.erase key) (·.erase key)
  | rank key member score =>
    exact h.map (·.erase key) fun sets =>
      sets.insert key (((sets.get? key).getD .empty).insert member score)
  | unrank key member => exact h.updateSet key _
  | unrankRange key min max => exact h.updateSet key _

theorem Agree.execute (h : Agree lasting m m') (now now' : Instant) {commands : List Command}
    (hcommands : lasting → ∀ c ∈ commands, c.Lasting) :
    Agree lasting (m.execute now commands) (m'.execute now' commands) := by
  induction commands generalizing m m' with
  | nil => exact h
  | cons c commands ih =>
    refine ih (h.apply now now' fun hlasting => ?_) fun hlasting => ?_
    · exact hcommands hlasting c List.mem_cons_self
    · intro c' hc'
      exact hcommands hlasting c' (List.mem_cons_of_mem c hc')

theorem Agree.trans {m'' : Store} (h : Agree lasting m m') (h' : Agree lasting m' m'') :
    Agree lasting m m'' :=
  ⟨h.sets.trans h'.sets, fun hlasting => (h.values hlasting).trans (h'.values hlasting)⟩

theorem Agree.symm (h : Agree lasting m m') : Agree lasting m' m :=
  ⟨h.sets.symm, fun hlasting => (h.values hlasting).symm⟩

theorem Agree.refl (m : Store) : Agree lasting m m := ⟨rfl, fun _ => rfl⟩

def Lasting (m : Store) : Prop := ∀ key e, m.values.get? key = some e → e.expires = none

theorem Lasting.erase (h : m.Lasting) (sets : OrderedMap String RankedSet) (key : String) :
    Lasting ⟨m.values.erase key, sets⟩ := by
  intro k e he
  rw [OrderedMap.get?_erase] at he
  split at he
  · cases he
  · exact h k e he

theorem Lasting.apply (h : m.Lasting) (now : Instant) {c : Command} (hc : c.Lasting) :
    (m.apply now c).Lasting := by
  have hupdate : ∀ key f, (m.updateSet key f).Lasting := by
    intro key f
    unfold updateSet
    split <;> exact h
  cases c with
  | set key payload ttl =>
    intro k e he
    have httl : ttl = none := hc
    simp only [Store.apply, OrderedMap.get?_insert, httl] at he
    split at he
    · cases he
      rfl
    · exact h k e he
  | delete key => exact h.erase _ key
  | rank key member score => exact h.erase _ key
  | unrank key member => exact hupdate key _
  | unrankRange key min max => exact hupdate key _

theorem Lasting.execute (h : m.Lasting) (now : Instant) {commands : List Command}
    (hcommands : ∀ c ∈ commands, c.Lasting) : (m.execute now commands).Lasting := by
  induction commands generalizing m with
  | nil => exact h
  | cons c commands ih =>
    rw [List.forall_mem_cons] at hcommands
    exact ih (h.apply now hcommands.1) hcommands.2

theorem Lasting.values_evict (h : m.Lasting) (now : Instant) :
    (m.evict now).1.values = m.values := by
  apply OrderedMap.ext_get?
  intro key
  simp only [evict, OrderedMap.get?_filter]
  cases hkey : m.values.get? key with
  | none => rfl
  | some e => simp [Option.filter, Entry.isExpired, h key e hkey]

theorem agree_evict (h : lasting → m.Lasting) (now : Instant) : Agree lasting (m.evict now).1 m :=
  ⟨rfl, fun hlasting => (h hlasting).values_evict now⟩

/-! ### A queue in front of a store -/

theorem execute_then (m : Store) (now : Instant) (xs ys : List Command) :
    m.execute now (xs ++ ys) = (m.execute now xs).execute now ys :=
  List.foldl_append

/-- With what waits a store agrees with one that has executed all commands. -/
structure Mirrors (lasting : Prop) (m : Store) (waiting commands : List Command) : Prop where
  agree : Agree lasting (m.execute 0 waiting) (empty.execute 0 commands)
  lasts : lasting → m.Lasting
  waiting : lasting → ∀ c ∈ waiting, c.Lasting

end Memory.Store

open Memory (Store)

theorem Change.mirrors {lasting : Prop} {now : Instant} {closed : Bool} {m m' : Store}
    {waiting waiting' submitted executed commands : List Command}
    (hchange : Change now closed m waiting submitted executed m' waiting')
    (h : m.Mirrors lasting waiting commands) (hopen : closed = true → submitted = [])
    (hsubmitted : lasting → ∀ c ∈ submitted, c.Lasting) (hexecuted : executed = []) :
    m'.Mirrors lasting waiting' (commands ++ submitted) := by
  cases hchange with
  | none =>
    rw [List.append_nil]
    exact h
  | evicted =>
    rw [List.append_nil]
    refine ⟨?_, ?_, h.waiting⟩
    -- values that go are values that expire, and with those the values do not matter
    · exact ((Store.agree_evict h.lasts now).execute 0 0 h.waiting).trans h.agree
    · intro hlasting key e he
      rw [(h.lasts hlasting).values_evict] at he
      exact h.lasts hlasting key e he
  | executed =>
    rw [List.append_nil, hexecuted]
    exact h
  | refused _ c hclosed => cases hopen hclosed
  | written =>
    refine ⟨?_, fun hlasting => (h.lasts hlasting).execute now (hsubmitted hlasting), h.waiting⟩
    rw [Store.execute_then]
    exact h.agree.execute now 0 hsubmitted
  | queued =>
    refine ⟨?_, h.lasts, ?_⟩
    · rw [Store.execute_then, Store.execute_then]
      exact h.agree.execute 0 0 hsubmitted
    · intro hlasting
      rw [List.forall_mem_append]
      exact ⟨h.waiting hlasting, hsubmitted hlasting⟩
  | sent =>
    -- the batch is executed now and not at the instant zero, which the sets do not show
    rw [List.append_nil]
    refine ⟨?_, fun hlasting => (h.lasts hlasting).execute now (h.waiting hlasting), fun _ => nofun⟩
    exact ((Store.Agree.refl m).execute now 0 h.waiting).trans h.agree

def Engine.Mirrors (e : Engine) (lasting : Prop) (commands : List Command) : Prop :=
  ∃ m, e.InMemory m ∧ m.Mirrors lasting e.writes.waiting commands

namespace Engine.Mirrors

variable {lasting : Prop} {e e' : Engine} {commands : List Command}

theorem moves {submitted executed : List Command} (hmoves : e.Moves submitted executed e')
    (h : e.Mirrors lasting commands) (hopen : e.writes.isClosed = false)
    (hsubmitted : lasting → ∀ c ∈ submitted, c.Lasting) (hexecuted : executed = []) :
    e'.Mirrors lasting (commands ++ submitted) := by
  induction hmoves generalizing commands with
  | refl =>
    rw [List.append_nil]
    exact h
  | step s _ ih =>
    rw [List.append_eq_nil_iff] at hexecuted
    obtain ⟨m, hmemory, hmirrors⟩ := h
    obtain ⟨m', hmemory', hchange⟩ := hmemory.step s
    have hfirst := hchange.mirrors hmirrors (fun hclosed => by rw [hopen] at hclosed; cases hclosed)
      (fun hlasting c hc => hsubmitted hlasting c (List.mem_append_left _ hc)) hexecuted.1
    rw [← List.append_assoc]
    refine ih ⟨m', hmemory', hfirst⟩ ?_ ?_ hexecuted.2
    · rw [(step_frame _ s).2, hopen]
    · intro hlasting c hc
      exact hsubmitted hlasting c (List.mem_append_right _ hc)

end Engine.Mirrors

/-- A store mirrors the same commands through everything that writes nothing new. -/
theorem Engine.kept_mirrors (lasting : Prop) (commands : List Command) :
    Engine.Kept (fun _ => False) fun e => e.Mirrors lasting commands where
  step := by
    rintro e s ⟨m, hmemory, hmirrors⟩ hsubmitted hexecuted
    obtain ⟨m', hmemory', hchange⟩ := hmemory.step s
    have hnone : s.submitted = [] := List.eq_nil_iff_forall_not_mem.2 hsubmitted
    have hmirrors' := hchange.mirrors hmirrors (fun _ => hnone)
      (fun _ c hc => (hsubmitted c hc).elim) (List.eq_nil_iff_forall_not_mem.2 hexecuted)
    rw [hnone, List.append_nil] at hmirrors'
    exact ⟨m', hmemory', hmirrors'⟩
  setClock := by
    rintro e clock ⟨m, hmemory, hmirrors⟩
    exact ⟨m, ⟨hmemory.backend, hmemory.unrefused⟩, hmirrors⟩
  close := by
    rintro e ⟨m, hmemory, hmirrors⟩
    refine ⟨m, hmemory.close, ?_⟩
    rw [WritePath.waiting_close]
    exact hmirrors

theorem Engine.Mirrors.drained {lasting : Prop} {e : Engine} {commands : List Command}
    (h : e.Mirrors lasting commands) (hwaiting : e.writes.waiting = []) :
    ∃ m, e.gate.backend = .memory m ∧ m.Agree lasting (Store.empty.execute 0 commands) := by
  obtain ⟨m, hmemory, hmirrors⟩ := h
  have hagree := hmirrors.agree
  rw [hwaiting] at hagree
  exact ⟨m, hmemory.backend, hagree⟩

/-! ### Callers and pauses -/

namespace StoreAction

/-- Calls that write, and settings of the score clock. -/
def isWrite : StoreAction → Bool
  | .job (.set _ _) | .job (.record _ _) | .job .purgeMetadata | .job (.purgeOlderThan _) => true
  | .job (.setClock _) => true
  | _ => false

/-- What may happen between writes: reads, flushes, ticks of the flusher, and that time passes. -/
def isPause : StoreAction → Bool
  | .job (.get _) | .job (.list _) | .healthCheck => true
  | .flush | .flusherTick _ | .job (.sleep _) => true
  | _ => false

/-- All that callers submit in a run, from a reading of the score clock on. -/
def submissions (options : Options) : Score → List StoreAction → List Command
  | _, [] => []
  | clock, a :: actions =>
    a.commands options clock ++ submissions options (a.reading clock) actions

/-- Pauses submit nothing and leave the clock. -/
theorem submissions_filter (options : Options) (clock : Score) {actions : List StoreAction}
    (h : ∀ a ∈ actions, a.isWrite = true ∨ a.isPause = true) :
    submissions options clock (actions.filter isWrite) = submissions options clock actions := by
  induction actions generalizing clock with
  | nil => rfl
  | cons a actions ih =>
    rw [List.forall_mem_cons] at h
    by_cases hwrite : a.isWrite = true
    · rw [List.filter_cons_of_pos hwrite, submissions, submissions, ih _ h.2]
    · have hquiet : a.commands options clock = [] ∧ a.reading clock = clock := by
        have hpause := h.1.resolve_left hwrite
        unfold isPause at hpause
        split at hpause <;> first | exact ⟨rfl, rfl⟩ | cases hpause
      rw [List.filter_cons_of_neg hwrite, submissions, hquiet.1, hquiet.2, ih _ h.2]
      rfl

/-- What is submitted does not depend on the way of writing. -/
theorem submissions_pipePeriod (options : Options) (period : Duration) (clock : Score)
    (actions : List StoreAction) :
    submissions { options with pipePeriod := period } clock actions
      = submissions options clock actions := by
  induction actions generalizing clock with
  | nil => rfl
  | cons a actions ih =>
    have hcommands : a.commands { options with pipePeriod := period } clock
        = a.commands options clock := by
      unfold commands
      split <;> rfl
    rw [submissions, submissions, hcommands, ih]

theorem lasting_commands {options : Options} (h : options.expiry.isZero = true) (clock : Score)
    (a : StoreAction) : ∀ c ∈ a.commands options clock, c.Lasting := by
  have hremovals : ∀ cutoff, ∀ c ∈ removals cutoff, c.Lasting := by
    intro cutoff c hc
    simp only [removals, List.mem_cons, List.not_mem_nil, or_false] at hc
    rcases hc with rfl | rfl <;> trivial
  unfold commands
  split
  · intro c hc
    obtain rfl := List.mem_singleton.1 hc
    exact if_pos h
  · intro c hc
    obtain rfl := List.mem_singleton.1 hc
    trivial
  · split
    · exact nofun
    · exact hremovals _
  · exact hremovals _
  · exact nofun

end StoreAction

/-! ### Runs without a purger -/

namespace ResultStore

/-- An open store whose purger does not run, with its options, the reading of its score clock, and
    whether it closes its queue at the end. -/
structure Calm (s : ResultStore) (options : Options) (closes : Bool) (clock : Score) : Prop where
  frame : s.frame = (options, some (false, closes))
  clock : s.engine.clock.now = clock
  isOpen : s.engine.writes.isClosed = false

variable {s : ResultStore} {options : Options} {closes : Bool} {clock : Score}

theorem Calm.hasPurger (h : s.Calm options closes clock) : s.hasPurger = false := by
  obtain ⟨loops, hloops, hshape⟩ := Option.map_eq_some_iff.1 (congrArg Prod.snd h.frame)
  rw [ResultStore.hasPurger, hloops]
  exact congrArg Prod.fst hshape

theorem Calm.options_eq (h : s.Calm options closes clock) : s.options = options :=
  congrArg Prod.fst h.frame

/-- A caller or a pause adds what the caller submits to what the store mirrors. -/
theorem Calm.perform {lasting : Prop} {commands : List Command} (h : s.Calm options closes clock)
    (hmirrors : s.engine.Mirrors lasting commands)
    (hlasting : lasting → options.expiry.isZero = true)
    {a : StoreAction} (ha : a.isWrite = true ∨ a.isPause = true) :
    (s.perform a).Calm options closes (a.reading clock) ∧
      (s.perform a).engine.Mirrors lasting (commands ++ a.commands options clock) := by
  have hshutdown : a ≠ .shutdown := by
    rintro rfl
    simp [StoreAction.isWrite, StoreAction.isPause] at ha
  have hframe : (s.perform a).frame = (options, some (false, closes)) :=
    (s.perform_frame hshutdown).trans h.frame
  obtain ⟨hreading, hclosed⟩ := s.perform_clock hshutdown
  refine ⟨⟨hframe, by rw [hreading, h.clock], hclosed.trans h.isOpen⟩, ?_⟩
  by_cases hclock : ∃ reading, a = .job (.setClock reading)
  · obtain ⟨reading, rfl⟩ := hclock
    have hset := (Engine.kept_mirrors lasting commands).setClock ⟨reading⟩ hmirrors
    have hnothing : (StoreAction.job (.setClock reading)).commands options clock = [] := rfl
    rw [hnothing, List.append_nil]
    exact hset
  · obtain ⟨ticked, executed, hmoves, hfrom, hexecuted⟩ :=
      s.perform_moves (fun reading heq => hclock ⟨reading, heq⟩) hshutdown
    have hticked : ticked = [] := hfrom.none h.hasPurger
    have hnone : executed = [] := by
      have hdeletions : a.deletions = [] := by
        unfold StoreAction.deletions
        split
        · simp [StoreAction.isWrite, StoreAction.isPause] at ha
        · rfl
      rw [hdeletions] at hexecuted
      exact List.eq_nil_of_subset_nil hexecuted
    rw [hticked, List.append_nil, h.options_eq, h.clock] at hmoves
    exact hmirrors.moves hmoves h.isOpen
      (fun hl => StoreAction.lasting_commands (hlasting hl) clock a) hnone

theorem Calm.run {lasting : Prop} {commands : List Command} (h : s.Calm options closes clock)
    (hmirrors : s.engine.Mirrors lasting commands)
    (hlasting : lasting → options.expiry.isZero = true)
    {actions : List StoreAction} (hactions : ∀ a ∈ actions, a.isWrite = true ∨ a.isPause = true) :
    (∃ clock', (s.run actions).Calm options closes clock') ∧
      (s.run actions).engine.Mirrors lasting
        (commands ++ StoreAction.submissions options clock actions) := by
  induction actions generalizing s clock commands with
  | nil =>
    rw [StoreAction.submissions, List.append_nil]
    exact ⟨⟨clock, h⟩, hmirrors⟩
  | cons a actions ih =>
    rw [List.forall_mem_cons] at hactions
    obtain ⟨hcalm, hmirrors'⟩ := h.perform hmirrors hlasting hactions.1
    rw [StoreAction.submissions, ← List.append_assoc]
    exact ih hcalm hmirrors' hactions.2

/-! ### Draining -/

theorem Calm.drained {lasting : Prop} {commands : List Command} (h : s.Calm options true clock)
    (hmirrors : s.engine.Mirrors lasting commands) {last : StoreAction}
    (hlast : last = .flush ∨ last = .shutdown) :
    ∃ m, (s.perform last).engine.gate.backend = .memory m ∧
      m.Agree lasting (Store.empty.execute 0 commands) := by
  have hkept := Engine.kept_mirrors lasting commands
  rcases hlast with rfl | rfl
  · exact (hkept.step .send hmirrors nofun nofun).drained s.engine.waiting_sendQueue
  · obtain ⟨loops, hloops, hshape⟩ := Option.map_eq_some_iff.1 (congrArg Prod.snd h.frame)
    have hcloses : loops.closesQueue = true := congrArg Prod.snd hshape
    exact (hkept.shutdown hmirrors).drained (waiting_shutdown hloops hcloses)

def withoutPurger (s : ResultStore) : ResultStore :=
  { s with supervisor := s.supervisor.map fun loops => { loops with purger := .absent } }

theorem calm_start (options : Options) (now : Now) (clock : ManualClock) :
    (start (.memory .empty) options now clock).withoutPurger.Calm options
      (!options.pipePeriod.isZero) clock.now := by
  refine ⟨rfl, rfl, ?_⟩
  simp only [withoutPurger, start, WritePath.select]
  split <;> rfl

theorem mirrors_start (lasting : Prop) (options : Options) (now : Now) (clock : ManualClock) :
    (start (.memory .empty) options now clock).withoutPurger.engine.Mirrors lasting [] := by
  have hwaiting : (WritePath.select options.pipePeriod).waiting = [] := by
    unfold WritePath.select
    split <;> rfl
  refine ⟨.empty, ⟨rfl, rfl⟩, ?_⟩
  simp only [withoutPurger, start, hwaiting]
  exact ⟨.refl _, fun _ _ _ => nofun, fun _ => nofun⟩

/-- After a last flush or a shutdown, a batched store holds the sets that a direct store holds
    whose callers do the same at the same readings of the clock, and without expiry it holds the
    same values.  Flushes, ticks of the flusher and passages of time may come anywhere. -/
theorem batched_agrees_direct (options : Options) (now now' : Now) (clock : ManualClock)
    (actions actions' : List StoreAction) (last : StoreAction)
    (hbatched : options.pipePeriod.isZero = false)
    (hactions : ∀ a ∈ actions, a.isWrite = true ∨ a.isPause = true)
    (hactions' : ∀ a ∈ actions', a.isWrite = true ∨ a.isPause = true)
    (hsame : actions.filter StoreAction.isWrite = actions'.filter StoreAction.isWrite)
    (hlast : last = .flush ∨ last = .shutdown) :
    let batched := (start (.memory .empty) options now clock).withoutPurger
    let direct :=
      (start (.memory .empty) { options with pipePeriod := .zero } now' clock).withoutPurger
    ∃ m m', (batched.run (actions ++ [last])).engine.gate.backend = .memory m ∧
      (direct.run actions').engine.gate.backend = .memory m' ∧
      m.sets = m'.sets ∧ (options.expiry.isZero = true → m.values = m'.values) := by
  intro batched direct
  let lasting : Prop := options.expiry.isZero = true
  let commands := StoreAction.submissions options clock.now actions
  have hcommands : StoreAction.submissions { options with pipePeriod := .zero } clock.now actions'
      = commands := by
    rw [StoreAction.submissions_pipePeriod, ← StoreAction.submissions_filter _ _ hactions', ← hsame,
      StoreAction.submissions_filter _ _ hactions]
  -- the batched store, drained at last
  obtain ⟨m, hm, hagree⟩ : ∃ m, (batched.run (actions ++ [last])).engine.gate.backend = .memory m ∧
      m.Agree lasting (Store.empty.execute 0 commands) := by
    have hrun : batched.run (actions ++ [last]) = (batched.run actions).perform last :=
      List.foldl_append
    obtain ⟨⟨clock', hcalm⟩, hmirrors⟩ :=
      (calm_start options now clock).run (mirrors_start lasting options now clock) id hactions
    rw [hbatched] at hcalm
    rw [hrun]
    exact hcalm.drained hmirrors hlast
  -- the direct store, where nothing waits
  obtain ⟨m', hm', hagree'⟩ : ∃ m', (direct.run actions').engine.gate.backend = .memory m' ∧
      m'.Agree lasting (Store.empty.execute 0 commands) := by
    obtain ⟨-, hmirrors⟩ :=
      (calm_start { options with pipePeriod := .zero } now' clock).run
        (mirrors_start lasting _ now' clock) id hactions'
    rw [hcommands] at hmirrors
    obtain ⟨closed, hwrites⟩ : ∃ closed, (direct.run actions').engine.writes = .direct closed :=
      Engine.kept_direct.always ⟨false, rfl⟩ actions'
    refine hmirrors.drained ?_
    rw [hwrites]
    rfl
  have hboth := hagree.trans hagree'.symm
  exact ⟨m, m', hm, hm', hboth.sets, hboth.values⟩

/-- A tick cuts the writes, a cutoff waits while time passes, and the shutdown sends the rest. -/
theorem batched_agrees_direct_cut :
    let options : Options := ⟨.zero, ⟨1000, by decide⟩, ⟨60, by decide⟩⟩
    let actions : List StoreAction :=
      [.job (.set "a" [1]), .job (.record .success "a"), .flusherTick 60, .job (.setClock 2000),
        .job (.record .failed "b"), .job .purgeMetadata, .job (.sleep 7), .job (.set "a" [2])]
    let batched := (start (.memory .empty) options ⟨0, 0⟩ ⟨5⟩).withoutPurger
    let direct :=
      (start (.memory .empty) { options with pipePeriod := .zero } ⟨9, 9⟩ ⟨5⟩).withoutPurger
    (batched.run actions).pending = 4 ∧
      ∃ m m', (batched.run (actions ++ [.shutdown])).engine.gate.backend = .memory m ∧
        (direct.run (actions.filter StoreAction.isWrite)).engine.gate.backend = .memory m' ∧
        m.sets = m'.sets ∧ m.values = m'.values := by
  intro options actions
  have hactions : ∀ a ∈ actions, a.isWrite = true ∨ a.isPause = true := by decide
  have hwrites : ∀ a ∈ actions.filter StoreAction.isWrite, a.isWrite = true ∨ a.isPause = true := by
    decide
  obtain ⟨m, m', hm, hm', hsets, hvalues⟩ :=
    batched_agrees_direct options ⟨0, 0⟩ ⟨9, 9⟩ ⟨5⟩ actions (actions.filter StoreAction.isWrite)
      .shutdown rfl hactions hwrites (by decide) (.inr rfl)
  exact ⟨by decide, m, m', hm, hm', hsets, hvalues rfl⟩

end ResultStore

end JobResults
