import JobResults.Proofs.Embedded.Commit
import JobResults.Proofs.JobTable
import JobResults.Proofs.StoreRun

/-!
  # Isolation of jobs

  On the embedded store, writing or deleting the result of a job also clears the set under the key
  of the result, and the rows of this set are found by what they start with.  The rows of an
  outcome's set start so if the id of the job goes on after the name of the outcome and a NUL with
  the bytes of a recorded score and of a member.  `Clear` keeps this out: by ids that do not start
  with the name of an outcome and a NUL, or by scores whose bytes no text starts with.  Ids are
  opaque otherwise.

  A store that is written directly then holds nothing in its sets but jobs with an outcome
  (`Engine.Holds`), whatever it goes through (`kept_holds`), and to write or delete the result of
  one job leaves all other jobs alone (`ResultStore.isolated`).  The first score that is not clear
  for all ids does break a listing (`ResultStore.set_clears_outcome`).
-/

namespace JobResults

open Embedded (Tables Dated NulFree Alone setStart scoreKey firstTextual)
open Memory (Ranked)

/-! ### Ids and scores that are clear of each other -/

/-- A job and a score that keep apart: no row of an outcome's set with this score starts like rows
    under the key of the job's result (`Clear.not_starts`). -/
def Clear (id : String) (score : Score) : Prop :=
  (0 ≤ score ∧ score < firstTextual) ∨
    ∀ (o : Outcome) (rest : String), id ≠ o.name ++ "\x00" ++ rest

theorem Outcome.nulFree_indexKey (o : Outcome) : NulFree o.indexKey := by
  cases o <;> decide

theorem Clear.not_starts {id : String} {score : Score} (h : Clear id score) (hid : Plain id)
    (o : Outcome) (member : String) :
    ¬ setStart (resultKey id) <+: scoreKey o.indexKey score member := by
  rw [Embedded.scoreKey_eq]
  intro hstarts
  obtain ⟨t, hkey, hrest⟩ :=
    Embedded.exists_name_of_starts o.nulFree_indexKey (hid.resultKey_ne o) hstarts
  have hname : id = o.name ++ "\x00" ++ t := by
    rw [resultKey, Outcome.indexKey, String.append_assoc, String.append_assoc] at hkey
    rw [String.append_assoc]
    exact (String.append_right_inj keyspace).1 hkey
  rcases h with ⟨hlow, hhigh⟩ | hnever
  · rw [Embedded.setStart_eq] at hrest
    exact Embedded.not_prefix_encodeScore hlow hhigh (by simp) _ hrest
  · exact hnever o t hname

/-! ### Commands on results and outcomes -/

/-- A command on the result of one of the given jobs, or on the set of an outcome, where it gives
    none but the given scores. -/
def Command.Tame (ids : List String) (scores : List Score) : Command → Prop
  | .set key _ _ => ∃ id ∈ ids, key = resultKey id
  | .delete key => ∃ id ∈ ids, key = resultKey id
  | .rank key _ score => score ∈ scores ∧ ∃ o : Outcome, key = o.indexKey
  | .unrank key _ => ∃ o : Outcome, key = o.indexKey
  | .unrankRange key _ _ => ∃ o : Outcome, key = o.indexKey

section

variable {ids : List String} {scores : List Score}

theorem tame_removals (cutoff : Score) : ∀ c ∈ removals cutoff, c.Tame ids scores := by
  intro c hc
  simp only [removals, List.mem_cons, List.not_mem_nil, or_false] at hc
  rcases hc with rfl | rfl
  · exact ⟨.failed, rfl⟩
  · exact ⟨.success, rfl⟩

theorem tame_deletion {id : String} (hid : id ∈ ids) :
    ∀ c ∈ ResultStore.deletion id, c.Tame ids scores := by
  intro c hc
  simp only [ResultStore.deletion, List.mem_cons, List.not_mem_nil, or_false] at hc
  rcases hc with rfl | rfl | rfl
  · exact ⟨.success, rfl⟩
  · exact ⟨.failed, rfl⟩
  · exact ⟨id, hid, rfl⟩

end

namespace StoreAction

/-- The jobs whose results an action writes or deletes. -/
def written : StoreAction → List String
  | .job (.set id _) => [id]
  | .job (.delete id) => [id]
  | _ => []

/-- The readings that an action sets the score clock to. -/
def settings : StoreAction → List Score
  | .job (.setClock reading) => [reading]
  | _ => []

theorem reading_mem (a : StoreAction) (clock : Score) : a.reading clock ∈ clock :: a.settings := by
  unfold reading settings
  split <;> simp

variable {ids : List String} {scores : List Score} {a : StoreAction}

theorem tame_commands (hids : a.written ⊆ ids) {clock : Score} (hclock : clock ∈ scores)
    (options : Options) : ∀ c ∈ a.commands options clock, c.Tame ids scores := by
  unfold commands
  split
  · intro c hc
    obtain rfl := List.mem_singleton.1 hc
    exact ⟨_, hids List.mem_cons_self, rfl⟩
  · intro c hc
    obtain rfl := List.mem_singleton.1 hc
    exact ⟨hclock, _, rfl⟩
  · split
    · exact nofun
    · exact tame_removals _
  · exact tame_removals _
  · exact nofun

theorem tame_deletions (hids : a.written ⊆ ids) : ∀ c ∈ a.deletions, c.Tame ids scores := by
  unfold deletions
  split
  · exact tame_deletion (hids List.mem_cons_self)
  · exact nofun

end StoreAction

/-! ### Contents -/

namespace Contents

variable {ν : Type} (stamp : Bytes → Option Duration → ν) (c : Contents ν) {a b : String}

theorem value_set (hab : a ≠ b) (payload : Bytes) (ttl : Option Duration) :
    (c.apply stamp (.set (resultKey a) payload ttl)).value (resultKey b)
      = c.value (resultKey b) := by
  have hkey : resultKey b ≠ resultKey a := fun heq => hab (resultKey_inj.1 heq).symm
  simp only [apply, putValue, revise, if_neg hkey]

theorem score_set (ha : Plain a) (payload : Bytes) (ttl : Option Duration) (o : Outcome)
    (m : String) :
    (c.apply stamp (.set (resultKey a) payload ttl)).score o.indexKey m
      = c.score o.indexKey m := by
  have hkey : o.indexKey ≠ resultKey a := (ha.resultKey_ne o).symm
  simp only [apply, putValue, revise, if_neg hkey]

theorem value_deletion (hab : a ≠ b) :
    (c.applyAll stamp (ResultStore.deletion a)).value (resultKey b) = c.value (resultKey b) := by
  have hkey : resultKey b ≠ resultKey a := fun heq => hab (resultKey_inj.1 heq).symm
  simp only [ResultStore.deletion, applyAll, List.foldl_cons, List.foldl_nil, apply, putValue,
    revise, if_neg hkey]

theorem score_deletion (ha : Plain a) (o : Outcome) (m : String) :
    (c.applyAll stamp (ResultStore.deletion a)).score o.indexKey m
      = if m = a then none else c.score o.indexKey m := by
  have hkey : o.indexKey ≠ resultKey a := (ha.resultKey_ne o).symm
  simp only [ResultStore.deletion, applyAll, List.foldl_cons, List.foldl_nil, apply, putValue,
    revise, if_neg hkey, Outcome.indexKey_inj, assign]
  cases o <;> simp

end Contents

/-! ### Engines -/

/-- An engine that writes directly to the embedded store and is refused nothing, over tables that
    keep contents without sets but those of the outcomes, with the given scores. -/
structure Engine.Holds (e : Engine) (scores : List Score) (t : Tables) (c : Contents Dated) :
    Prop where
  backend : e.gate.backend = .embedded t
  unrefused : e.gate.refusals = []
  writes : ∃ closed, e.writes = .direct closed
  keeps : t.Keeps c
  indexed : ∀ {k m s}, c.score k m = some s → s ∈ scores ∧ ∃ o : Outcome, k = o.indexKey

namespace Engine

variable {e : Engine} {ids : List String} {scores : List Score} {t : Tables} {c : Contents Dated}

/-- Only the backend, what it refuses and the way of writing matter. -/
theorem Holds.of_eq (h : e.Holds scores t c) {e' : Engine} (hgate : e'.gate = e.gate)
    (hwrites : e'.writes = e.writes) : e'.Holds scores t c :=
  ⟨hgate ▸ h.backend, hgate ▸ h.unrefused, hwrites ▸ h.writes, h.keeps, h.indexed⟩

/-- Every tame command goes by the rows of its own set. -/
theorem Holds.fits (h : e.Holds scores t c) (hplain : ∀ id ∈ ids, Plain id)
    (hclear : ∀ id ∈ ids, ∀ score ∈ scores, Clear id score) {command : Command}
    (htame : command.Tame ids scores) : Embedded.Staged.Fits c command := by
  have halone : ∀ id ∈ ids, Alone c (resultKey id) := by
    intro id hid k m s hs hstarts
    obtain ⟨hscore, o, rfl⟩ := h.indexed hs
    exact absurd hstarts ((hclear id hid s hscore).not_starts (hplain id hid) o m)
  cases command with
  | set key payload ttl =>
    obtain ⟨id, hid, rfl⟩ := htame
    exact halone id hid
  | delete key =>
    obtain ⟨id, hid, rfl⟩ := htame
    exact halone id hid
  | rank key member score =>
    obtain ⟨-, o, rfl⟩ := htame
    exact o.nulFree_indexKey
  | unrank key member =>
    obtain ⟨o, rfl⟩ := htame
    exact o.nulFree_indexKey
  | unrankRange key min max =>
    obtain ⟨o, rfl⟩ := htame
    exact h.keeps.alone o.nulFree_indexKey

/-- A batch of tame commands succeeds, and takes the contents to those after it. -/
theorem Holds.execute (h : e.Holds scores t c) (hplain : ∀ id ∈ ids, Plain id)
    (hclear : ∀ id ∈ ids, ∀ score ∈ scores, Clear id score) {commands : List Command}
    (htame : ∀ command ∈ commands, command.Tame ids scores) :
    ∃ gate t', e.call (.execute commands) = ({ e with gate := gate }, .ok .done) ∧
      ({ e with gate := gate } : Engine).Holds scores t'
        (c.applyAll (Embedded.stamp e.now.wall) commands) := by
  obtain ⟨gate, hcall, hbackend, hrefusals⟩ := call_of_unrefused h.unrefused (.execute commands)
  obtain ⟨t', hexecute, hkeeps⟩ := h.keeps.execute e.now.wall fun command hc =>
    h.fits hplain hclear (htame command hc)
  rw [h.backend] at hcall hbackend
  simp only [Backend.answer, Tables.answer, hexecute] at hcall hbackend
  refine ⟨gate, t', hcall, hbackend, hrefusals, h.writes, hkeeps, fun hs => ?_⟩
  rcases Contents.score_applyAll hs with hbefore | hranked
  · exact h.indexed hbefore
  · exact htame _ hranked

/-- A call that is no batch leaves the sets. -/
theorem Holds.call (h : e.Holds scores t c) {call : StoreCall}
    (hcall : ∀ commands, call ≠ .execute commands) :
    ∃ t' c', (e.call call).1.Holds scores t' c' := by
  obtain ⟨gate, heq, hbackend, hrefusals⟩ := call_of_unrefused h.unrefused call
  rw [heq]
  rw [h.backend] at hbackend
  have hsame : gate.backend = .embedded t →
      ({ e with gate := gate } : Engine).Holds scores t c := fun hgate =>
    ⟨hgate, hrefusals, h.writes, h.keeps, h.indexed⟩
  cases call with
  | execute commands => exact absurd rfl (hcall commands)
  | evict => exact ⟨_, _, hbackend, hrefusals, h.writes, h.keeps.evict _, h.indexed⟩
  | get key => exact ⟨t, c, hsame hbackend⟩
  | range key min max => exact ⟨t, c, hsame hbackend⟩
  | ping => exact ⟨t, c, hsame hbackend⟩
  | close => exact ⟨t, c, hsame hbackend⟩

/-- Tame commands leave an engine with nothing but outcomes in its sets. -/
theorem kept_holds (hplain : ∀ id ∈ ids, Plain id)
    (hclear : ∀ id ∈ ids, ∀ score ∈ scores, Clear id score) :
    Kept (Command.Tame ids scores) fun e => ∃ t c, e.Holds scores t c where
  step := by
    rintro e s ⟨t, c, h⟩ hsubmitted hexecuted
    have hcommands : ∀ commands, (∀ command ∈ commands, command.Tame ids scores) →
        ∃ t' c', (e.step (.call (.execute commands))).Holds scores t' c' := by
      intro commands htame
      obtain ⟨gate, t', hcall, h'⟩ := h.execute hplain hclear htame
      exact ⟨t', _, by rw [step, hcall]; exact h'⟩
    cases s with
    | call call =>
      by_cases hbatch : ∃ commands, call = .execute commands
      · obtain ⟨commands, rfl⟩ := hbatch
        exact hcommands commands hexecuted
      · exact h.call fun commands heq => hbatch ⟨commands, heq⟩
    | submit command =>
      rcases e.submit_cases command with ⟨-, hsubmit⟩ | ⟨-, hsubmit⟩ | ⟨queue, hbatched, -⟩
      · exact ⟨t, c, by rw [step, hsubmit]; exact h⟩
      · obtain ⟨t', c', h'⟩ := hcommands [command] hsubmitted
        exact ⟨t', c', by rw [step, hsubmit]; exact h'⟩
      · obtain ⟨closed, hdirect⟩ := h.writes
        rw [hbatched] at hdirect
        cases hdirect
    | send =>
      obtain ⟨closed, hdirect⟩ := h.writes
      have hwaiting : e.writes.waiting = [] := by rw [hdirect]; rfl
      exact ⟨t, c, by rw [step, sendQueue_of_empty hwaiting]; exact h⟩
    | moveTo instant => exact ⟨t, c, h.of_eq rfl rfl⟩
    | count f => exact ⟨t, c, h.of_eq rfl rfl⟩
  setClock := by
    rintro e clock ⟨t, c, h⟩
    exact ⟨t, c, h.of_eq rfl rfl⟩
  close := by
    rintro e ⟨t, c, h⟩
    obtain ⟨closed, hdirect⟩ := h.writes
    exact ⟨t, c, h.backend, h.unrefused, ⟨true, by rw [hdirect]; rfl⟩, h.keeps, h.indexed⟩

end Engine

namespace ResultStore

/-! ### Runs -/

/-- An open store that holds outcomes, and whose score clock shows one of the given scores. -/
structure Holds (s : ResultStore) (scores : List Score) : Prop where
  engine : ∃ t c, s.engine.Holds scores t c
  clock : s.engine.clock.now ∈ scores
  isOpen : s.engine.writes.isClosed = false

variable {s : ResultStore} {ids : List String} {scores : List Score}

theorem holds_start {options : Options} (hdirect : options.pipePeriod = .zero) (now : Now)
    {clock : ManualClock} (hclock : clock.now ∈ scores) :
    (start (.embedded .empty) options now clock).Holds scores where
  engine := by
    refine ⟨.empty, .empty, rfl, rfl, ⟨false, ?_⟩, Tables.Represents.empty.toKeeps, nofun⟩
    simp only [start, hdirect]
    rfl
  clock := hclock
  isOpen := by
    simp only [start, hdirect]
    rfl

theorem Holds.run (h : s.Holds scores) (hplain : ∀ id ∈ ids, Plain id)
    (hclear : ∀ id ∈ ids, ∀ score ∈ scores, Clear id score) {actions : List StoreAction}
    (hopen : .shutdown ∉ actions) (hwritten : actions.flatMap StoreAction.written ⊆ ids)
    (hsettings : actions.flatMap StoreAction.settings ⊆ scores) :
    (s.run actions).Holds scores := by
  induction actions generalizing s with
  | nil => exact h
  | cons a actions ih =>
    rw [List.mem_cons, not_or] at hopen
    rw [List.flatMap_cons, List.append_subset] at hwritten hsettings
    refine ih ?_ hopen.2 hwritten.2 hsettings.2
    obtain ⟨hreading, hclosed⟩ := s.perform_clock (Ne.symm hopen.1)
    refine ⟨?_, ?_, hclosed.trans h.isOpen⟩
    · exact (Engine.kept_holds hplain hclear).perform tame_removals
        (StoreAction.tame_commands hwritten.1 h.clock s.options)
        (StoreAction.tame_deletions hwritten.1) h.engine
    · rw [hreading]
      rcases List.mem_cons.1 (a.reading_mem s.engine.clock.now) with hsame | hset
      · rw [hsame]
        exact h.clock
      · exact hsettings.1 hset

/-! ### What readers see -/

/-- A store at other readings of its clocks. -/
def seenAt (s : ResultStore) (now : Now) (clock : ManualClock) : ResultStore :=
  { s with engine := { s.engine with now := now, clock := clock } }

section

variable {s' : ResultStore} {t t' : Tables} {c c' : Contents Dated}

theorem get_held (h : s.engine.Holds scores t c) (id : String) :
    (s.get id).2 =
      match c.payload Prod.snd (Dated.isExpired s.engine.now.wall) (resultKey id) with
      | some payload => .ok payload
      | none => .error (.notFound id) := by
  obtain ⟨gate, hcall, -, -⟩ :=
    Engine.call_of_unrefused h.unrefused (.get (resultKey id))
  rw [h.backend] at hcall
  simp only [Backend.answer, Tables.answer, h.keeps.get] at hcall
  rw [get, hcall]
  cases c.payload Prod.snd (Dated.isExpired s.engine.now.wall) (resultKey id) <;> rfl

theorem list_held (h : s.engine.Holds scores t c) (o : Outcome) :
    (s.list o).2 = .ok (((t.entries o.indexKey).filter
      (Ranked.inRange 0 s.engine.clock.now)).reverse.map (·.member)) := by
  obtain ⟨gate, hcall, -, -⟩ :=
    Engine.call_of_unrefused h.unrefused (.range o.indexKey 0 s.engine.clock.now)
  rw [h.backend] at hcall
  simp only [Backend.answer, Tables.answer,
    h.keeps.range (h.keeps.alone o.nulFree_indexKey)] at hcall
  rw [list, hcall]
  rfl

theorem holds_seenAt (h : s.engine.Holds scores t c) (now : Now) (clock : ManualClock) :
    (s.seenAt now clock).engine.Holds scores t c :=
  h.of_eq rfl rfl

/-- Where the value of a result is the same, readers see the same. -/
theorem get_same (h : s.engine.Holds scores t c) (h' : s'.engine.Holds scores t' c') {id : String}
    (hvalue : c'.value (resultKey id) = c.value (resultKey id)) (now : Now) (clock : ManualClock) :
    ((s'.seenAt now clock).get id).2 = ((s.seenAt now clock).get id).2 := by
  have hnow : (s'.seenAt now clock).engine.now = (s.seenAt now clock).engine.now := rfl
  rw [get_held (holds_seenAt h now clock), get_held (holds_seenAt h' now clock), Contents.payload,
    Contents.payload, hvalue, hnow]

/-- Where some members keep their scores and the others have none, a listing keeps these members in
    their order. -/
theorem list_same (h : s.engine.Holds scores t c) (h' : s'.engine.Holds scores t' c') {o : Outcome}
    (keep : String → Bool)
    (hscore : ∀ m, c'.score o.indexKey m = if keep m then c.score o.indexKey m else none)
    (now : Now) (clock : ManualClock) :
    ∃ ids, ((s.seenAt now clock).list o).2 = .ok ids ∧
      ((s'.seenAt now clock).list o).2 = .ok (ids.filter keep) := by
  refine ⟨_, list_held (holds_seenAt h now clock) o, ?_⟩
  have halone := h.keeps.alone o.nulFree_indexKey
  have halone' := h'.keeps.alone o.nulFree_indexKey
  have hentries : t'.entries o.indexKey
      = (t.entries o.indexKey).filter fun r => keep r.member := by
    refine Ranked.eq_of_mem_iff (t'.entries_ascending o.indexKey)
      ((t.entries_ascending o.indexKey).filter _) fun r => ?_
    rw [h'.keeps.mem_entries halone', List.mem_filter, h.keeps.mem_entries halone, hscore]
    by_cases hkeep : keep r.member = true <;> simp [hkeep]
  have hnow : (s'.seenAt now clock).engine.clock = (s.seenAt now clock).engine.clock := rfl
  rw [list_held (holds_seenAt h' now clock), hentries, hnow]
  congr 1
  rw [List.filter_map, List.filter_reverse, List.filter_filter, List.filter_filter]
  simp only [Function.comp_def, Bool.and_comm]

/-- The result of a job is written and nothing else, apart from a set under its key. -/
theorem set_held (h : s.engine.Holds scores t c) (hopen : s.engine.writes.isClosed = false)
    (hplain : ∀ id ∈ ids, Plain id) (hclear : ∀ id ∈ ids, ∀ score ∈ scores, Clear id score)
    {id : String} (hid : id ∈ ids) (payload : Bytes) :
    (s.set id payload).2 = .ok () ∧ ∃ t', (s.set id payload).1.engine.Holds scores t'
      (c.apply (Embedded.stamp s.engine.now.wall) (.set (resultKey id) payload s.ttl?)) := by
  have htame : ∀ command ∈ [Command.set (resultKey id) payload s.ttl?],
      command.Tame ids scores := by
    intro command hcommand
    obtain rfl := List.mem_singleton.1 hcommand
    exact ⟨id, hid, rfl⟩
  obtain ⟨gate, t', hcall, h'⟩ := h.execute hplain hclear htame
  obtain ⟨closed, hdirect⟩ := h.writes
  obtain rfl : closed = false := by
    rw [hdirect] at hopen
    exact hopen
  have hset : s.set id payload =
      ({ s with engine := ({ s.engine with gate := gate } : Engine).count Metrics.resultWritten },
        .ok ()) := by
    simp only [set, submit, Engine.submit, hdirect, Engine.execute, hcall, Except.map]
  rw [hset]
  exact ⟨rfl, t', h'.of_eq rfl rfl⟩

/-- All traces of a job are removed and nothing else. -/
theorem deleteJob_held (h : s.engine.Holds scores t c) (hopen : s.engine.writes.isClosed = false)
    (hplain : ∀ id ∈ ids, Plain id) (hclear : ∀ id ∈ ids, ∀ score ∈ scores, Clear id score)
    {id : String} (hid : id ∈ ids) :
    (s.deleteJob id).2 = .ok () ∧ ∃ t', (s.deleteJob id).1.engine.Holds scores t'
      (c.applyAll (Embedded.stamp s.engine.now.wall) (deletion id)) := by
  obtain ⟨gate, t', hcall, h'⟩ := h.execute hplain hclear (tame_deletion hid)
  have hdelete : s.deleteJob id =
      ({ s with engine := ({ s.engine with gate := gate } : Engine).count Metrics.jobDeleted },
        .ok ()) := by
    simp only [deleteJob, hopen, Engine.execute, hcall, Except.map]
    rfl
  rw [hdelete]
  exact ⟨rfl, t', h'.of_eq rfl rfl⟩

end

/-! ### Other jobs -/

/-- Over a new embedded store that is written directly, after every run of actions without a
    shutdown: writing and deleting the result of a job succeed; what is read of any other job stays
    the same, and so do the listings, but for the job that is deleted.  All ids may be any texts but
    the names of the outcomes, as long as they are clear of the readings of the score clock. -/
theorem isolated (options : Options) (hdirect : options.pipePeriod = .zero) (now : Now)
    (clock : ManualClock) (actions : List StoreAction) (hopen : .shutdown ∉ actions)
    {a b : String} (hab : a ≠ b) (payload : Bytes)
    (hplain : ∀ id ∈ a :: actions.flatMap StoreAction.written, Plain id)
    (hclear : ∀ id ∈ a :: actions.flatMap StoreAction.written,
      ∀ reading ∈ clock.now :: actions.flatMap StoreAction.settings, Clear id reading) :
    let s := (start (.embedded .empty) options now clock).run actions
    (s.set a payload).2 = .ok () ∧ (s.deleteJob a).2 = .ok () ∧
      ∀ (now' : Now) (clock' : ManualClock),
        (((s.set a payload).1.seenAt now' clock').get b).2 = ((s.seenAt now' clock').get b).2 ∧
        (((s.deleteJob a).1.seenAt now' clock').get b).2 = ((s.seenAt now' clock').get b).2 ∧
        ∀ o, ∃ ids, ((s.seenAt now' clock').list o).2 = .ok ids ∧
          (((s.set a payload).1.seenAt now' clock').list o).2 = .ok ids ∧
          (((s.deleteJob a).1.seenAt now' clock').list o).2 = .ok (ids.filter (· ≠ a)) := by
  intro s
  let ids := a :: actions.flatMap StoreAction.written
  let scores := clock.now :: actions.flatMap StoreAction.settings
  have ha : a ∈ ids := List.mem_cons_self
  have hs : s.Holds scores := (holds_start hdirect now List.mem_cons_self).run hplain hclear hopen
    (List.subset_cons_self _ _) (List.subset_cons_self _ _)
  obtain ⟨t, c, h⟩ := hs.engine
  obtain ⟨hset, t₁, h₁⟩ := set_held h hs.isOpen hplain hclear ha payload
  obtain ⟨hdelete, t₂, h₂⟩ := deleteJob_held h hs.isOpen hplain hclear ha
  refine ⟨hset, hdelete, fun now' clock' => ⟨?_, ?_, fun o => ?_⟩⟩
  · exact get_same h h₁ (Contents.value_set _ c hab _ _) now' clock'
  · exact get_same h h₂ (Contents.value_deletion _ c hab) now' clock'
  · obtain ⟨listed, hbefore, hset⟩ := list_same h h₁ (fun _ => true)
      (Contents.score_set _ c (hplain a ha) _ _ o) now' clock'
    obtain ⟨listed', hbefore', hdelete⟩ := list_same h h₂ (fun id => decide (id ≠ a))
      (fun m => by simpa using Contents.score_deletion _ c (hplain a ha) o m) now' clock'
    obtain rfl : listed' = listed := Except.ok.inj (hbefore'.symm.trans hbefore)
    rw [List.filter_true] at hset
    exact ⟨listed', hbefore, hset, hdelete⟩

/-- An id that goes on after the name of an outcome and a NUL, at early readings of the clock. -/
theorem isolated_early :
    let a := "success\x00\u0080"
    let actions : List StoreAction :=
      [.job (.record .success "b"), .job (.set a [1]), .job (.setClock 7), .job (.set "b" [2]),
        .job (.record .failed a), .job (.record .failed "b")]
    let s := (start (.embedded .empty) {} ⟨0, 0⟩ ⟨5⟩).run actions
    (((s.set a [3]).1.seenAt ⟨9, 9⟩ ⟨8⟩).list .success).2 = .ok ["b"] ∧
      (((s.deleteJob a).1.seenAt ⟨9, 9⟩ ⟨8⟩).get "b").2 = .ok [2] ∧
      (((s.deleteJob a).1.seenAt ⟨9, 9⟩ ⟨8⟩).list .failed).2 = .ok ["b"] := by
  intro a actions s
  have hplain : ∀ id ∈ a :: actions.flatMap StoreAction.written, Plain id := by decide
  have hearly : ∀ reading ∈ (5 : Score) :: actions.flatMap StoreAction.settings,
      0 ≤ reading ∧ reading < firstTextual := by
    intro reading hreading
    have hmem : reading = 5 ∨ reading = 7 := by
      simpa [actions, StoreAction.settings] using hreading
    rcases hmem with rfl | rfl <;> decide
  have hclear : ∀ id ∈ a :: actions.flatMap StoreAction.written,
      ∀ reading ∈ (5 : Score) :: actions.flatMap StoreAction.settings, Clear id reading :=
    fun _ _ reading hreading => .inl (hearly reading hreading)
  obtain ⟨-, -, hread⟩ := isolated {} rfl ⟨0, 0⟩ ⟨5⟩ actions (by decide)
    (show a ≠ "b" by decide) [3] hplain hclear
  obtain ⟨-, hget, hlist⟩ := hread ⟨9, 9⟩ ⟨8⟩
  obtain ⟨succeeded, hsucceeded, hset, -⟩ := hlist .success
  obtain ⟨failed, hfailed, -, hdelete⟩ := hlist .failed
  obtain rfl : ["b"] = succeeded :=
    Except.ok.inj (Eq.trans (by decide) hsucceeded)
  obtain rfl : [a, "b"] = failed := Except.ok.inj (Eq.trans (by decide) hfailed)
  exact ⟨hset, hget.trans (by decide), hdelete.trans (by decide)⟩

/-- At the first reading that is not clear of all ids, a result is written over the only row of an
    outcome's set: the bytes after the name of the set are those of U+0080 and of a NUL. -/
theorem set_clears_outcome :
    let a := "success\x00\u0080"
    let s := (start (.embedded .empty) {} ⟨0, 0⟩ ⟨firstTextual⟩).run
      [.job (.record .success "bystander")]
    Plain a ∧ Plain "bystander" ∧ 0 ≤ firstTextual ∧ (s.set a [1]).2 = .ok () ∧
      (s.list .success).2 = .ok ["bystander"] ∧ ((s.set a [1]).1.list .success).2 = .ok [] := by
  decide

end ResultStore

end JobResults
