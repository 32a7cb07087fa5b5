import JobResults.Proofs.Cutoff
import JobResults.Proofs.Isolation
import JobResults.Proofs.Trimming

/-!
  # Purges that fail in part

  A purge makes up to three calls on the backend, each of which may fail: the gate may refuse it,
  and so may embedded tables with malformed rows.  What it does when some of them fail is told by
  the calls that would fail now (`Gate.failure?`): the removals do not get in each other's way or in
  that of the eviction.  `Engine.Purged` lists what becomes of the sets, the values, the counters
  and the answer in all cases (`Engine.purge_purged`).

  A set is trimmed exactly if every member has one score in it.  Ids with NUL in them can give a
  member of an outcome's set two, and then a purge leaves one (`ResultStore.purge_keeps_stale`).
-/

namespace JobResults

open Embedded (NulFree Tables)

/-! ### Calls that fail -/

namespace Gate

/-- The error with which a call would fail, refused or not, if it would. -/
def failure? (g : Gate) (now : Now) (call : StoreCall) : Option StoreError :=
  match g.refused? call with
  | some err => some err
  | none =>
    match (g.backend.answer now call).2 with
    | .ok _ => none
    | .error err => some err

variable {g : Gate} {now : Now} {call : StoreCall}

theorem refused?_note (g : Gate) (call : StoreCall) :
    (g.note call).refused? call = g.refused? call := by
  cases call <;> rfl

theorem backend_note (g : Gate) (call : StoreCall) : (g.note call).backend = g.backend := by
  cases call <;> rfl

/-- A call that fails leaves the backend as it is. -/
theorem answer_of_failure {err : StoreError} (h : g.failure? now call = some err) :
    g.answer now call = (g.note call, .error err) := by
  rw [failure?] at h
  rw [answer, refused?_note]
  cases hrefused : g.refused? call with
  | some refusal =>
    rw [hrefused] at h
    simp only [Option.some.inj h]
  | none =>
    have hreply : (g.backend.answer now call).2 = .error err := by
      rw [hrefused] at h
      dsimp only at h
      split at h
      · cases h
      · next hreply => rw [hreply, Option.some.inj h]
    have hsame := g.backend.answer_error now call hreply
    simp only [backend_note, hsame, hreply]
    rw [← backend_note g call]

theorem answer_of_success (h : g.failure? now call = none) :
    ∃ a, (g.backend.answer now call).2 = .ok a ∧
      g.answer now call
        = ({ g.note call with backend := (g.backend.answer now call).1 }, .ok a) := by
  rw [failure?] at h
  rw [answer, refused?_note]
  cases hrefused : g.refused? call with
  | some refusal =>
    rw [hrefused] at h
    cases h
  | none =>
    rw [hrefused] at h
    dsimp only at h
    split at h
    · next a hreply =>
      refine ⟨a, hreply, ?_⟩
      simp only [backend_note, hreply]
    · cases h

/-- An eviction fails only if it is refused. -/
theorem failure?_evict (g : Gate) (now : Now) : g.failure? now .evict = g.refused? .evict := by
  obtain ⟨count, hanswer, -, -⟩ := g.backend.evict_swept now
  rw [failure?, hanswer]
  cases g.refused? .evict <;> rfl

end Gate

/-- The call that removes the jobs up to a cutoff from the set of an outcome. -/
def removal (cutoff : Score) (o : Outcome) : StoreCall :=
  .execute [.unrankRange o.indexKey 0 cutoff]

namespace Engine

/-- The error with which a call would fail now, if it would. -/
def failure? (e : Engine) (call : StoreCall) : Option StoreError := e.gate.failure? e.now call

/-- The first error among those of the calls of a purge. -/
def firstFailure? (e : Engine) (cutoff : Score) : Option StoreError :=
  [removal cutoff .failed, removal cutoff .success, .evict].findSome? e.failure?

/-- The keys of the sets from which a removal would succeed now. -/
def trimmedKeys (e : Engine) (cutoff : Score) (outcomes : List Outcome) : List String :=
  (outcomes.filter fun o => (e.failure? (removal cutoff o)).isNone).map Outcome.indexKey

/-- What a purge on an open store that writes directly does, with a cutoff. -/
structure Purged (e : Engine) (cutoff : Score) (e' : Engine)
    (told : Except StoreError PurgeReport) : Prop where
  /-- Both removals are tried, that from the failed jobs first, -/
  tried : e'.gate.record = e.gate.record ++ (removals cutoff).map fun c => [c]
  /-- and an eviction only if none of them fails. -/
  evictions : e'.gate.evictions = e.gate.evictions +
    if e.failure? (removal cutoff .failed) = none ∧ e.failure? (removal cutoff .success) = none
    then 1 else 0
  /-- A set loses the entries in range if its removal succeeds, -/
  trimmed : ∀ o, e.failure? (removal cutoff o) = none →
    e.gate.backend.Unambiguous o.indexKey →
      e'.gate.backend.index o.indexKey
        = (e.gate.backend.index o.indexKey).filter fun r => !Score.within 0 cutoff r.score
  /-- it stays as it is if the removal fails, -/
  untouched : ∀ o err, e.failure? (removal cutoff o) = some err →
    e'.gate.backend.index o.indexKey = e.gate.backend.index o.indexKey
  /-- and so does all that belongs to other sets. -/
  others : e.gate.backend.SameSetsBut (e.trimmedKeys cutoff [.failed, .success]) e'.gate.backend
  /-- If some call fails, the first error is told, all values stay, and one more failure is
      counted. -/
  failed : ∀ err, e.firstFailure? cutoff = some err →
    told = .error err ∧ e.gate.backend.SameValues e'.gate.backend ∧
      e'.metrics = { e.metrics with purgeFailures := e.metrics.purgeFailures + 1 }
  /-- Otherwise the values that are due go and are told, and one more cycle is counted. -/
  completed : e.firstFailure? cutoff = none →
    ∃ count, told = .ok ⟨cutoff, count⟩ ∧ e.gate.backend.Swept e.now count e'.gate.backend ∧
      e'.metrics = { e.metrics with purgeCycles := e.metrics.purgeCycles + 1 }
  /-- Nothing else changes. -/
  rest : e' = { e with
    gate := { e.gate with
      backend := e'.gate.backend
      record := e'.gate.record
      evictions := e'.gate.evictions }
    metrics := e'.metrics }

/-! ### The calls of a purge -/

/-- The engine with more batches on record and another backend. -/
def became (e : Engine) (batches : List (List Command)) (b : Backend) : Engine :=
  { e with gate := { e.gate with backend := b, record := e.gate.record ++ batches } }

theorem became_became (e : Engine) (batches more : List (List Command)) (b b' : Backend) :
    (e.became batches b).became more b' = e.became (batches ++ more) b' := by
  simp only [became, List.append_assoc]

variable {e : Engine}

theorem nulFree_of_mem_trimmedKeys {cutoff : Score} {outcomes : List Outcome} {key : String}
    (h : key ∈ e.trimmedKeys cutoff outcomes) : NulFree key := by
  obtain ⟨o, -, rfl⟩ := List.mem_map.1 h
  exact o.nulFree_indexKey

theorem mem_trimmedKeys_iff {cutoff : Score} {outcomes : List Outcome} {o : Outcome} :
    o.indexKey ∈ e.trimmedKeys cutoff outcomes ↔
      o ∈ outcomes ∧ e.failure? (removal cutoff o) = none := by
  simp only [trimmedKeys, List.mem_map, List.mem_filter, Option.isNone_iff_eq_none]
  constructor
  · rintro ⟨o', ho', hkey⟩
    exact Outcome.indexKey_inj.1 hkey ▸ ho'
  · intro ho
    exact ⟨o, ho, rfl⟩

theorem trimmedKeys_congr {e' : Engine} {cutoff : Score} {outcomes : List Outcome}
    (h : ∀ o ∈ outcomes, e'.failure? (removal cutoff o) = e.failure? (removal cutoff o)) :
    e'.trimmedKeys cutoff outcomes = e.trimmedKeys cutoff outcomes := by
  have hfilter : (outcomes.filter fun o => (e'.failure? (removal cutoff o)).isNone)
      = outcomes.filter fun o => (e.failure? (removal cutoff o)).isNone :=
    List.filter_congr fun o ho => by rw [h o ho]
  rw [trimmedKeys, hfilter, trimmedKeys]

theorem disjoint_trimmedKeys {cutoff : Score} {outcomes outcomes' : List Outcome}
    (h : outcomes.Disjoint outcomes') :
    (e.trimmedKeys cutoff outcomes).Disjoint (e.trimmedKeys cutoff outcomes') := by
  intro key hkey hkey'
  obtain ⟨o, -, rfl⟩ := List.mem_map.1 hkey
  exact h (mem_trimmedKeys_iff.1 hkey).1 (mem_trimmedKeys_iff.1 hkey').1

/-- A removal is on record.  It fails and changes nothing, or trims its set. -/
theorem trim_step (hopen : e.writes = .direct false) (o : Outcome) (cutoff : Score) :
    ∃ b, e.trim o cutoff
        = (e.became [[.unrankRange o.indexKey 0 cutoff]] b,
          (e.failure? (removal cutoff o)).elim (.ok ()) .error) ∧
      e.gate.backend.SameValues b ∧
      e.gate.backend.Trimmed (e.trimmedKeys cutoff [o]) 0 cutoff b := by
  have htrim : e.trim o cutoff = ((e.call (removal cutoff o)).1,
      (e.call (removal cutoff o)).2.map fun _ => ()) := by
    rw [trim, submit, hopen]
    rfl
  cases hfailure : e.failure? (removal cutoff o) with
  | some err =>
    refine ⟨e.gate.backend, ?_, .refl _, ?_⟩
    · rw [htrim, call, Gate.answer_of_failure hfailure]
      rfl
    · have hnone : e.trimmedKeys cutoff [o] = [] := by simp [trimmedKeys, hfailure]
      rw [hnone]
      exact .refl _ 0 cutoff
  | none =>
    obtain ⟨a, hok, hanswer⟩ := Gate.answer_of_success hfailure
    have hone : e.trimmedKeys cutoff [o] = [o.indexKey] := by simp [trimmedKeys, hfailure]
    obtain ⟨hvalues, htrimmed⟩ := e.gate.backend.trimmed_of_ok e.now o.nulFree_indexKey 0 cutoff hok
    refine ⟨_, ?_, hvalues, hone ▸ htrimmed⟩
    rw [htrim, call, hanswer]
    rfl

theorem evict_of_failure {err : StoreError} (h : e.failure? .evict = some err) :
    e.evict = ({ e with gate := { e.gate with evictions := e.gate.evictions + 1 } },
      .error err) := by
  simp only [evict, call, Gate.answer_of_failure h]
  rfl

/-- An eviction that is not refused takes out the values that are due. -/
theorem evict_of_success (h : e.failure? .evict = none) :
    ∃ b count, e.evict = ({ e with
        gate := { e.gate with backend := b, evictions := e.gate.evictions + 1 } }, .ok count) ∧
      e.gate.backend.Swept e.now count b ∧ e.gate.backend.SameSets b := by
  obtain ⟨a, hok, hanswer⟩ := Gate.answer_of_success h
  obtain ⟨count, hcount, hswept, hsets⟩ := e.gate.backend.evict_swept e.now
  obtain rfl : .evicted count = a := Except.ok.inj (hcount.symm.trans hok)
  refine ⟨_, count, ?_, hswept, hsets⟩
  simp only [evict, call, hanswer]
  rfl

/-- What is on record is of no concern to a call. -/
theorem failure?_became {batches : List (List Command)} {b : Backend} {call : StoreCall}
    (h : (b.answer e.now call).2 = (e.gate.backend.answer e.now call).2) :
    (e.became batches b).failure? call = e.failure? call := by
  have hrefused : (e.became batches b).gate.refused? call = e.gate.refused? call := rfl
  have hanswer : ((e.became batches b).gate.backend.answer e.now call).2
      = (e.gate.backend.answer e.now call).2 := h
  have hnow : (e.became batches b).now = e.now := rfl
  rw [failure?, failure?, Gate.failure?, Gate.failure?, hrefused, hnow, hanswer]

/-- The second removal fares as if it came first. -/
theorem trim_both (hopen : e.writes = .direct false) (cutoff : Score) :
    ∃ e₁ b, e.trim .failed cutoff
        = (e₁, (e.failure? (removal cutoff .failed)).elim (.ok ()) .error) ∧
      e₁.trim .success cutoff
        = (e.became ((removals cutoff).map fun c => [c]) b,
          (e.failure? (removal cutoff .success)).elim (.ok ()) .error) ∧
      e.gate.backend.SameValues b ∧
      e.gate.backend.Trimmed (e.trimmedKeys cutoff [.failed, .success]) 0 cutoff b := by
  obtain ⟨b₁, hfirst, hvalues₁, htrimmed₁⟩ := trim_step hopen .failed cutoff
  generalize he₁ : e.became [[.unrankRange Outcome.failed.indexKey 0 cutoff]] b₁ = e₁ at hfirst
  have hopen₁ : e₁.writes = .direct false := he₁ ▸ hopen
  have hbackend : e₁.gate.backend = b₁ := he₁ ▸ rfl
  have hout : Outcome.success.indexKey ∉ e.trimmedKeys cutoff [.failed] := by
    simp [mem_trimmedKeys_iff]
  have hsame : e₁.failure? (removal cutoff .success) = e.failure? (removal cutoff .success) := by
    rw [← he₁]
    exact failure?_became (htrimmed₁.others.execute_eq hvalues₁
      (fun _ => nulFree_of_mem_trimmedKeys) e.now Outcome.success.nulFree_indexKey hout)
  have hkeys : e₁.trimmedKeys cutoff [.success] = e.trimmedKeys cutoff [.success] :=
    trimmedKeys_congr fun o ho => by rw [List.mem_singleton.1 ho, hsame]
  -- both removals are told by what would fail at first, so the two steps can be added up
  obtain ⟨b₂, hsecond, hvalues₂, htrimmed₂⟩ := trim_step hopen₁ .success cutoff
  rw [hbackend] at hvalues₂ htrimmed₂
  rw [hkeys] at htrimmed₂
  rw [hsame, ← he₁, became_became] at hsecond
  have hall : e.trimmedKeys cutoff [.failed, .success]
      = e.trimmedKeys cutoff [.failed] ++ e.trimmedKeys cutoff [.success] := by
    simp only [trimmedKeys, ← List.map_append, ← List.filter_append, List.cons_append,
      List.nil_append]
  refine ⟨e₁, b₂, hfirst, he₁ ▸ hsecond, hvalues₁.trans hvalues₂, ?_⟩
  rw [hall]
  exact htrimmed₁.trans htrimmed₂ (fun _ => nulFree_of_mem_trimmedKeys)
    (fun _ => nulFree_of_mem_trimmedKeys) (disjoint_trimmedKeys (by simp))

/-! ### Whole purges -/

/-- The sets of the outcomes, whatever follows the removals. -/
theorem index_of_trimmed {cutoff : Score} {b : Backend}
    (h : e.gate.backend.Trimmed (e.trimmedKeys cutoff [.failed, .success]) 0 cutoff b)
    (o : Outcome) :
    (e.failure? (removal cutoff o) = none → e.gate.backend.Unambiguous o.indexKey →
      b.index o.indexKey
        = (e.gate.backend.index o.indexKey).filter fun r => !Score.within 0 cutoff r.score) ∧
    ∀ err, e.failure? (removal cutoff o) = some err →
      b.index o.indexKey = e.gate.backend.index o.indexKey := by
  constructor
  · intro hnone
    have ho : o ∈ [Outcome.failed, .success] := by cases o <;> simp
    exact h.trimmed o.indexKey (mem_trimmedKeys_iff.2 ⟨ho, hnone⟩)
  · intro err herr
    refine (h.others.index_eq (fun _ => nulFree_of_mem_trimmedKeys) o.nulFree_indexKey ?_).1
    rw [mem_trimmedKeys_iff, herr]
    rintro ⟨-, hnone⟩
    cases hnone

section

variable {cutoff : Score} {b : Backend} {evictions : Nat}
  (htrimmed : e.gate.backend.Trimmed (e.trimmedKeys cutoff [.failed, .success]) 0 cutoff b)
  (hevictions : evictions = if e.failure? (removal cutoff .failed) = none ∧
    e.failure? (removal cutoff .success) = none then 1 else 0)

include htrimmed hevictions

theorem purged_of_failure {err : StoreError} (hfirst : e.firstFailure? cutoff = some err)
    (hvalues : e.gate.backend.SameValues b) :
    e.Purged cutoff
      { e with
        gate := { e.gate with
          backend := b
          record := e.gate.record ++ (removals cutoff).map fun c => [c]
          evictions := e.gate.evictions + evictions }
        metrics := e.metrics.purgeFailed } (.error err) where
  tried := rfl
  evictions := hevictions ▸ rfl
  trimmed o := (index_of_trimmed htrimmed o).1
  untouched o := (index_of_trimmed htrimmed o).2
  others := htrimmed.others
  failed err' herr := by
    obtain rfl := Option.some.inj (hfirst.symm.trans herr)
    exact ⟨rfl, hvalues, rfl⟩
  completed hnone := by
    rw [hfirst] at hnone
    cases hnone
  rest := rfl

theorem purged_of_success {count : Nat} (hfirst : e.firstFailure? cutoff = none)
    (hswept : e.gate.backend.Swept e.now count b) :
    e.Purged cutoff
      { e with
        gate := { e.gate with
          backend := b
          record := e.gate.record ++ (removals cutoff).map fun c => [c]
          evictions := e.gate.evictions + evictions }
        metrics := e.metrics.purgeCompleted } (.ok ⟨cutoff, count⟩) where
  tried := rfl
  evictions := hevictions ▸ rfl
  trimmed o := (index_of_trimmed htrimmed o).1
  untouched o := (index_of_trimmed htrimmed o).2
  others := htrimmed.others
  failed err herr := by
    rw [hfirst] at herr
    cases herr
  completed _ := ⟨count, rfl, hswept, rfl⟩
  rest := rfl

end

/-- A purge in which a removal fails. -/
theorem purged_of_refused (hopen : e.writes = .direct false) {window : Duration}
    {err : StoreError}
    (h : e.failure? (removal (e.cutoff window) .failed) = some err ∨
      e.failure? (removal (e.cutoff window) .failed) = none ∧
        e.failure? (removal (e.cutoff window) .success) = some err) :
    e.Purged (e.cutoff window) (e.purge window).1 (e.purge window).2 := by
  obtain ⟨e₁, b, hfirst, hsecond, hvalues, htrimmed⟩ := trim_both hopen (e.cutoff window)
  have hpurge : e.purge window
      = (e.became ((removals (e.cutoff window)).map fun c => [c]) b).purgeFailure err := by
    rcases h with hfailed | ⟨hfailed, hsuccess⟩
    · simp only [purge, hfirst, hsecond, hfailed, Option.elim_some]
    · simp only [purge, hfirst, hsecond, hfailed, hsuccess, Option.elim_some, Option.elim_none]
  have htold : e.firstFailure? (e.cutoff window) = some err := by
    rcases h with hfailed | ⟨hfailed, hsuccess⟩
    · simp [firstFailure?, hfailed]
    · simp [firstFailure?, hfailed, hsuccess]
  have hevictions : 0 = if e.failure? (removal (e.cutoff window) .failed) = none ∧
      e.failure? (removal (e.cutoff window) .success) = none then 1 else 0 := by
    rcases h with hfailed | ⟨-, hsuccess⟩
    · simp [hfailed]
    · simp [hsuccess]
  rw [hpurge]
  exact purged_of_failure htrimmed hevictions htold hvalues

/-- A purge in which both removals succeed goes on to the eviction. -/
theorem purged_of_accepted (hopen : e.writes = .direct false) {window : Duration}
    (hfailed : e.failure? (removal (e.cutoff window) .failed) = none)
    (hsuccess : e.failure? (removal (e.cutoff window) .success) = none) :
    e.Purged (e.cutoff window) (e.purge window).1 (e.purge window).2 := by
  obtain ⟨e₁, b, hfirst, hsecond, hvalues, htrimmed⟩ := trim_both hopen (e.cutoff window)
  have hevictions : 1 = if e.failure? (removal (e.cutoff window) .failed) = none ∧
      e.failure? (removal (e.cutoff window) .success) = none then 1 else 0 := by
    simp [hfailed, hsuccess]
  have htold : e.firstFailure? (e.cutoff window) = e.failure? .evict := by
    simp only [firstFailure?, List.findSome?_cons, hfailed, hsuccess, List.findSome?_nil]
    cases e.failure? .evict <;> rfl
  generalize he₂ : e.became ((removals (e.cutoff window)).map fun c => [c]) b = e₂ at hsecond
  have hsame : e₂.failure? .evict = e.failure? .evict := by
    rw [failure?, failure?, Gate.failure?_evict, Gate.failure?_evict, ← he₂]
    rfl
  cases hevict : e.failure? .evict with
  | some err =>
    have hpurge : e.purge window = ({ e₂ with
        gate := { e₂.gate with evictions := e₂.gate.evictions + 1 }
        metrics := e₂.metrics.purgeFailed }, .error err) := by
      simp only [purge, hfirst, hsecond, hfailed, hsuccess, Option.elim_none,
        evict_of_failure (hsame.trans hevict)]
      rfl
    rw [hpurge, ← he₂]
    exact purged_of_failure htrimmed hevictions (htold.trans hevict) hvalues
  | none =>
    obtain ⟨b', count, hevicted, hswept, hsets⟩ := evict_of_success (hsame.trans hevict)
    have hpurge : e.purge window = ({ e₂ with
        gate := { e₂.gate with backend := b', evictions := e₂.gate.evictions + 1 }
        metrics := e₂.metrics.purgeCompleted }, .ok ⟨e.cutoff window, count⟩) := by
      simp only [purge, hfirst, hsecond, hfailed, hsuccess, Option.elim_none, hevicted]
      rfl
    rw [hpurge]
    subst he₂
    -- an eviction counts as one more removal, from no set
    have htrimmed' := htrimmed.trans (.of_sameSets hsets 0 (e.cutoff window))
      (fun _ => nulFree_of_mem_trimmedKeys) (fun _ h => absurd h List.not_mem_nil)
      (List.disjoint_nil_right _)
    rw [List.append_nil] at htrimmed'
    exact purged_of_success htrimmed' hevictions (htold.trans hevict) (hvalues.swept hswept)

/-- What a purge on an open store does, for any backend, clock and window and whatever is
    refused.  In a backend that has come up by calls on keys without NUL, every member of an
    outcome's set has one score, so a removal that succeeds leaves exactly the entries out of
    range. -/
theorem purge_purged (e : Engine) (hopen : e.writes = .direct false) (window : Duration) :
    e.Purged (Score.clamp (exactCutoff e.clock.now window)) (e.purge window).1
        (e.purge window).2 ∧
      (e.gate.backend.Reachable → ∀ o : Outcome, e.gate.backend.Unambiguous o.indexKey) := by
  refine ⟨?_, fun hreach o => hreach.unambiguous o.nulFree_indexKey⟩
  rw [← cutoff_eq]
  cases hfailed : e.failure? (removal (e.cutoff window) .failed) with
  | some err => exact purged_of_refused hopen (.inl hfailed)
  | none =>
    cases hsuccess : e.failure? (removal (e.cutoff window) .success) with
    | some err => exact purged_of_refused hopen (.inr ⟨hfailed, hsuccess⟩)
    | none => exact purged_of_accepted hopen hfailed hsuccess

/-- The removal from the successful jobs is refused.  The failed jobs are trimmed all the same, and
    the value that is due stays. -/
theorem purge_purged_refused_success :
    let old := (Tables.empty.answer 4 (.execute
      [.rank Outcome.failed.indexKey "a" 3, .rank Outcome.failed.indexKey "b" 200,
        .rank Outcome.success.indexKey "c" 3, .set (resultKey "d") [1] (some ⟨1, by decide⟩)])).1
    let gate : Gate := { Gate.ofBackend (.embedded old) with refusals := [.executeSuccessIndex] }
    let e : Engine := ⟨gate, ⟨9, 9⟩, ⟨100⟩, .direct false, {}⟩
    let e' := (e.purge .zero).1
    (e.purge .zero).2 = .error (Refusal.error .executeSuccessIndex) ∧
      e'.gate.backend.index Outcome.failed.indexKey = [⟨200, "b"⟩] ∧
      e'.gate.backend.index Outcome.success.indexKey = [⟨3, "c"⟩] ∧
      e.gate.backend.SameValues e'.gate.backend ∧ e'.gate.evictions = 0 ∧
      e'.metrics = { purgeFailures := 1 } := by
  intro old gate e e'
  have hreach : (Backend.embedded old).Reachable := .embedded (.call 4 _ (by decide) .empty)
  obtain ⟨hpurged, hone⟩ := purge_purged e rfl .zero
  obtain ⟨htold, hvalues, hmetrics⟩ :=
    hpurged.failed (Refusal.error .executeSuccessIndex) (by decide)
  have hfailed := hpurged.trimmed .failed (by decide) (hone hreach .failed)
  have hsuccess := hpurged.untouched .success (Refusal.error .executeSuccessIndex) (by decide)
  exact ⟨htold, hfailed.trans (by decide +kernel), hsuccess.trans (by decide +kernel), hvalues,
    hpurged.evictions.trans (by decide), hmetrics⟩

end Engine

/-- A result whose id goes on after the name of an outcome and a NUL is written over the row of a
    bystander, and clears what tells the score of another job with it.  When this job succeeds
    again, it has two scores in its set, and a purge removes one of them. -/
theorem ResultStore.purge_keeps_stale :
    let a := "\u0080\x00tander"
    let s := (start (.embedded .empty) {} ⟨0, 0⟩ ⟨5⟩).run
      [.job (.record .success a), .job (.setClock Embedded.firstTextual),
        .job (.record .success "bystander"), .job (.set "success\x00\u0080" [1]),
        .job (.setClock 7), .job (.record .success a), .job (.setClock 100)]
    let index (s : ResultStore) := s.engine.gate.backend.index Outcome.success.indexKey
    s.engine.writes = .direct false ∧ s.engine.gate.refusals = [] ∧
      index s = [⟨5, a⟩, ⟨7, a⟩] ∧ (s.purgeOlderThan .zero).2 = .ok ⟨100, 0⟩ ∧
      (index s).filter (fun r => !Score.within 0 100 r.score) = [] ∧
      index (s.purgeOlderThan .zero).1 = [⟨7, a⟩] ∧
      ((s.purgeOlderThan .zero).1.list .success).2 = .ok [a] := by
  decide +kernel

end JobResults
