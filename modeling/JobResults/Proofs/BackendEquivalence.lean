import JobResults.Backend
import JobResults.Proofs.Embedded.Expiry
import JobResults.Proofs.Memory.Store

/-!
  # Both backends answer alike

  The store in memory and the tables are related when both hold the same contents, up to the way
  in which an expiry is kept (`Related`).  While the two clocks are in step, a call keeps them
  related and has the same answer on both (`Related.answer`).  So no run of calls from empty
  stores tells them apart, and the embedded store never answers an error.
-/

namespace JobResults

open Embedded (Dated NulFree)
open Memory (Ranked)

/-- Both clocks show the same instant, after their start and before the last one that a word can
    hold. -/
structure Now.InStep (now : Now) : Prop where
  same : now.monotonic = now.wall.toNat
  started : 1 ≤ now.wall.toNat
  notLast : now.wall.toNat < 2 ^ 64 - 1

instance (now : Now) : Decidable now.InStep :=
  decidable_of_iff
    (now.monotonic = now.wall.toNat ∧ 1 ≤ now.wall.toNat ∧ now.wall.toNat < 2 ^ 64 - 1)
    ⟨fun ⟨h, h', h''⟩ => ⟨h, h', h''⟩, fun h => ⟨h.same, h.started, h.notLast⟩⟩

/-- The answers to calls that come one after the other, each at its readings of the clocks. -/
def Backend.answers (b : Backend) : List (Now × StoreCall) → List (Except StoreError StoreAnswer)
  | [] => []
  | (now, call) :: calls => (b.answer now call).2 :: (b.answer now call).1.answers calls

/-! ### Expiry on the two clocks -/

/-- The same payload, expired at the same instants. -/
structure SameExpiry (e : Memory.Entry) (v : Dated) : Prop where
  payload : e.payload = v.2
  isExpired : ∀ now : Now, now.InStep → e.isExpired now.monotonic = v.isExpired now.wall

theorem sameExpiry_stamp {now : Now} (h : now.InStep) (payload : Bytes) (ttl : Option Duration) :
    SameExpiry (Memory.stamp now.monotonic payload ttl) (Embedded.stamp now.wall payload ttl) := by
  refine ⟨rfl, fun later hlater => ?_⟩
  rw [Bool.eq_iff_iff]
  cases ttl with
  | none => simp [Memory.stamp, Embedded.stamp, Memory.Entry.isExpired, Dated.isExpired,
      Embedded.isExpired, Embedded.expiry]
  | some ttl =>
    have hlast := hlater.notLast
    have hrange : 2 ^ 64 ≤ Instant.range := by decide
    have hdue : Embedded.dueFrom now.wall ttl ≤ later.wall.toNat
        ↔ now.wall.toNat + ttl.nanos ≤ later.wall.toNat := by
      have hstarted := hlater.started
      rw [Embedded.dueFrom]
      omega
    rw [Dated.isExpired, Embedded.stamp, Embedded.isExpired_expiry_iff, hdue]
    simp only [Memory.stamp, Option.bind_some, Instant.add?, Memory.Entry.isExpired, h.same,
      hlater.same]
    split
    · next heq =>
      split at heq
      · rw [← Option.some.inj heq, decide_eq_true_eq]
      · cases heq
    · next heq =>
      split at heq
      · cases heq
      · next hout =>
        -- beyond the range of the monotonic clock, and so beyond the last word
        have hbeyond : Instant.range ≤ now.wall.toNat + ttl.nanos := Nat.not_lt.1 hout
        constructor
        · intro hfalse
          cases hfalse
        · intro hle
          omega

/-! ### One call -/

/-- A store in memory and tables with the same contents. -/
structure Related (m : Memory.Store) (t : Embedded.Tables) (c : Contents Dated) : Prop where
  wellFormed : m.WellFormed
  represents : t.Represents c
  alike : Contents.Alike SameExpiry m.contents c

namespace Related

variable {m : Memory.Store} {t : Embedded.Tables} {c : Contents Dated}

theorem empty : Related .empty .empty .empty :=
  ⟨Memory.Store.wellFormed_empty, Embedded.Tables.Represents.empty, Contents.Alike.empty⟩

theorem get (h : Related m t c) {now : Now} (hnow : now.InStep) (key : String) :
    t.get now.wall key = .ok (m.get now.monotonic key) := by
  rw [h.represents.get, Memory.Store.get_eq]
  congr 1
  symm
  exact h.alike.payload (fun e v hv => hv.payload) (fun e v hv => hv.isExpired now hnow) key

/-- A set has the same ranking in memory and in its rows. -/
theorem ranking (h : Related m t c) {key : String} (hkey : NulFree key) :
    t.entries key = (m.setAt key).ranking := by
  refine Ranked.eq_of_mem_iff (t.entries_ascending key)
    (Memory.RankedSet.ranking_ascending _) fun r => ?_
  rw [h.represents.mem_entries (h.represents.alone hkey), h.wellFormed.mem_ranking, h.alike.score]

theorem range (h : Related m t c) {key : String} (hkey : NulFree key) (min max : Score) :
    t.range key min max = .ok (m.range key min max) := by
  rw [h.represents.range (h.represents.alone hkey), Memory.Store.range_eq, h.ranking hkey]

/-- As many values have expired on both sides. -/
theorem evict_count (h : Related m t c) {now : Now} (hnow : now.InStep) :
    (t.evict now.wall).2 = (m.evict now.monotonic).2 := by
  rw [Memory.Store.evict_count]
  refine h.represents.evict_count now.wall fun key => ?_
  have hkey := h.alike.value key
  simp only [OrderedMap.get?_filter, Option.filter_eq_some_iff]
  change Option.Rel SameExpiry (m.values.get? key) (c.value key) at hkey
  generalize m.values.get? key = e at hkey ⊢
  generalize c.value key = v at hkey ⊢
  cases hkey with
  | none => simp
  | some hsame => simp [hsame.isExpired now hnow]

/-- A call has the same answer on both sides, and leaves them related. -/
theorem answer (h : Related m t c) {now : Now} (hnow : now.InStep) (call : StoreCall)
    (hkeys : ∀ k ∈ call.keys, NulFree k) :
    (t.answer now.wall call).2 = .ok (m.answer now.monotonic call).2 ∧
      ∃ c', Related (m.answer now.monotonic call).1 (t.answer now.wall call).1 c' := by
  constructor
  · cases call with
    | get key =>
      simp only [Embedded.Tables.answer, Memory.Store.answer, h.get hnow]
      rfl
    | range key min max =>
      have hkey : NulFree key := hkeys key List.mem_cons_self
      simp only [Embedded.Tables.answer, Memory.Store.answer, h.range hkey]
      rfl
    | execute commands =>
      obtain ⟨t', hexecute, -⟩ := h.represents.execute now.wall fun command hc =>
        hkeys command.key (List.mem_map_of_mem hc)
      simp only [Embedded.Tables.answer, Memory.Store.answer, hexecute]
    | ping => rfl
    | evict =>
      simp only [Embedded.Tables.answer, Memory.Store.answer, h.evict_count hnow]
    | close => rfl
  · obtain ⟨hwell, hcontents⟩ := h.wellFormed.answer now.monotonic call
    refine ⟨_, hwell, h.represents.answer now.wall call hkeys, ?_⟩
    rw [hcontents]
    exact h.alike.after (sameExpiry_stamp hnow) (fun e v hv => hv.isExpired now hnow) call

/-! ### Runs of calls -/

theorem answers (h : Related m t c) (calls : List (Now × StoreCall))
    (hnow : ∀ entry ∈ calls, entry.1.InStep)
    (hkeys : ∀ entry ∈ calls, ∀ k ∈ entry.2.keys, NulFree k) :
    (Backend.embedded t).answers calls = (Backend.memory m).answers calls ∧
      ∀ a ∈ (Backend.embedded t).answers calls, ∃ answer, a = .ok answer := by
  induction calls generalizing m t c with
  | nil => exact ⟨rfl, fun a ha => nomatch ha⟩
  | cons entry calls ih =>
    obtain ⟨now, call⟩ := entry
    obtain ⟨hfirst, c', hrelated⟩ :=
      h.answer (hnow _ List.mem_cons_self) call (hkeys _ List.mem_cons_self)
    obtain ⟨hrest, hok⟩ := ih hrelated (fun e he => hnow e (List.mem_cons_of_mem _ he))
      (fun e he => hkeys e (List.mem_cons_of_mem _ he))
    constructor
    · simp only [Backend.answers, Backend.answer]
      rw [hfirst, hrest]
    · intro a ha
      rcases List.mem_cons.1 ha with rfl | ha
      · exact ⟨_, hfirst⟩
      · exact hok a ha

end Related

/-- While the clocks are in step and no key holds NUL, no run of calls tells an embedded store
    that starts empty from one in memory, and none of its answers is an error.  The commands that
    a caller may also give one at a time are batches of one. -/
theorem Backend.answers_embedded_eq_memory (calls : List (Now × StoreCall))
    (hnow : ∀ entry ∈ calls, entry.1.InStep)
    (hkeys : ∀ entry ∈ calls, ∀ k ∈ entry.2.keys, NulFree k) :
    (Backend.embedded .empty).answers calls = (Backend.memory .empty).answers calls ∧
      ∀ a ∈ (Backend.embedded .empty).answers calls, ∃ answer, a = .ok answer :=
  Related.empty.answers calls hnow hkeys

/-- A set is read from the top, and its key then taken by a value that expires. -/
theorem Backend.answers_replaced_set :
    let calls : List (Now × StoreCall) :=
      [(⟨5, 5⟩, .execute [.rank "jobs" "b" 7, .rank "jobs" "a" 7, .rank "jobs" "c" (-1)]),
        (⟨6, 6⟩, .range "jobs" 0 9), (⟨6, 6⟩, .execute [.set "jobs" [1] (some ⟨3, by decide⟩)]),
        (⟨8, 8⟩, .get "jobs"), (⟨9, 9⟩, .evict)]
    (Backend.embedded .empty).answers calls
      = [.ok .done, .ok (.members ["b", "a"]), .ok .done, .ok (.payload (some [1])),
        .ok (.evicted 1)] := by
  intro calls
  have hnow : ∀ entry ∈ calls, entry.1.InStep := by decide
  have hkeys : ∀ entry ∈ calls, ∀ k ∈ entry.2.keys, NulFree k := by decide
  rw [(Backend.answers_embedded_eq_memory calls hnow hkeys).1]
  decide

end JobResults
