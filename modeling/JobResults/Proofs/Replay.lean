import JobResults.Backend
import JobResults.Proofs.Embedded.Reachable
import JobResults.Proofs.Memory.History
import JobResults.Proofs.Revision

/-!
  # Batches that are sent again

  On contents a batch that is run twice does what it does once (`Contents.applyAll_applyAll`), and
  contents determine both a well-formed store in memory and the rows of the embedded store.  So a
  batch may be sent again when it is not known whether it arrived
  (`Backend.Reachable.execute_again`).
-/

namespace JobResults

open Embedded (NulFree Tables)

/-! ### Each store -/

theorem Memory.Store.WellFormed.execute_execute {s : Memory.Store} (h : s.WellFormed)
    (now : Instant) (commands : List Command) :
    (s.execute now commands).execute now commands = s.execute now commands := by
  obtain ⟨hwell, hcontents⟩ := h.execute now commands
  obtain ⟨hwell', hcontents'⟩ := hwell.execute now commands
  refine hwell'.ext hwell ?_
  rw [hcontents', hcontents, Contents.applyAll_applyAll]

theorem Embedded.Tables.Represents.execute_execute {t : Tables} {c : Contents Embedded.Dated}
    (h : t.Represents c) (now : UInt64) {commands : List Command}
    (hkeys : ∀ command ∈ commands, NulFree command.key) :
    ∃ t', t.execute now commands = .ok t' ∧ t'.execute now commands = .ok t' := by
  obtain ⟨t', hfirst, ht'⟩ := h.execute now hkeys
  obtain ⟨t'', hsecond, ht''⟩ := ht'.execute now hkeys
  rw [Contents.applyAll_applyAll] at ht''
  obtain rfl := ht''.unique ht'
  exact ⟨t'', hfirst, hsecond⟩

/-! ### Both stores -/

namespace Backend

/-- The backends that come up from empty ones: in memory by any calls, embedded by calls whose keys
    hold no NUL. -/
inductive Reachable : Backend → Prop where
  | memory (calls : List (Instant × StoreCall)) : Reachable (memory (Memory.Store.empty.run calls))
  | embedded {t : Tables} (h : t.Reachable) : Reachable (embedded t)

/-- The keys for which a backend is made. -/
def Admits : Backend → String → Prop
  | memory _, _ => True
  | embedded _, key => NulFree key

/-- To run a batch again at the same instant succeeds and changes nothing, on either backend and
    whatever the batch does to which keys in which order. -/
theorem Reachable.execute_again {b : Backend} (h : b.Reachable) (now : Now)
    (commands : List Command) (hkeys : ∀ c ∈ commands, b.Admits c.key) :
    let once := b.answer now (.execute commands)
    once.2 = .ok .done ∧ once.1.answer now (.execute commands) = once := by
  intro once
  cases h with
  | memory calls =>
    have hwell := (Memory.Store.Recorded.empty.run calls).wellFormed
    refine ⟨rfl, ?_⟩
    simp only [once, answer, Memory.Store.answer, hwell.execute_execute]
  | embedded h =>
    obtain ⟨c, hc⟩ := h.represents
    obtain ⟨t', hfirst, hsecond⟩ := hc.execute_execute now.wall hkeys
    simp only [once, answer, Tables.answer, hfirst, hsecond, and_self]

/-- A set loses a range and gets members back, and the key of a value turns into a set and into a
    value again. -/
theorem execute_again_retyped :
    let batch : List Command :=
      [.unrankRange "jobs" 0 6, .rank "jobs" "a" 4, .set "jobs" [1] none, .rank "jobs" "b" 9,
        .rank "jobs" "c" 3, .unrankRange "jobs" 0 5, .rank "note" "m" 1,
        .set "note" [2] (some ⟨3, by decide⟩), .unrank "jobs" "a"]
    let s : Memory.Store := .run .empty [(4, .execute [.rank "jobs" "a" 5, .set "note" [] none])]
    let t := (Tables.empty.answer 4 (.execute [.rank "jobs" "a" 5, .set "note" [] none])).1
    ((memory s).answer ⟨7, 7⟩ (.execute batch)).1.answer ⟨7, 7⟩ (.execute batch)
        = (memory s).answer ⟨7, 7⟩ (.execute batch) ∧
      ((embedded t).answer ⟨7, 7⟩ (.execute batch)).1.answer ⟨7, 7⟩ (.execute batch)
        = (embedded t).answer ⟨7, 7⟩ (.execute batch) := by
  intro batch s t
  have ht : t.Reachable := .call 4 _ (by decide) .empty
  have hkeys : ∀ c ∈ batch, NulFree c.key := by decide
  constructor
  · exact (Reachable.execute_again (.memory _) ⟨7, 7⟩ batch fun _ _ => trivial).2
  · exact (Reachable.execute_again (.embedded ht) ⟨7, 7⟩ batch hkeys).2

end Backend

end JobResults
