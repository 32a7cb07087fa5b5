import JobResults.Disk
import JobResults.Proofs.Embedded.Commit

/-!
  # Tables that come up

  From an empty store, tables come up by calls whose keys hold no NUL and by reopening the store
  from its disk.  All of them represent contents (`Reachable.represents`), and from that follow:

    * the tables agree with one another (`Consistent`): no row is malformed or orphaned, every
      member has one score, and no key has a value and a set;
    * cutting a batch in two changes nothing, so a batch leaves the rows that its commands would
      leave one by one.
-/

namespace JobResults

def StoreCall.keys : StoreCall → List String
  | .get key => [key]
  | .range key _ _ => [key]
  | .execute commands => commands.map Command.key
  | .ping => []
  | .evict => []
  | .close => []

namespace Embedded

open Bytes (ofString)

/-! ### One call -/

theorem Tables.Represents.answer {t : Tables} {c : Contents Dated} (h : t.Represents c)
    (now : UInt64) (call : StoreCall) (hkeys : ∀ k ∈ call.keys, NulFree k) :
    (t.answer now call).1.Represents (c.after (stamp now) (Dated.isExpired now) call) := by
  cases call with
  | get key => exact h
  | range key min max => exact h
  | execute commands =>
    obtain ⟨t', hexecute, ht'⟩ := h.execute now fun command hc =>
      hkeys command.key (List.mem_map_of_mem hc)
    simp only [Tables.answer, hexecute]
    exact ht'
  | ping => exact h
  | evict => exact h.evict now
  | close => exact h

/-! ### Whole runs -/

/-- A store that is kept on the disk comes back as it was. -/
theorem openStore_keep {d : Disk} {path : String} {t t' : Tables}
    (h : (d.keep path t).openStore path = .ok t') : t' = t := by
  rw [Disk.openStore] at h
  split at h
  · cases h
  · cases h
  · have htables : (d.keep path t).tables path = some t := by
      simp [Disk.tables, Disk.keep]
    rw [htables] at h
    exact (Except.ok.inj h).symm

namespace Tables

/-- The tables that come up, from empty ones, by calls and by reopening the store. -/
inductive Reachable : Tables → Prop where
  | empty : Reachable Tables.empty
  | call {t : Tables} (now : UInt64) (call : StoreCall) (hkeys : ∀ k ∈ call.keys, NulFree k) :
      Reachable t → Reachable (t.answer now call).1
  | reopen {t t' : Tables} (d : Disk) (path : String) :
      Reachable t → (d.keep path t).openStore path = .ok t' → Reachable t'

theorem Reachable.represents {t : Tables} (h : t.Reachable) : ∃ c, t.Represents c := by
  induction h with
  | empty => exact ⟨Contents.empty, Represents.empty⟩
  | call now call hkeys _ ih =>
    obtain ⟨c, hc⟩ := ih
    exact ⟨_, hc.answer now call hkeys⟩
  | reopen d path _ hopen ih =>
    obtain ⟨c, hc⟩ := ih
    exact ⟨c, openStore_keep hopen ▸ hc⟩

/-! ### Agreement of the tables -/

/-- What holds between the rows of the three tables.  Sets are named by keys without NUL: the
    rows that a longer name with NUL would have belong to the set before the NUL. -/
structure Consistent (t : Tables) : Prop where
  /-- Every row of `values` can be decoded. -/
  decodes : ∀ b row, t.values.get? b = some row → ∃ v, decodeValue? row = some v
  /-- A member has a row with a score in `scores` exactly if `members` gives it this score. -/
  paired : ∀ k m s, NulFree k →
    ((∃ row, t.scores.get? (scoreKey k s m) = some row) ↔
      t.members.get? (memberKey k m) = some (encodeScore s))
  /-- `scores` has no other rows, -/
  scoreRows : ∀ b row, t.scores.get? b = some row →
    row = [] ∧ ∃ k m s, NulFree k ∧ b = scoreKey k s m
  /-- and neither has `members`. -/
  memberRows : ∀ b row, t.members.get? b = some row →
    ∃ k m s, NulFree k ∧ b = memberKey k m ∧ row = encodeScore s
  /-- A member has one score. -/
  single : ∀ k m s s' row row', NulFree k → t.scores.get? (scoreKey k s m) = some row →
    t.scores.get? (scoreKey k s' m) = some row' → s = s'
  /-- A key with a value has no set. -/
  exclusive : ∀ k row, t.values.get? (ofString k) = some row → ∀ rest,
    t.scores.get? (setStart k ++ rest) = none ∧ t.members.get? (setStart k ++ rest) = none

namespace Represents

variable {t : Tables} {c : Contents Dated}

theorem scoreRow_iff (h : t.Represents c) {k : String} (hk : NulFree k) (m : String) (s : Score) :
    (∃ row, t.scores.get? (scoreKey k s m) = some row) ↔ c.score k m = some s := by
  rw [h.get?_score hk]
  split <;> simp_all

theorem memberRow_iff (h : t.Represents c) {k : String} (hk : NulFree k) (m : String) (s : Score) :
    t.members.get? (memberKey k m) = some (encodeScore s) ↔ c.score k m = some s := by
  rw [h.get?_member hk, Option.map_eq_some_iff]
  constructor
  · rintro ⟨s', hs', hrow⟩
    exact encodeScore_inj hrow ▸ hs'
  · intro hs
    exact ⟨s, hs, rfl⟩

/-- Where there is a value there is no row of a set. -/
theorem no_set_rows (h : t.Represents c) {k : String} {row : Bytes}
    (hrow : t.values.get? (ofString k) = some row) (rest : Bytes) :
    t.scores.get? (setStart k ++ rest) = none ∧ t.members.get? (setStart k ++ rest) = none := by
  rw [h.get?_value, Option.map_eq_some_iff] at hrow
  obtain ⟨v, hv, -⟩ := hrow
  have hk := h.namedValue hv
  constructor <;> rw [Option.eq_none_iff_forall_ne_some] <;> intro content hcontent
  · obtain ⟨j, m, s, hs, hkey, -⟩ := (h.scores _ _).1 hcontent
    rw [scoreKey_eq] at hkey
    obtain ⟨rfl, -⟩ := setStart_append_inj hk (h.named hs) hkey
    exact h.exclusive k v m s hv hs
  · obtain ⟨j, m, s, hs, hkey, -⟩ := (h.members _ _).1 hcontent
    obtain ⟨rfl, -⟩ := setStart_append_inj hk (h.named hs) hkey
    exact h.exclusive k v m s hv hs

theorem consistent (h : t.Represents c) : t.Consistent where
  decodes b row hrow := by
    obtain ⟨k, v, -, -, rfl⟩ := (h.values b row).1 hrow
    exact ⟨v, decodeValue?_encodeValue v.1 v.2⟩
  paired k m s hk := (h.scoreRow_iff hk m s).trans (h.memberRow_iff hk m s).symm
  scoreRows b row hrow := by
    obtain ⟨k, m, s, hs, rfl, rfl⟩ := (h.scores b row).1 hrow
    exact ⟨rfl, k, m, s, h.named hs, rfl⟩
  memberRows b row hrow := by
    obtain ⟨k, m, s, hs, rfl, rfl⟩ := (h.members b row).1 hrow
    exact ⟨k, m, s, h.named hs, rfl, rfl⟩
  single k m s s' row row' hk hrow hrow' := by
    have hs := (h.scoreRow_iff hk m s).1 ⟨row, hrow⟩
    have hs' := (h.scoreRow_iff hk m s').1 ⟨row', hrow'⟩
    exact Option.some.inj (hs.symm.trans hs')
  exclusive k row hrow rest := h.no_set_rows hrow rest

end Represents

/-- In all tables that come up no row is malformed or orphaned, every member has one score, and no
    key has a value and a set. -/
theorem Reachable.rows_consistent {t : Tables} (h : t.Reachable) : t.Consistent := by
  obtain ⟨c, hc⟩ := h.represents
  exact hc.consistent

/-- A member that moves within one batch leaves no row behind. -/
theorem rows_consistent_moved_member :
    let t := (Tables.empty.answer 7
      (.execute [.rank "index" "a" 5, .rank "index" "a" 9, .set "job" [1] none])).1
    t.Consistent ∧ t.scores.get? (scoreKey "index" 5 "a") = none := by
  intro t
  have hreach : t.Reachable := .call 7 _ (by decide) .empty
  exact ⟨Reachable.rows_consistent hreach, by decide⟩

/-! ### Batches cut in two -/

/-- One command after the other, each as a batch of its own. -/
def executeEach (t : Tables) (now : UInt64) (commands : List Command) : Except StoreError Tables :=
  commands.foldlM (fun t command => t.execute now [command]) t

theorem Represents.executeEach {t : Tables} {c : Contents Dated} (h : t.Represents c)
    (now : UInt64) {commands : List Command} (hkeys : ∀ command ∈ commands, NulFree command.key) :
    ∃ t', t.executeEach now commands = .ok t' ∧
      t'.Represents (c.applyAll (stamp now) commands) := by
  induction commands generalizing t c with
  | nil => exact ⟨t, rfl, h⟩
  | cons command commands ih =>
    have hkey : ∀ d ∈ [command], NulFree d.key := by
      intro d hd
      obtain rfl := List.mem_singleton.1 hd
      exact hkeys d List.mem_cons_self
    obtain ⟨t₁, hfirst, ht₁⟩ := h.execute now hkey
    obtain ⟨t₂, hrest, ht₂⟩ := ih ht₁ fun d hd => hkeys d (List.mem_cons_of_mem _ hd)
    refine ⟨t₂, ?_, ht₂⟩
    rw [Tables.executeEach, List.foldlM_cons, hfirst]
    exact hrest

/-- A batch succeeds and leaves the rows that its two parts leave as two batches, and those that
    its commands leave one by one. -/
theorem Reachable.execute_append {t : Tables} (h : t.Reachable) (now : UInt64)
    (xs ys : List Command) (hxs : ∀ command ∈ xs, NulFree command.key)
    (hys : ∀ command ∈ ys, NulFree command.key) :
    ∃ t₁ t₂, t.execute now xs = .ok t₁ ∧ t₁.execute now ys = .ok t₂ ∧
      t.execute now (xs ++ ys) = .ok t₂ ∧ t.executeEach now (xs ++ ys) = .ok t₂ := by
  obtain ⟨c, hc⟩ := h.represents
  have hboth : ∀ command ∈ xs ++ ys, NulFree command.key := by
    intro command hcommand
    rcases List.mem_append.1 hcommand with hx | hy
    · exact hxs command hx
    · exact hys command hy
  obtain ⟨t₁, hfirst, ht₁⟩ := hc.execute now hxs
  obtain ⟨t₂, hsecond, ht₂⟩ := ht₁.execute now hys
  obtain ⟨t', hwhole, ht'⟩ := hc.execute now hboth
  obtain ⟨t'', heach, ht''⟩ := hc.executeEach now hboth
  -- all ways end in tables that represent the same contents
  rw [Contents.applyAll_append] at ht' ht''
  obtain rfl := ht'.unique ht₂
  obtain rfl := ht''.unique ht₂
  exact ⟨t₁, t'', hfirst, hsecond, hwhole, heach⟩

/-- The cut falls between taking a member out and removing the range that it comes back to. -/
theorem execute_append_range :
    let t := (Tables.empty.answer 7 (.execute [.rank "index" "a" 5])).1
    let xs : List Command := [.unrank "index" "a", .rank "index" "a" 6, .rank "index" "b" 8]
    let ys : List Command := [.unrankRange "index" 6 7, .rank "index" "a" 5]
    ∃ t₁ t₂, t.execute 7 xs = .ok t₁ ∧ t₁.execute 7 ys = .ok t₂ ∧
      t.execute 7 (xs ++ ys) = .ok t₂ ∧ t.executeEach 7 (xs ++ ys) = .ok t₂ := by
  intro t xs ys
  have hreach : t.Reachable := .call 7 _ (by decide) .empty
  exact Reachable.execute_append hreach 7 xs ys (by decide) (by decide)

end Tables

end Embedded

end JobResults
