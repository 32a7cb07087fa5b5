import JobResults.Proofs.Embedded.Locality

/-!
  # Trimming a set

  What removing a range of scores does to the rows of a set, in tables whose rows may hold anything.
  A removal that succeeds has read all entries of the set (`scanSet_eq_ok`) and brings the first
  entry of every member into view (`only_trim`).  So it writes no values (`values_trim`), and if no
  member has two entries it leaves exactly the entries out of range (`entries_trim`).
-/

namespace JobResults.Embedded

open Memory (Ranked)

/-- A reader that accepts every item of a list has read what it reads of each. -/
theorem eq_filterMap_of_mapM {α β ε : Type} {read : α → Except ε β} {l : List α} {found : List β}
    (h : l.mapM read = .ok found) : found = l.filterMap fun a => (read a).toOption := by
  induction l generalizing found with
  | nil =>
    cases h
    rfl
  | cons a l ih =>
    rw [List.mapM_cons] at h
    cases hread : read a with
    | error e => simp [hread, bind, Except.bind] at h
    | ok b =>
      cases hrest : l.mapM read with
      | error e => simp [hread, hrest, bind, Except.bind] at h
      | ok rest =>
        simp only [hread, hrest, bind, Except.bind, pure, Except.pure, Except.ok.injEq] at h
        rw [← h, ih hrest, List.filterMap_cons, hread]
        rfl

namespace Tables

/-- A scan that succeeds has found all entries. -/
theorem scanSet_eq_ok {t : Tables} {key : String} {found : List (Score × String)}
    (h : t.scanSet key = .ok found) : found = (t.entries key).map fun r => (r.score, r.member) := by
  rw [entries, List.map_filterMap, eq_filterMap_of_mapM h]
  apply List.filterMap_congr
  intro row _
  cases decodeScoreKey? key row.1 <;> rfl

end Tables

/-! ### The view of a removal -/

/-- A view on one set, with the given states of its members, and on nothing else. -/
structure Staged.Only (key : String) (states : String → Option MemberState) (s : Staged) :
    Prop where
  values : s.values = .empty
  sets : ∀ k m, (s.set k).get? m = if k = key then states m else none

/-- What the entry of a member is to become when a range goes. -/
def trimState (min max : Score) (r : Ranked) : MemberState :=
  ⟨some r.score, (some r.score).filter fun score => !Score.within min max score⟩

section

variable {t t' : Tables} {key : String} {min max : Score} {s : Staged}

/-- A set that is loaded first comes into view with the first entry of every member. -/
theorem only_load (h : Staged.empty.load t key = .ok s) :
    s.Only key fun m =>
      ((t.entries key).find? (·.member = m)).map fun r => ⟨some r.score, some r.score⟩ := by
  have hnone : Staged.empty.loaded.contains key = false := rfl
  rw [Staged.load, hnone] at h
  obtain ⟨found, hscan, rfl⟩ := exists_of_map_eq_ok h
  obtain rfl := Tables.scanSet_eq_ok hscan
  refine ⟨rfl, ?_⟩
  intro k m
  have hempty : (Staged.empty.set key).get? m = none := rfl
  rw [Staged.set_insert]
  split
  · rw [Staged.get?_foldl_load, hempty, List.find?_map, Option.map_map]
    rfl
  · rfl

theorem only_trim {now : UInt64}
    (h : Staged.empty.applyAll t now [.unrankRange key min max] = .ok s) :
    s.Only key fun m => ((t.entries key).find? (·.member = m)).map (trimState min max) := by
  have hdrop : Staged.empty.dropPending t key (Score.within min max) = .ok s := by
    simpa [Staged.applyAll, Staged.apply] using h
  obtain ⟨loaded, hload, rfl⟩ := exists_of_map_eq_ok hdrop
  have hview := only_load hload
  refine ⟨hview.values, ?_⟩
  intro k m
  rw [Staged.set_insert]
  split
  · rw [OrderedMap.get?_mapValues, hview.sets, if_pos rfl, Option.map_map]
    rfl
  · next hk => rw [hview.sets, if_neg hk]

/-! ### The rows that a removal writes -/

theorem Staged.Only.mem_writes_iff {states : String → Option MemberState}
    (h : s.Only key states) {w : RowWrite} :
    w ∈ s.writes ↔ ∃ m state, states m = some state ∧ w ∈ memberWrites key m state := by
  rw [Staged.mem_writes_iff]
  constructor
  · rintro (⟨k, row, hrow, -⟩ | ⟨k, m, state, hm, hw⟩)
    · rw [h.values] at hrow
      cases hrow
    · rw [h.sets] at hm
      split at hm
      · next hk => exact ⟨m, state, hm, hk ▸ hw⟩
      · cases hm
  · rintro ⟨m, state, hm, hw⟩
    exact .inr ⟨key, m, state, by rw [h.sets, if_pos rfl, hm], hw⟩

/-- Of the rows in `scores`, only the one of the entry itself is written for it. -/
theorem key_of_mem_trimState {m : String} {r : Ranked} {w : RowWrite}
    (hw : w ∈ Staged.memberWrites key m (trimState min max r)) (hname : w.table = .scores) :
    w.key = scoreKey key r.score m := by
  rcases Staged.mem_memberWrites_iff.1 hw with
    ⟨old, hstored, -, rfl⟩ | ⟨score, hpending, rfl | rfl⟩ | ⟨-, -, rfl⟩
  · rw [← Option.some.inj hstored]
  · simp only [trimState] at hpending
    rw [Option.some.inj (Option.eq_some_of_filter_eq_some hpending)]
  · cases hname
  · cases hname

/-- Where no member occurs twice, the entry of a member is the first one. -/
theorem find?_of_nodup {l : List Ranked} (h : (l.map (·.member)).Nodup) {r : Ranked} (hr : r ∈ l) :
    l.find? (·.member = r.member) = some r := by
  cases hfind : l.find? (·.member = r.member) with
  | none =>
    have hnot := List.find?_eq_none.1 hfind r hr
    simp at hnot
  | some r' =>
    have hmember : r'.member = r.member := by simpa using List.find?_some hfind
    rw [List.inj_on_of_nodup_map h (List.mem_of_find?_eq_some hfind) hr hmember]

namespace Tables

/-- A removal that succeeds has been staged. -/
theorem view_of_trim {now : UInt64} (h : t.execute now [.unrankRange key min max] = .ok t') :
    ∃ s : Staged, t' = t.writeAll s.writes ∧
      s.Only key fun m => ((t.entries key).find? (·.member = m)).map (trimState min max) := by
  obtain ⟨s, hstaged, rfl⟩ := exists_of_map_eq_ok h
  exact ⟨s, rfl, only_trim hstaged⟩

/-- A removal leaves all values alone. -/
theorem values_trim {now : UInt64} (h : t.execute now [.unrankRange key min max] = .ok t') :
    t'.values = t.values := by
  obtain ⟨s, rfl, hview⟩ := view_of_trim h
  apply OrderedMap.ext_get?
  intro b
  have hunwritten : (TableName.values, b) ∉ s.writes.map RowWrite.address := by
    intro hmem
    obtain ⟨w, hw, heq⟩ := List.mem_map.1 hmem
    obtain ⟨m, state, -, hw⟩ := hview.mem_writes_iff.1 hw
    rcases Staged.address_of_mem_memberWrites (List.mem_map_of_mem hw) with
      ⟨score, hplace⟩ | hplace
    · cases (Prod.mk.inj (heq.symm.trans hplace)).1
    · cases (Prod.mk.inj (heq.symm.trans hplace)).1
  exact t.get?_writeAll_of_not_mem hunwritten

section

variable {now : UInt64} (hkey : NulFree key)
  (h : t.execute now [.unrankRange key min max] = .ok t') {r : Ranked}

include hkey h

/-- The row of an entry goes with the range, or is written again. -/
theorem row_trim_of_mem (hnodup : ((t.entries key).map (·.member)).Nodup) (hr : r ∈ t.entries key) :
    t'.scores.get? (scoreKey key r.score r.member)
      = if Score.within min max r.score then none else some [] := by
  obtain ⟨s, rfl, hview⟩ := view_of_trim h
  have hnamed : ∀ k m state, (s.set k).get? m = some state → NulFree k := by
    intro k m state hm
    rw [hview.sets] at hm
    split at hm
    · next hk => exact hk ▸ hkey
    · cases hm
  have hstate : ((t.entries key).find? (·.member = r.member)).map (trimState min max)
      = some (trimState min max r) := by rw [find?_of_nodup hnodup hr, Option.map_some]
  have hwritten : ∀ {w}, w ∈ Staged.memberWrites key r.member (trimState min max r) →
      ((t.writeAll s.writes).table w.table).get? w.key = w.content := fun hw =>
    t.get?_writeAll_of_mem (Staged.nodup_addresses hnamed)
      (hview.mem_writes_iff.2 ⟨r.member, _, hstate, hw⟩)
  -- the row of an outdated score is removed, that of a score to be is written
  by_cases hin : Score.within min max r.score = true
  · rw [if_pos hin]
    exact hwritten (Staged.mem_memberWrites_iff.2
      (.inl ⟨r.score, rfl, by simp [trimState, hin], rfl⟩))
  · rw [if_neg hin]
    exact hwritten (Staged.mem_memberWrites_iff.2
      (.inr (.inl ⟨r.score, by simp [trimState, hin], .inl rfl⟩)))

/-- The row that an entry would have is not written if there is no such entry. -/
theorem row_trim_of_not_mem (hr : r ∉ t.entries key) :
    t'.scores.get? (scoreKey key r.score r.member)
      = t.scores.get? (scoreKey key r.score r.member) := by
  obtain ⟨s, rfl, hview⟩ := view_of_trim h
  have hunwritten : (TableName.scores, scoreKey key r.score r.member)
      ∉ s.writes.map RowWrite.address := by
    intro hmem
    obtain ⟨w, hw, heq⟩ := List.mem_map.1 hmem
    obtain ⟨m, state, hm, hw⟩ := hview.mem_writes_iff.1 hw
    obtain ⟨⟨score, m'⟩, hfind, rfl⟩ := Option.map_eq_some_iff.1 hm
    obtain rfl : m' = m := by simpa using List.find?_some hfind
    obtain ⟨hname, hplace⟩ := Prod.mk.inj heq
    rw [key_of_mem_trimState hw hname] at hplace
    obtain ⟨-, hscore, hmember⟩ := scoreKey_inj hkey hkey hplace
    have hentry : (⟨score, m'⟩ : Ranked) = r := by rw [show score = r.score from hscore, hmember]
    exact hr (hentry ▸ List.mem_of_find?_eq_some hfind)
  exact t.get?_writeAll_of_not_mem hunwritten

/-- A removal from a set in which no member has two entries leaves the entries out of range. -/
theorem entries_trim (hnodup : ((t.entries key).map (·.member)).Nodup) :
    t'.entries key = (t.entries key).filter fun r => !Score.within min max r.score := by
  refine Ranked.eq_of_mem_iff (entries_ascending _ key) ((entries_ascending t key).filter _) ?_
  intro r
  rw [List.mem_filter, mem_entries_iff]
  by_cases hr : r ∈ t.entries key
  · rw [row_trim_of_mem hkey h hnodup hr]
    by_cases hin : Score.within min max r.score = true
    · simp [hin]
    · simp [hr, hin]
  · rw [row_trim_of_not_mem hkey h hr, ← mem_entries_iff]
    simp [hr]

end

end Tables

end

end JobResults.Embedded
