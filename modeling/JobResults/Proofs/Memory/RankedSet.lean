import JobResults.Proofs.OrderedMap
import JobResults.Proofs.Ranking

/-!
  # The two forms of a ranked set

  A ranked set is exact when its rank order holds the pairs of its map and no others.  Every
  operation keeps it exact, and does to the map what its name says (`Exact.insert`,
  `Exact.erase`, `Exact.eraseRange`), so ranges may be read off the rank order
  (`mem_ranking`, `descending_eq`).
-/

namespace JobResults.Memory.RankedSet

/-- The rank order holds the pairs of the map and no others. -/
def Exact (s : RankedSet) : Prop :=
  ∀ r : Ranked, s.ordered.get? r = some () ↔ s.scores.get? r.member = some r.score

theorem exact_empty : empty.Exact := by
  intro r
  simp [empty]

/-! ### Reading the rank order -/

theorem ranking_ascending (s : RankedSet) : s.ranking.Pairwise (· < ·) :=
  List.pairwise_map.2 s.ordered.ascending

theorem mem_ranking {s : RankedSet} (h : s.Exact) (r : Ranked) :
    r ∈ s.ranking ↔ s.scores.get? r.member = some r.score := by
  rw [← h r, ranking, OrderedMap.mem_keys_iff]
  constructor
  · rintro ⟨⟨⟩, hr⟩
    exact hr
  · intro hr
    exact ⟨(), hr⟩

theorem ranking_of_isEmpty {s : RankedSet} (h : s.Exact) (hempty : s.isEmpty = true) :
    s.ranking = [] := by
  rw [List.eq_nil_iff_forall_not_mem]
  intro r hr
  rw [mem_ranking h, OrderedMap.isEmpty_iff.1 hempty] at hr
  cases hr

theorem slice_eq (s : RankedSet) (min max : Score) :
    s.slice min max = s.ranking.filter (Ranked.inRange min max) :=
  Ranked.ascending_search s.ranking_ascending min max

theorem descending_eq (s : RankedSet) (min max : Score) :
    s.descending min max
      = ((s.ranking.filter (Ranked.inRange min max)).reverse).map (·.member) := by
  rw [descending, Ranked.descending_search s.ranking_ascending]

/-! ### What a set is determined by -/

/-- An exact set is determined by the scores of its members. -/
theorem Exact.ext {s s' : RankedSet} (h : s.Exact) (h' : s'.Exact)
    (hscores : ∀ m, s.scores.get? m = s'.scores.get? m) : s = s' := by
  have hmap : s.scores = s'.scores := OrderedMap.ext_get? hscores
  have hordered : s.ordered = s'.ordered := by
    apply OrderedMap.ext_get?
    intro r
    apply Option.ext
    rintro ⟨⟩
    rw [h r, h' r, hscores]
  cases s
  cases s'
  simp_all

/-- The map and the rank order of an exact set list the same pairs. -/
theorem Exact.perm_ranking {s : RankedSet} (h : s.Exact) :
    (s.scores.toList.map fun e => (⟨e.2, e.1⟩ : Ranked)).Perm s.ranking := by
  have hranking : s.ranking.Nodup := s.ordered.nodup_keys
  refine (List.perm_ext_iff_of_nodup ?_ hranking).2 ?_
  · refine List.Nodup.of_map Ranked.member ?_
    rw [List.map_map]
    exact s.scores.nodup_keys
  · intro r
    rw [mem_ranking h, OrderedMap.get?_eq_some_iff, List.mem_map]
    constructor
    · rintro ⟨e, he, rfl⟩
      exact he
    · intro hr
      exact ⟨_, hr, rfl⟩

/-- An exact set ranks no member twice. -/
theorem Exact.nodup_members {s : RankedSet} (h : s.Exact) : (s.ranking.map (·.member)).Nodup := by
  have hmembers := h.perm_ranking.map Ranked.member
  rw [List.map_map] at hmembers
  exact hmembers.nodup_iff.1 s.scores.nodup_keys

/-! ### Single members -/

/-- A member that is not ranked, or ranked elsewhere, is not found in the rank order. -/
theorem Exact.ordered_eq_none {s : RankedSet} (h : s.Exact) {r : Ranked}
    (hr : s.scores.get? r.member ≠ some r.score) : s.ordered.get? r = none := by
  rw [Option.eq_none_iff_forall_ne_some]
  rintro ⟨⟩ hin
  exact hr ((h r).1 hin)

/-- The rank order has one pair of an inserted member, the new one. -/
theorem Exact.ordered_insert {s : RankedSet} (h : s.Exact) (member : String) (score : Score)
    (r : Ranked) :
    (s.insert member score).ordered.get? r
      = if r = ⟨score, member⟩ then some ()
        else if r.member = member then none else s.ordered.get? r := by
  simp only [RankedSet.insert, OrderedMap.get?_insert]
  split
  · rfl
  · cases hscore : s.scores.get? member with
    | none =>
      dsimp only
      split
      · next hm =>
        refine h.ordered_eq_none ?_
        rw [hm, hscore]
        intro heq
        cases heq
      · rfl
    | some old =>
      simp only [OrderedMap.get?_erase]
      split
      · next hr => simp [hr]
      · next hr =>
        split
        · next hm =>
          refine h.ordered_eq_none ?_
          rw [hm, hscore]
          intro heq
          exact hr (by rw [Option.some.inj heq, ← hm])
        · rfl

theorem Exact.insert {s : RankedSet} (h : s.Exact) (member : String) (score : Score) :
    (s.insert member score).Exact := by
  intro r
  have hscores : (s.insert member score).scores = s.scores.insert member score := rfl
  rw [h.ordered_insert, hscores, OrderedMap.get?_insert]
  obtain ⟨score', member'⟩ := r
  by_cases hm : member' = member
  · subst hm
    by_cases hs : score' = score
    · simp [hs]
    · simp [hs, Ne.symm hs]
  · simp only [Ranked.mk.injEq, hm, and_false, if_false]
    exact h ⟨score', member'⟩

theorem get?_erase (s : RankedSet) (member m : String) :
    (s.erase member).scores.get? m = if m = member then none else s.scores.get? m := by
  rw [erase]
  split
  · exact OrderedMap.get?_erase _ _ _
  · next hnone =>
    split
    · next heq => rw [heq, hnone]
    · rfl

theorem Exact.erase {s : RankedSet} (h : s.Exact) (member : String) : (s.erase member).Exact := by
  intro r
  rw [get?_erase]
  rw [RankedSet.erase]
  cases hscore : s.scores.get? member with
  | none =>
    simp only [h r]
    split
    · next heq => rw [heq, hscore]
    · rfl
  | some score =>
    simp only [OrderedMap.get?_erase]
    by_cases hr : r = ⟨score, member⟩
    · subst hr
      simp
    · rw [if_neg hr, h r]
      split
      · next heq =>
        have hne : ¬ s.scores.get? r.member = some r.score := by
          rw [heq, hscore]
          intro hsame
          exact hr (by rw [Option.some.inj hsame, ← heq])
        simp [hne]
      · rfl

/-! ### Ranges -/

theorem get?_foldl_erase (doomed : List Ranked) (s : RankedSet) (m : String) (r : Ranked) :
    let s' := doomed.foldl (fun s r => ⟨s.scores.erase r.member, s.ordered.erase r⟩) s
    s'.scores.get? m = (if m ∈ doomed.map (·.member) then none else s.scores.get? m) ∧
      s'.ordered.get? r = if r ∈ doomed then none else s.ordered.get? r := by
  induction doomed generalizing s with
  | nil => simp
  | cons d doomed ih =>
    obtain ⟨hscores, hordered⟩ := ih ⟨s.scores.erase d.member, s.ordered.erase d⟩
    simp only [List.foldl_cons, hscores, hordered, OrderedMap.get?_erase, List.map_cons,
      List.mem_cons]
    constructor
    · by_cases hd : m = d.member <;> by_cases hin : m ∈ doomed.map (·.member) <;> simp [hd, hin]
    · by_cases hd : r = d <;> by_cases hin : r ∈ doomed <;> simp [hd, hin]

theorem within_eq_false {min max : Score} (h : min > max) (s : Score) :
    Score.within min max s = false := by
  rw [Bool.eq_false_iff]
  intro hin
  simp only [Score.within, Bool.and_eq_true, decide_eq_true_eq] at hin
  exact Int64.lt_irrefl (Int64.lt_of_lt_of_le h (Int64.le_trans hin.1 hin.2))

theorem mem_slice {s : RankedSet} (h : s.Exact) (min max : Score) (r : Ranked) :
    r ∈ s.slice min max ↔
      s.scores.get? r.member = some r.score ∧ Score.within min max r.score = true := by
  rw [slice_eq, List.mem_filter, mem_ranking h]
  rfl

/-- Exactly the members with a score in range go. -/
theorem Exact.get?_eraseRange {s : RankedSet} (h : s.Exact) (min max : Score) (m : String) :
    (s.eraseRange min max).scores.get? m
      = (s.scores.get? m).filter fun score => !Score.within min max score := by
  rw [RankedSet.eraseRange]
  split
  · next hempty =>
    simp only [within_eq_false hempty, Bool.not_false]
    cases s.scores.get? m <;> rfl
  · rw [(get?_foldl_erase _ s m ⟨0, m⟩).1]
    cases hm : s.scores.get? m with
    | none => split <;> rfl
    | some score =>
      have hmem : m ∈ (s.slice min max).map (·.member) ↔ Score.within min max score = true := by
        rw [List.mem_map]
        constructor
        · rintro ⟨r, hr, rfl⟩
          obtain ⟨hscore, hin⟩ := (mem_slice h min max r).1 hr
          rw [hm] at hscore
          exact Option.some.inj hscore ▸ hin
        · intro hin
          exact ⟨⟨score, m⟩, (mem_slice h min max _).2 ⟨hm, hin⟩, rfl⟩
      by_cases hin : Score.within min max score = true
      · rw [if_pos (hmem.2 hin)]
        simp [Option.filter, hin]
      · rw [if_neg fun h' => hin (hmem.1 h')]
        simp [Option.filter, hin]

theorem Exact.eraseRange {s : RankedSet} (h : s.Exact) (min max : Score) :
    (s.eraseRange min max).Exact := by
  intro r
  rw [h.get?_eraseRange, Option.filter_eq_some_iff, ← h r]
  rw [RankedSet.eraseRange]
  split
  · next hempty => simp [within_eq_false hempty]
  · rw [(get?_foldl_erase _ s r.member r).2]
    have hr := mem_slice h min max r
    rw [← h r] at hr
    by_cases hin : r ∈ s.slice min max
    · rw [if_pos hin]
      simp [(hr.1 hin).2]
    · rw [if_neg hin]
      constructor
      · intro hrank
        refine ⟨hrank, ?_⟩
        cases hw : Score.within min max r.score with
        | false => rfl
        | true => exact absurd (hr.2 ⟨hrank, hw⟩) hin
      · exact fun hrank => hrank.1

theorem Exact.ranking_eraseRange {s : RankedSet} (h : s.Exact) (min max : Score) :
    (s.eraseRange min max).ranking = s.ranking.filter fun r => !Score.within min max r.score := by
  refine Ranked.eq_of_mem_iff (ranking_ascending _) (s.ranking_ascending.filter _) ?_
  intro r
  rw [mem_ranking (h.eraseRange min max), h.get?_eraseRange, Option.filter_eq_some_iff,
    List.mem_filter, mem_ranking h]

end JobResults.Memory.RankedSet
