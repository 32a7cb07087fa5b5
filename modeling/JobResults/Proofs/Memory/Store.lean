import JobResults.Memory.Store
import JobResults.Proofs.Contents
import JobResults.Proofs.Memory.RankedSet

/-!
  # What the store in memory holds

  `Store.contents` reads the values and scores of a store off its two maps.  In a well-formed
  store every set is exact and has a member.  Commands, batches and evictions keep a store
  well-formed and do to its contents what contents say they do (`WellFormed.apply`,
  `WellFormed.answer`), and a range is a part of the ranking of a set (`WellFormed.range_eq`).
-/

namespace JobResults.Memory

/-- The value that is kept for a payload written at an instant. -/
def stamp (now : Instant) (payload : Bytes) (ttl : Option Duration) : Entry :=
  ⟨payload, ttl.bind (Instant.add? now)⟩

namespace Store

/-- The set under a key, without members if there is none. -/
def setAt (s : Store) (key : String) : RankedSet := (s.sets.get? key).getD .empty

def contents (s : Store) : Contents Entry where
  value := s.values.get?
  score key := (s.setAt key).scores.get?

/-- Every set is exact and has a member. -/
def WellFormed (s : Store) : Prop :=
  ∀ key set, s.sets.get? key = some set → set.Exact ∧ set.isEmpty = false

theorem wellFormed_empty : empty.WellFormed := by
  intro key set h
  cases h

/-! ### Sets -/

namespace WellFormed

variable {s : Store}

theorem exact (h : s.WellFormed) (key : String) : (s.setAt key).Exact := by
  rw [setAt]
  cases hset : s.sets.get? key with
  | none => exact RankedSet.exact_empty
  | some set => exact (h key set hset).1

theorem insert (h : s.WellFormed) (values : OrderedMap String Entry) (key : String)
    {set : RankedSet} (hexact : set.Exact) (hmember : set.isEmpty = false) :
    WellFormed ⟨values, s.sets.insert key set⟩ := by
  intro k set' hset'
  rw [OrderedMap.get?_insert] at hset'
  split at hset'
  · obtain rfl := Option.some.inj hset'
    exact ⟨hexact, hmember⟩
  · exact h k set' hset'

theorem erase (h : s.WellFormed) (values : OrderedMap String Entry) (key : String) :
    WellFormed ⟨values, s.sets.erase key⟩ := by
  intro k set' hset'
  rw [OrderedMap.get?_erase] at hset'
  split at hset'
  · cases hset'
  · exact h k set' hset'

theorem updateSet (h : s.WellFormed) (key : String) {f : RankedSet → RankedSet}
    (hf : ∀ set : RankedSet, set.Exact → (f set).Exact) : (s.updateSet key f).WellFormed := by
  rw [Store.updateSet]
  split
  · exact h
  · next set hset =>
    dsimp only
    split
    · exact h.erase _ key
    · next hmember =>
      exact h.insert _ key (hf set (h key set hset).1) (Bool.eq_false_iff.2 hmember)

end WellFormed

theorem setAt_insert (values : OrderedMap String Entry) (sets : OrderedMap String RankedSet)
    (key k : String) (set : RankedSet) :
    setAt ⟨values, sets.insert key set⟩ k = if k = key then set else setAt ⟨values, sets⟩ k := by
  rw [setAt, OrderedMap.get?_insert]
  split <;> rfl

theorem setAt_erase (values : OrderedMap String Entry) (sets : OrderedMap String RankedSet)
    (key k : String) :
    setAt ⟨values, sets.erase key⟩ k = if k = key then .empty else setAt ⟨values, sets⟩ k := by
  rw [setAt, OrderedMap.get?_erase]
  split <;> rfl

/-- A set that has lost its last member reads like the set without members. -/
theorem get?_of_isEmpty {set : RankedSet} (h : set.isEmpty = true) (m : String) :
    set.scores.get? m = RankedSet.empty.scores.get? m :=
  OrderedMap.isEmpty_iff.1 h m

theorem values_updateSet (s : Store) (key : String) (f : RankedSet → RankedSet) :
    (s.updateSet key f).values = s.values := by
  rw [updateSet]
  split <;> rfl

theorem get?_updateSet_of_ne (s : Store) {key k : String} (hne : k ≠ key)
    (f : RankedSet → RankedSet) : (s.updateSet key f).sets.get? k = s.sets.get? k := by
  rw [updateSet]
  split
  · rfl
  · dsimp only
    split
    · rw [OrderedMap.get?_erase, if_neg hne]
    · rw [OrderedMap.get?_insert, if_neg hne]

/-- An update does to the scores of one set what its function does to them. -/
theorem contents_updateSet {s : Store} (key : String) {f : RankedSet → RankedSet}
    {g : String → Option Score → Option Score} (hg : ∀ m, g m none = none)
    (hf : ∀ m, (f (s.setAt key)).scores.get? m = g m ((s.setAt key).scores.get? m)) :
    (s.updateSet key f).contents = s.contents.revise key g := by
  have hscore : ∀ k m, ((s.updateSet key f).setAt k).scores.get? m
      = if k = key then g m ((s.setAt k).scores.get? m) else (s.setAt k).scores.get? m := by
    intro k m
    rw [Store.updateSet]
    split
    · next hnone =>
      split
      · next hk =>
        have hset : s.setAt k = .empty := by rw [hk, setAt, hnone]; rfl
        rw [hset]
        exact (hg m).symm
      · rfl
    · next set hset =>
      have hat : s.setAt key = set := by rw [setAt, hset]; rfl
      rw [hat] at hf
      dsimp only
      by_cases hk : k = key
      · subst hk
        rw [if_pos rfl, hat, ← hf m]
        split
        · next hempty =>
          rw [setAt_erase, if_pos rfl, get?_of_isEmpty hempty]
        · rw [setAt_insert, if_pos rfl]
      · rw [if_neg hk]
        split
        · rw [setAt_erase, if_neg hk]
        · rw [setAt_insert, if_neg hk]
  simp only [contents, Contents.revise, values_updateSet]
  congr 1
  funext k m
  exact hscore k m

/-- A set from which a range is removed keeps the pairs out of range, in order. -/
theorem ranking_trim {s : Store} {key : String} (h : (s.setAt key).Exact) (min max : Score) :
    ((s.updateSet key (·.eraseRange min max)).setAt key).ranking
      = (s.setAt key).ranking.filter fun r => !Score.within min max r.score := by
  rw [← h.ranking_eraseRange, updateSet]
  cases hset : s.sets.get? key with
  | none =>
    have hat : s.setAt key = .empty := by rw [setAt, hset]; rfl
    rw [hat, RankedSet.exact_empty.ranking_eraseRange]
    rfl
  | some set =>
    have hat : s.setAt key = set := by rw [setAt, hset]; rfl
    rw [hat] at h ⊢
    dsimp only
    split
    · next hempty =>
      rw [setAt_erase, if_pos rfl, RankedSet.ranking_of_isEmpty (h.eraseRange min max) hempty]
      rfl
    · rw [setAt_insert, if_pos rfl]

/-! ### Commands -/

/-- What every command does to a well-formed store. -/
theorem WellFormed.apply {s : Store} (h : s.WellFormed) (now : Instant) (command : Command) :
    (s.apply now command).WellFormed ∧
      (s.apply now command).contents = s.contents.apply (stamp now) command := by
  have hclear : ∀ values key k m, (setAt ⟨values, s.sets.erase key⟩ k).scores.get? m
      = if k = key then Contents.drop (fun _ => true) m ((s.setAt k).scores.get? m)
        else (s.setAt k).scores.get? m := by
    intro values key k m
    rw [setAt_erase, Contents.drop_all]
    split <;> rfl
  cases command with
  | set key payload ttl =>
    refine ⟨h.erase _ key, ?_⟩
    simp only [Store.apply, contents, Contents.apply, Contents.revise, Contents.putValue]
    congr 1
    · funext k
      exact OrderedMap.get?_insert _ _ _ _
    · funext k m
      exact hclear _ key k m
  | delete key =>
    refine ⟨h.erase _ key, ?_⟩
    simp only [Store.apply, contents, Contents.apply, Contents.revise, Contents.putValue]
    congr 1
    · funext k
      exact OrderedMap.get?_erase _ _ _
    · funext k m
      exact hclear _ key k m
  | rank key member score =>
    constructor
    · refine h.insert _ key ((h.exact key).insert member score) ?_
      rw [Bool.eq_false_iff]
      intro hempty
      have hnone := get?_of_isEmpty hempty member
      simp [RankedSet.insert, OrderedMap.get?_insert, RankedSet.empty] at hnone
    · simp only [Store.apply, contents, Contents.apply, Contents.revise, Contents.putValue]
      congr 1
      · funext k
        exact OrderedMap.get?_erase _ _ _
      · funext k m
        rw [setAt_insert]
        split
        · next hk =>
          subst hk
          exact OrderedMap.get?_insert _ _ _ _
        · rfl
  | unrank key member =>
    refine ⟨h.updateSet key fun set hset => hset.erase member, ?_⟩
    refine contents_updateSet key (fun m => by simp [Contents.assign]) fun m => ?_
    exact RankedSet.get?_erase _ member m
  | unrankRange key min max =>
    refine ⟨h.updateSet key fun set hset => hset.eraseRange min max, ?_⟩
    refine contents_updateSet key (fun m => rfl) fun m => ?_
    exact (h.exact key).get?_eraseRange min max m

theorem WellFormed.execute {s : Store} (h : s.WellFormed) (now : Instant)
    (commands : List Command) :
    (s.execute now commands).WellFormed ∧
      (s.execute now commands).contents = s.contents.applyAll (stamp now) commands := by
  induction commands generalizing s with
  | nil => exact ⟨h, rfl⟩
  | cons command commands ih =>
    obtain ⟨hwell, hcontents⟩ := h.apply now command
    obtain ⟨hwell', hcontents'⟩ := ih hwell
    refine ⟨hwell', ?_⟩
    rw [Store.execute, List.foldl_cons, Contents.applyAll, List.foldl_cons, ← hcontents]
    exact hcontents'

/-! ### Calls -/

theorem contents_evict (s : Store) (now : Instant) :
    (s.evict now).1.contents = s.contents.keepValues fun e => !e.isExpired now := by
  simp only [evict, contents, Contents.keepValues]
  congr 1
  funext k
  exact OrderedMap.get?_filter _ _ _

/-- What every call does to a well-formed store. -/
theorem WellFormed.answer {s : Store} (h : s.WellFormed) (now : Instant) (call : StoreCall) :
    (s.answer now call).1.WellFormed ∧
      (s.answer now call).1.contents
        = s.contents.after (stamp now) (fun e => e.isExpired now) call := by
  cases call with
  | get key => exact ⟨h, rfl⟩
  | range key min max => exact ⟨h, rfl⟩
  | execute commands => exact h.execute now commands
  | ping => exact ⟨h, rfl⟩
  | evict => exact ⟨h, contents_evict s now⟩
  | close => exact ⟨h, rfl⟩

theorem get_eq (s : Store) (now : Instant) (key : String) :
    s.get now key = s.contents.payload Entry.payload (fun e => e.isExpired now) key := by
  simp only [get, Contents.payload, contents]
  cases s.values.get? key <;> rfl

theorem range_eq (s : Store) (key : String) (min max : Score) :
    s.range key min max
      = (((s.setAt key).ranking.filter (Ranked.inRange min max)).reverse).map (·.member) := by
  rw [← RankedSet.descending_eq, range, setAt]
  cases s.sets.get? key <;> rfl

theorem WellFormed.mem_ranking {s : Store} (h : s.WellFormed) (key : String) (r : Ranked) :
    r ∈ (s.setAt key).ranking ↔ s.contents.score key r.member = some r.score :=
  RankedSet.mem_ranking (h.exact key) r

/-- An eviction counts the values that have expired. -/
theorem evict_count (s : Store) (now : Instant) :
    (s.evict now).2 = (s.values.filter fun _ e => e.isExpired now).size :=
  OrderedMap.size_sub_size_filter _ _

/-! ### What a store is determined by -/

theorem WellFormed.get?_sets_eq_none_iff {s : Store} (h : s.WellFormed) (key : String) :
    s.sets.get? key = none ↔ ∀ m, s.contents.score key m = none := by
  change _ ↔ ∀ m, (s.setAt key).scores.get? m = none
  rw [setAt]
  cases hset : s.sets.get? key with
  | none => exact ⟨fun _ _ => rfl, fun _ => rfl⟩
  | some set =>
    have hmember := (h key set hset).2
    constructor
    · exact nofun
    · intro hnone
      have hempty : set.isEmpty = true := OrderedMap.isEmpty_iff.2 hnone
      rw [hempty] at hmember
      cases hmember

/-- A well-formed store is determined by its contents. -/
theorem WellFormed.ext {s s' : Store} (h : s.WellFormed) (h' : s'.WellFormed)
    (hcontents : s.contents = s'.contents) : s = s' := by
  have hvalues : s.values = s'.values :=
    OrderedMap.ext_get? fun key => congrFun (congrArg Contents.value hcontents) key
  have hsets : s.sets = s'.sets := by
    apply OrderedMap.ext_get?
    intro key
    have hnone := h.get?_sets_eq_none_iff key
    rw [hcontents, ← h'.get?_sets_eq_none_iff key] at hnone
    have hat : s.setAt key = s'.setAt key := by
      refine (h.exact key).ext (h'.exact key) ?_
      intro m
      exact congrFun (congrFun (congrArg Contents.score hcontents) key) m
    rw [setAt, setAt] at hat
    cases hset : s.sets.get? key <;> cases hset' : s'.sets.get? key
    · rfl
    · simp [hset, hset'] at hnone
    · simp [hset, hset'] at hnone
    · simpa [hset, hset'] using hat
  cases s
  cases s'
  simp_all

end Store

end JobResults.Memory
