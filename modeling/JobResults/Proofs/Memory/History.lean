import JobResults.Proofs.Memory.Store
import JobResults.Proofs.Revision

/-!
  # The sets of a store in memory

  Whatever calls a store in memory has answered, it keeps every set twice with the same pairs, no
  set without members, and none beside a value.  The commands that were executed tell the score of
  every member (`latestScore`): a call adds its commands to them and changes the scores accordingly
  (`Recorded.answer`).  So a range lists the members whose latest score lies in it, the highest rank
  first (`run_sets_exact`).
-/

namespace JobResults

def StoreCall.commands : StoreCall → List Command
  | .execute commands => commands
  | _ => []

/-- The score that commands leave a member of a set with, if any. -/
def latestScore (key member : String) (commands : List Command) : Option Score :=
  commands.foldl (fun score c => (c.onScore key member).apply score) none

/-- After more commands, the latest score is the revised one. -/
theorem latestScore_append (key member : String) (commands more : List Command) :
    latestScore key member (commands ++ more)
      = (Revision.all (Command.onScore key member) more).apply
          (latestScore key member commands) := by
  rw [Revision.apply_all, latestScore, List.foldl_append]
  rfl

namespace Memory

/-- The commands of all batches among calls, in order. -/
def executed (calls : List (Instant × StoreCall)) : List Command :=
  calls.flatMap fun e => e.2.commands

namespace Store

/-- The store after calls, each at its instant. -/
def run (s : Store) (calls : List (Instant × StoreCall)) : Store :=
  calls.foldl (fun s e => (s.answer e.1 e.2).1) s

/-! ### Runs -/

/-- A well-formed store in which no key has a value and a set, and in which the members of sets have
    the scores that commands left them with. -/
structure Recorded (s : Store) (commands : List Command) : Prop where
  wellFormed : s.WellFormed
  exclusive : s.contents.Exclusive
  score : ∀ key m, s.contents.score key m = latestScore key m commands

namespace Recorded

variable {s : Store} {commands : List Command}

theorem empty : Store.empty.Recorded [] where
  wellFormed := wellFormed_empty
  exclusive := Contents.exclusive_empty
  score _ _ := rfl

theorem answer (h : s.Recorded commands) (now : Instant) (call : StoreCall) :
    (s.answer now call).1.Recorded (commands ++ call.commands) := by
  obtain ⟨hwell, hcontents⟩ := h.wellFormed.answer now call
  constructor
  case wellFormed => exact hwell
  case exclusive =>
    rw [hcontents]
    cases call with
    | execute batch => exact h.exclusive.applyAll _ batch
    | evict => exact h.exclusive.keepValues _
    | get key => exact h.exclusive
    | range key min max => exact h.exclusive
    | ping => exact h.exclusive
    | close => exact h.exclusive
  case score =>
    intro key m
    rw [hcontents, latestScore_append, ← h.score]
    -- only a batch has commands, and nothing else changes scores
    cases call with
    | execute batch => exact Contents.score_applyAll_eq _ _ batch key m
    | evict => exact (Revision.apply_same _).symm
    | get _ => exact (Revision.apply_same _).symm
    | range _ _ _ => exact (Revision.apply_same _).symm
    | ping => exact (Revision.apply_same _).symm
    | close => exact (Revision.apply_same _).symm

theorem run (h : s.Recorded commands) (calls : List (Instant × StoreCall)) :
    (s.run calls).Recorded (commands ++ executed calls) := by
  induction calls generalizing s commands with
  | nil => simpa [Store.run, executed] using h
  | cons e calls ih =>
    have hrest := ih (h.answer e.1 e.2)
    rwa [List.append_assoc] at hrest

end Recorded

/-! ### Sets that are kept -/

theorem score_of_set {s : Store} {key : String} {set : RankedSet}
    (hset : s.sets.get? key = some set) : s.contents.score key = set.scores.get? := by
  have hat : s.setAt key = set := by rw [setAt, hset, Option.getD_some]
  rw [← hat]
  rfl

/-- A set that is kept has a member. -/
theorem WellFormed.exists_member {s : Store} (h : s.WellFormed) {key : String} {set : RankedSet}
    (hset : s.sets.get? key = some set) :
    ∃ m score, s.contents.score key m = some score := by
  by_contra hnone
  have hall : ∀ m, s.contents.score key m = none := by
    intro m
    rw [Option.eq_none_iff_forall_ne_some]
    intro score hscore
    exact hnone ⟨m, score, hscore⟩
  rw [(h.get?_sets_eq_none_iff key).2 hall] at hset
  cases hset

/-- A set that is kept has the same pairs in both forms and a member, and its key no value. -/
theorem Recorded.set {s : Store} {commands : List Command} (h : s.Recorded commands) {key : String}
    {set : RankedSet} (hset : s.sets.get? key = some set) :
    (set.scores.toList.map fun e => (⟨e.2, e.1⟩ : Ranked)).Perm set.ranking ∧
      (set.ranking.map (·.member)).Nodup ∧ set.ranking ≠ [] ∧ s.values.get? key = none := by
  have hexact : set.Exact := (h.wellFormed key set hset).1
  obtain ⟨m, score, hscore⟩ := h.wellFormed.exists_member hset
  refine ⟨hexact.perm_ranking, hexact.nodup_members, ?_, ?_⟩
  · rw [score_of_set hset] at hscore
    exact List.ne_nil_of_mem ((RankedSet.mem_ranking hexact ⟨score, m⟩).2 hscore)
  · rw [Option.eq_none_iff_forall_ne_some]
    intro v hv
    exact h.exclusive key v m score hv hscore

/-! ### Ranges -/

section

variable {s : Store} (h : s.WellFormed) (key : String) (min max : Score)

include h

/-- A range has the members with a score in it. -/
theorem WellFormed.mem_range (m : String) :
    m ∈ s.range key min max ↔
      ∃ score, s.contents.score key m = some score ∧ min ≤ score ∧ score ≤ max := by
  simp only [range_eq, List.mem_map, List.mem_reverse, List.mem_filter, h.mem_ranking,
    Ranked.inRange_iff]
  constructor
  · rintro ⟨r, ⟨hscore, hin⟩, rfl⟩
    exact ⟨r.score, hscore, hin⟩
  · rintro ⟨score, hscore, hin⟩
    exact ⟨⟨score, m⟩, ⟨hscore, hin⟩, rfl⟩

theorem WellFormed.nodup_range : (s.range key min max).Nodup := by
  rw [range_eq, List.map_reverse, List.nodup_reverse]
  exact (h.exact key).nodup_members.sublist (List.filter_sublist.map _)

/-- A range goes down in rank. -/
theorem WellFormed.descending_range :
    (s.range key min max).Pairwise fun m m' =>
      ∃ score score', s.contents.score key m = some score ∧
        s.contents.score key m' = some score' ∧ (⟨score', m'⟩ : Ranked) < ⟨score, m⟩ := by
  rw [range_eq, List.map_reverse, List.pairwise_reverse, List.pairwise_map]
  refine List.Pairwise.imp_of_mem ?_ ((s.setAt key).ranking_ascending.filter _)
  intro r r' hr hr' hlt
  have hscore := (h.mem_ranking key r).1 (List.mem_of_mem_filter hr)
  have hscore' := (h.mem_ranking key r').1 (List.mem_of_mem_filter hr')
  exact ⟨r'.score, r.score, hscore', hscore, hlt⟩

end

/-- From an empty store, calls lead to exact sets.  Every set that is kept has the same pairs in its
    map and in its rank order, each member once, and it has a member and its key no value.  A range
    lists every member whose latest score lies in it, once and no other, by descending score and,
    among equal scores, by descending bytes of the member. -/
theorem run_sets_exact (calls : List (Instant × StoreCall)) :
    let s := Store.empty.run calls
    let latest key member := latestScore key member (executed calls)
    (∀ key set, s.sets.get? key = some set →
      (set.scores.toList.map fun e => (⟨e.2, e.1⟩ : Ranked)).Perm set.ranking ∧
        (set.ranking.map (·.member)).Nodup ∧ set.ranking ≠ [] ∧ s.values.get? key = none) ∧
    ∀ key min max,
      let members := s.range key min max
      (∀ m, m ∈ members ↔ ∃ score, latest key m = some score ∧ min ≤ score ∧ score ≤ max) ∧
        members.Nodup ∧
        (members.Pairwise fun m m' => ∃ score score',
          latest key m = some score ∧ latest key m' = some score' ∧
            (score' < score ∨ score' = score ∧ Bytes.ofString m' < Bytes.ofString m)) ∧
        (max < min → members = []) := by
  intro s latest
  have hrun : s.Recorded (executed calls) := Recorded.empty.run calls
  have hscore : ∀ key m, s.contents.score key m = latest key m := hrun.score
  refine ⟨fun key set hset => hrun.set hset, ?_⟩
  intro key min max members
  have hmem := hrun.wellFormed.mem_range key min max
  have hdescending := hrun.wellFormed.descending_range key min max
  simp only [hscore] at hmem hdescending
  refine ⟨hmem, hrun.wellFormed.nodup_range key min max, hdescending, ?_⟩
  intro hempty
  rw [List.eq_nil_iff_forall_not_mem]
  intro m hm
  obtain ⟨score, -, hlow, hhigh⟩ := (hmem m).1 hm
  exact Int64.lt_irrefl (Int64.lt_of_lt_of_le hempty (Int64.le_trans hlow hhigh))

/-- Ties go by the bytes of the members, the empty one included, at both ends of the range of
    scores; what was ranked again counts with its new score. -/
theorem run_sets_exact_ties :
    let calls : List (Instant × StoreCall) :=
      [(5, .execute [.rank "jobs" "b" 7, .rank "jobs" "" Int64.maxValue, .rank "jobs" "a" 7]),
        (6, .execute [.rank "jobs" "c" Int64.minValue, .rank "jobs" "d" 9, .unrankRange "jobs" 8 9,
          .rank "jobs" "d" Int64.maxValue]), (7, .evict)]
    let s := Store.empty.run calls
    s.range "jobs" Int64.minValue Int64.maxValue = ["d", "", "b", "a", "c"] ∧
      (∀ m ∈ s.range "jobs" 8 Int64.maxValue,
        latestScore "jobs" m (executed calls) = some Int64.maxValue) ∧
      s.range "jobs" 8 7 = [] := by
  intro calls s
  obtain ⟨-, hranges⟩ := run_sets_exact calls
  refine ⟨by decide, by decide, (hranges "jobs" 8 7).2.2.2 (by decide)⟩

end Store

end Memory

end JobResults
