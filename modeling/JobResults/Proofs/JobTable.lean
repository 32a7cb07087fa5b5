import JobResults.Outcome
import JobResults.Proofs.Contents
import JobResults.Proofs.OrderedMap
import JobResults.Proofs.Ranking

/-!
  # Tables of jobs

  What a store of job results stands for: a record for some of the jobs, and for each outcome the
  scores of the jobs that ended with it.  Contents hold a table when the records are the values
  under the keys of their jobs and the scores are those in the sets of the outcomes
  (`JobTable.Held`).  One key space serves both, so no record may belong to a job that is named
  like an outcome.

  Each command that a result store writes does to a held table what its operation is for
  (`Held.put`, `Held.rank`, `Held.unrank`, `Held.erase`, `Held.trim`, `Held.evict`).
-/

namespace JobResults

open Memory (Ranked)

/-! ### Keys -/

/-- An id that is the name of no outcome. -/
def Plain (id : String) : Prop := ∀ o : Outcome, id ≠ o.name

instance (id : String) : Decidable (Plain id) :=
  decidable_of_iff (id ≠ Outcome.success.name ∧ id ≠ Outcome.failed.name)
    ⟨fun ⟨h, h'⟩ o => by cases o <;> assumption, fun h => ⟨h .success, h .failed⟩⟩

theorem resultKey_inj {a b : String} : resultKey a = resultKey b ↔ a = b :=
  String.append_right_inj keyspace

theorem Outcome.name_inj {o o' : Outcome} : o.name = o'.name ↔ o = o' := by
  cases o <;> cases o' <;> decide

/-- The set of an outcome lies where the result of a job of its name would. -/
theorem Outcome.indexKey_eq (o : Outcome) : o.indexKey = resultKey o.name := rfl

theorem Outcome.indexKey_inj {o o' : Outcome} : o.indexKey = o'.indexKey ↔ o = o' :=
  resultKey_inj.trans Outcome.name_inj

theorem Plain.resultKey_ne {id : String} (h : Plain id) (o : Outcome) :
    resultKey id ≠ o.indexKey :=
  fun heq => h o (resultKey_inj.1 heq)

/-! ### Tables -/

/-- The records of jobs, and their scores by outcome. -/
structure JobTable (ν : Type) where
  records : OrderedMap String ν
  scores : Outcome → OrderedMap String Score

namespace JobTable

variable {ν : Type}

def empty : JobTable ν := ⟨.empty, fun _ => .empty⟩

/-- Writes the record of a job, over the one it has. -/
def put (t : JobTable ν) (id : String) (v : ν) : JobTable ν :=
  { t with records := t.records.insert id v }

def revise (t : JobTable ν) (o : Outcome) (f : OrderedMap String Score → OrderedMap String Score) :
    JobTable ν :=
  { t with scores := fun o' => if o' = o then f (t.scores o') else t.scores o' }

/-- Gives a job a score for an outcome, over the one it has. -/
def rank (t : JobTable ν) (o : Outcome) (id : String) (score : Score) : JobTable ν :=
  t.revise o fun scores => scores.insert id score

def unrank (t : JobTable ν) (o : Outcome) (id : String) : JobTable ν :=
  t.revise o fun scores => scores.erase id

def erase (t : JobTable ν) (id : String) : JobTable ν := { t with records := t.records.erase id }

def delete (t : JobTable ν) (id : String) : JobTable ν :=
  ⟨t.records.erase id, fun o => (t.scores o).erase id⟩

/-- Whether a score is at least zero and at most an integer. -/
def stale (cutoff : Int) (score : Score) : Bool := 0 ≤ score.toInt && score.toInt ≤ cutoff

/-- Takes the jobs out of an outcome that have a stale score. -/
def trim (t : JobTable ν) (o : Outcome) (cutoff : Int) : JobTable ν :=
  t.revise o fun scores => scores.filter fun _ score => !stale cutoff score

def evict (t : JobTable ν) (isExpired : ν → Bool) : JobTable ν :=
  { t with records := t.records.filter fun _ v => !isExpired v }

def expired (t : JobTable ν) (isExpired : ν → Bool) : Nat :=
  (t.records.filter fun _ v => isExpired v).size

/-- Takes the stale jobs out of all outcomes, and removes the expired records. -/
def purge (t : JobTable ν) (isExpired : ν → Bool) (cutoff : Int) : JobTable ν where
  records := t.records.filter fun _ v => !isExpired v
  scores o := (t.scores o).filter fun _ score => !stale cutoff score

def ranked (t : JobTable ν) (o : Outcome) : List Ranked :=
  (t.scores o).toList.map fun e => ⟨e.2, e.1⟩

/-- The jobs of an outcome with a score from zero to a reading of the clock, from the highest
    score down, and from the greatest id down where scores are equal. -/
def listed (t : JobTable ν) (o : Outcome) (clock : Score) : List String :=
  (((t.ranked o).filter (Ranked.inRange 0 clock)).mergeSort fun a b => !decide (a < b)).map
    (·.member)

theorem mem_ranked {t : JobTable ν} {o : Outcome} (r : Ranked) :
    r ∈ t.ranked o ↔ (t.scores o).get? r.member = some r.score := by
  rw [ranked, List.mem_map, OrderedMap.get?_eq_some_iff]
  constructor
  · rintro ⟨⟨id, score⟩, he, rfl⟩
    exact he
  · intro hr
    exact ⟨(r.member, r.score), hr, rfl⟩

theorem nodup_ranked (t : JobTable ν) (o : Outcome) : (t.ranked o).Nodup := by
  refine List.Nodup.of_map (·.member) ?_
  rw [ranked, List.map_map]
  exact (t.scores o).nodup_keys

/-- A listing may be read backwards off a ranking of the outcome. -/
theorem listed_eq {t : JobTable ν} {o : Outcome} {l : List Ranked} (h : l.Pairwise (· < ·))
    (hmem : ∀ r, r ∈ l ↔ (t.scores o).get? r.member = some r.score) (clock : Score) :
    t.listed o clock = ((l.filter (Ranked.inRange 0 clock)).reverse).map (·.member) := by
  rw [listed, Ranked.mergeSort_eq_reverse (h.filter _) ((t.nodup_ranked o).filter _)]
  intro r
  rw [List.mem_filter, List.mem_filter, mem_ranked, hmem]

/-- A purge trims both outcomes and evicts. -/
theorem purge_eq (t : JobTable ν) (isExpired : ν → Bool) (cutoff : Int) :
    ((t.trim .failed cutoff).trim .success cutoff).evict isExpired = t.purge isExpired cutoff := by
  simp only [purge, evict, trim, revise]
  congr 1
  funext o
  cases o <;> rfl

/-- A deletion takes the job out of both outcomes and removes its record. -/
theorem delete_eq (t : JobTable ν) (id : String) :
    ((t.unrank .success id).unrank .failed id).erase id = t.delete id := by
  simp only [delete, erase, unrank, revise]
  congr 1
  funext o
  cases o <;> rfl

/-! ### Contents that hold a table -/

/-- The values are the records, and the sets of the outcomes hold the scores. -/
structure Held (t : JobTable ν) (c : Contents ν) : Prop where
  value : ∀ id, c.value (resultKey id) = t.records.get? id
  /-- There is no value outside the key space. -/
  outside : ∀ key, (∀ id, key ≠ resultKey id) → c.value key = none
  score : ∀ o id, c.score o.indexKey id = (t.scores o).get? id
  plain : ∀ o : Outcome, t.records.get? o.name = none

namespace Held

variable {t : JobTable ν} {c : Contents ν}

theorem empty : (JobTable.empty : JobTable ν).Held Contents.empty :=
  ⟨fun _ => rfl, fun _ _ => rfl, fun _ _ => rfl, fun _ => rfl⟩

theorem put (h : t.Held c) (stamp : Bytes → Option Duration → ν) {id : String} (hid : Plain id)
    (payload : Bytes) (ttl : Option Duration) :
    (t.put id (stamp payload ttl)).Held (c.apply stamp (.set (resultKey id) payload ttl)) where
  value id' := by
    simp only [Contents.apply, Contents.putValue, Contents.revise, JobTable.put,
      OrderedMap.get?_insert, resultKey_inj, h.value]
  outside key hkey := by
    simp only [Contents.apply, Contents.putValue, Contents.revise, if_neg (hkey id)]
    exact h.outside key hkey
  score o id' := by
    have hne : ¬ o.indexKey = resultKey id := fun heq => hid.resultKey_ne o heq.symm
    simp only [Contents.apply, Contents.putValue, Contents.revise, if_neg hne]
    exact h.score o id'
  plain o := by
    have hne : ¬ o.name = id := fun heq => hid o heq.symm
    rw [JobTable.put, OrderedMap.get?_insert, if_neg hne]
    exact h.plain o

/-- A change to the set of an outcome. -/
theorem revise (h : t.Held c) (o : Outcome) {f : String → Option Score → Option Score}
    {g : OrderedMap String Score → OrderedMap String Score}
    (hfg : ∀ id, f id ((t.scores o).get? id) = (g (t.scores o)).get? id) :
    (t.revise o g).Held (c.revise o.indexKey f) where
  value := h.value
  outside := h.outside
  score o' id := by
    simp only [Contents.revise, JobTable.revise, Outcome.indexKey_inj, h.score]
    split
    · next heq =>
      subst heq
      exact hfg id
    · rfl
  plain := h.plain

/-- A set comes up under the key of an outcome, where there is no value. -/
theorem putNone (h : t.Held c) (o : Outcome) : t.Held (c.putValue o.indexKey none) where
  value id := by
    simp only [Contents.putValue, Outcome.indexKey_eq, resultKey_inj]
    split
    · next heq => rw [heq, h.plain]
    · exact h.value id
  outside key hkey := by
    rw [Outcome.indexKey_eq, Contents.putValue]
    simp only [if_neg (hkey o.name)]
    exact h.outside key hkey
  score := h.score
  plain := h.plain

theorem rank (h : t.Held c) (stamp : Bytes → Option Duration → ν) (o : Outcome) (id : String)
    (score : Score) :
    (t.rank o id score).Held (c.apply stamp (.rank o.indexKey id score)) := by
  refine (h.putNone o).revise o fun id' => ?_
  rw [OrderedMap.get?_insert]
  rfl

theorem unrank (h : t.Held c) (stamp : Bytes → Option Duration → ν) (o : Outcome) (id : String) :
    (t.unrank o id).Held (c.apply stamp (.unrank o.indexKey id)) := by
  refine h.revise o fun id' => ?_
  rw [OrderedMap.get?_erase]
  rfl

theorem trim (h : t.Held c) (stamp : Bytes → Option Duration → ν) (o : Outcome) {cutoff : Int}
    {max : Score} (hmax : ∀ score, Score.within 0 max score = stale cutoff score) :
    (t.trim o cutoff).Held (c.apply stamp (.unrankRange o.indexKey 0 max)) := by
  refine h.revise o fun id' => ?_
  simp only [OrderedMap.get?_filter, Contents.drop, hmax]

theorem erase (h : t.Held c) (stamp : Bytes → Option Duration → ν) {id : String} (hid : Plain id) :
    (t.erase id).Held (c.apply stamp (.delete (resultKey id))) where
  value id' := by
    simp only [Contents.apply, Contents.putValue, Contents.revise, JobTable.erase,
      OrderedMap.get?_erase, resultKey_inj, h.value]
  outside key hkey := by
    simp only [Contents.apply, Contents.putValue, Contents.revise, if_neg (hkey id)]
    exact h.outside key hkey
  score o id' := by
    have hne : ¬ o.indexKey = resultKey id := fun heq => hid.resultKey_ne o heq.symm
    simp only [Contents.apply, Contents.putValue, Contents.revise, if_neg hne]
    exact h.score o id'
  plain o := by
    rw [JobTable.erase, OrderedMap.get?_erase, h.plain o, ite_self]

theorem evict (h : t.Held c) (isExpired : ν → Bool) :
    (t.evict isExpired).Held (c.keepValues fun v => !isExpired v) where
  value id := by
    rw [JobTable.evict, OrderedMap.get?_filter, ← h.value]
    rfl
  outside key hkey := by
    simp only [Contents.keepValues, h.outside key hkey, Option.filter_none]
  score := h.score
  plain o := by
    rw [JobTable.evict, OrderedMap.get?_filter, h.plain o, Option.filter_none]

/-- A store finds as many expired values as there are expired records. -/
theorem expired_eq (h : t.Held c) {isExpired : ν → Bool} {values : OrderedMap String ν}
    (hvalues : ∀ key, values.get? key = c.value key) :
    (values.filter fun _ v => isExpired v).size = t.expired isExpired := by
  symm
  refine OrderedMap.size_eq_of_keys resultKey (fun a b => resultKey_inj.1) fun key => ?_
  simp only [OrderedMap.get?_filter, hvalues]
  constructor
  · rintro ⟨v, hv⟩
    -- a key with a value is the key of a job
    by_cases hkey : ∃ id, key = resultKey id
    · obtain ⟨id, rfl⟩ := hkey
      exact ⟨id, ⟨v, by rw [← h.value]; exact hv⟩, rfl⟩
    · rw [h.outside key fun id heq => hkey ⟨id, heq⟩] at hv
      cases hv
  · rintro ⟨id, ⟨v, hv⟩, rfl⟩
    exact ⟨v, by rw [h.value]; exact hv⟩

end Held

end JobTable

end JobResults
