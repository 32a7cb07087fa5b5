import JobResults.Proofs.Embedded.Commit

/-!
  # The rows that a batch goes by

  A row of `values` belongs to the key that it spells, and a row of `scores` or `members` to every
  key that it starts with, up to a NUL.  Nothing is said here about what the rows hold: they may be
  malformed, or contradict each other.

    * A batch reads only rows that belong to its keys: staged over two tables that agree on them it
      ends in the same view, or with the same error (`Staged.applyAll_congr`).
    * It writes only such rows (`Staged.Within.covers`), so all others stay as they are.
    * Whether it succeeds and what its rows become is therefore the same in both tables, and a batch
      that fails changes nothing (`Tables.execute_local_atomic`).

  Keys without NUL share no rows (`not_covers`), so that corrupt rows of one of them are of no
  concern to a batch on others.
-/

namespace JobResults.Embedded

open Bytes (ofString)

/-- The row with this place belongs to the key. -/
def Belongs (key : String) : TableName → Bytes → Prop
  | .values, b => b = ofString key
  | _, b => setStart key <+: b

/-- The row belongs to one of the keys. -/
def Covers (keys : List String) (name : TableName) (b : Bytes) : Prop :=
  ∃ key ∈ keys, Belongs key name b

/-- Keys without NUL share no rows. -/
theorem not_covers {keys : List String} (hkeys : ∀ k ∈ keys, NulFree k) {j : String}
    (hj : NulFree j) (hout : j ∉ keys) {name : TableName} {b : Bytes} (hb : Belongs j name b) :
    ¬ Covers keys name b := by
  rintro ⟨k, hk, hkb⟩
  have hne : j ≠ k := fun h => hout (h ▸ hk)
  have hstart : setStart j <+: b → setStart k <+: b → False := by
    rintro ⟨x, rfl⟩ hstart
    exact hne (eq_of_starts (hkeys k hk) hj hstart).symm
  cases name with
  | values => exact hne (Bytes.ofString_inj (hb.symm.trans hkb))
  | scores => exact hstart hb hkb
  | members => exact hstart hb hkb

namespace Tables

/-- The same rows belong to the keys in both tables. -/
def AgreeOn (keys : List String) (t t' : Tables) : Prop :=
  ∀ name b, Covers keys name b → (t.table name).get? b = (t'.table name).get? b

variable {t t' : Tables} {keys : List String}

/-! ### Reads -/

theorem scan_congr {rows rows' : Table} {start : Bytes}
    (h : ∀ b, start <+: b → rows.get? b = rows'.get? b) : rows.scan start = rows'.scan start := by
  have hfilter : (rows.filter fun b _ => (dropStart? start b).isSome)
      = rows'.filter fun b _ => (dropStart? start b).isSome := by
    refine OrderedMap.ext_get? fun b => ?_
    rw [OrderedMap.get?_filter, OrderedMap.get?_filter]
    by_cases hb : start <+: b
    · rw [h b hb]
    · have hnone : dropStart? start b = none := by
        rw [Option.eq_none_iff_forall_ne_some]
        intro rest hrest
        exact hb ⟨rest, (dropStart?_eq_some_iff.1 hrest).symm⟩
      simp [hnone]
  exact congrArg OrderedMap.toList hfilter

theorem AgreeOn.scanSet (h : t.AgreeOn keys t') {key : String} (hkey : key ∈ keys) :
    t.scanSet key = t'.scanSet key := by
  have hrows : t.scores.scan (setStart key) = t'.scores.scan (setStart key) :=
    scan_congr fun b hb => h .scores b ⟨key, hkey, hb⟩
  rw [Tables.scanSet, hrows, Tables.scanSet]

theorem AgreeOn.memberScore (h : t.AgreeOn keys t') {key : String} (hkey : key ∈ keys)
    (member : String) : t.memberScore key member = t'.memberScore key member := by
  have hrow : t.members.get? (memberKey key member) = t'.members.get? (memberKey key member) :=
    h .members _ ⟨key, hkey, List.prefix_append _ _⟩
  rw [Tables.memberScore, hrow, Tables.memberScore]

/-! ### Writes -/

/-- Writes leave in a row what they leave in any other table with the same row. -/
theorem get?_writeAll_congr {name : TableName} {b : Bytes}
    (h : (t.table name).get? b = (t'.table name).get? b) (writes : List RowWrite) :
    ((t.writeAll writes).table name).get? b = ((t'.writeAll writes).table name).get? b := by
  induction writes generalizing t t' with
  | nil => exact h
  | cons w writes ih =>
    simp only [Tables.writeAll, List.foldl_cons] at ih ⊢
    refine ih ?_
    rw [get?_write, get?_write, h]

end Tables

namespace Staged

variable {t t' : Tables} {keys : List String} {s s' : Staged}

/-! ### A view reads the rows of its keys -/

theorem setPending_congr (h : t.AgreeOn keys t') (s : Staged) {key : String} (hkey : key ∈ keys)
    (m : String) (score : Option Score) :
    s.setPending t key m score = s.setPending t' key m score := by
  simp only [setPending, member, h.memberScore hkey]

theorem dropPending_congr (h : t.AgreeOn keys t') (s : Staged) {key : String} (hkey : key ∈ keys)
    (doomed : Score → Bool) : s.dropPending t key doomed = s.dropPending t' key doomed := by
  simp only [dropPending, load, h.scanSet hkey]

theorem apply_congr (h : t.AgreeOn keys t') (now : UInt64) (s : Staged) {command : Command}
    (hkey : command.key ∈ keys) : s.apply t now command = s.apply t' now command := by
  cases command with
  | set key payload ttl =>
    have hclear : s.clear t key = s.clear t' key := dropPending_congr h s hkey _
    simp only [apply, hclear]
  | delete key =>
    have hclear : s.clear t key = s.clear t' key := dropPending_congr h s hkey _
    simp only [apply, hclear]
  | rank key m score => exact setPending_congr h _ hkey m (some score)
  | unrank key m => exact setPending_congr h s hkey m none
  | unrankRange key min max => exact dropPending_congr h s hkey (Score.within min max)

theorem applyAll_congr (h : t.AgreeOn keys t') (now : UInt64) (s : Staged)
    {commands : List Command} (hkeys : ∀ c ∈ commands, c.key ∈ keys) :
    s.applyAll t now commands = s.applyAll t' now commands := by
  induction commands generalizing s with
  | nil => rfl
  | cons command commands ih =>
    simp only [applyAll, List.foldlM_cons, apply_congr h now s (hkeys command List.mem_cons_self)]
    cases hfirst : s.apply t' now command with
    | error e => rfl
    | ok s' => exact ih s' fun c hc => hkeys c (List.mem_cons_of_mem _ hc)

/-! ### A view holds its keys only -/

/-- What is in view belongs to the keys. -/
structure Within (keys : List String) (s : Staged) : Prop where
  values : ∀ {k row}, s.values.get? k = some row → k ∈ keys
  sets : ∀ {k set}, s.sets.get? k = some set → k ∈ keys

theorem within_empty (keys : List String) : Staged.empty.Within keys :=
  ⟨fun h => by simp [Staged.empty] at h, fun h => by simp [Staged.empty] at h⟩

namespace Within

theorem sameBut (h : s.Within keys) {key : String} (hkey : key ∈ keys) (hs' : s.SameBut key s') :
    s'.Within keys := by
  refine ⟨fun hk => h.values (hs'.values ▸ hk), fun {k set} hk => ?_⟩
  by_cases heq : k = key
  · exact heq ▸ hkey
  · rw [hs'.sets heq] at hk
    exact h.sets hk

theorem putValue (h : s.Within keys) {key : String} (hkey : key ∈ keys) (row : Option Bytes) :
    (s.putValue key row).Within keys := by
  refine ⟨fun {k row'} hk => ?_, h.sets⟩
  by_cases heq : k = key
  · exact heq ▸ hkey
  · rw [Staged.putValue, OrderedMap.get?_insert, if_neg heq] at hk
    exact h.values hk

theorem apply (h : s.Within keys) {now : UInt64} {command : Command} (hkey : command.key ∈ keys)
    (hs' : s.apply t now command = .ok s') : s'.Within keys := by
  have hcleared : ∀ {key : String} {row : Option Bytes}, key ∈ keys →
      (s.clear t key).map (·.putValue key row) = .ok s' → s'.Within keys := by
    intro key row hkey hs'
    obtain ⟨s₁, hclear, rfl⟩ := exists_of_map_eq_ok hs'
    exact (h.sameBut hkey (sameBut_dropPending hclear)).putValue hkey row
  cases command with
  | set key payload ttl => exact hcleared hkey hs'
  | delete key => exact hcleared hkey hs'
  | rank key m score => exact (h.putValue hkey none).sameBut hkey (sameBut_setPending hs')
  | unrank key m => exact h.sameBut hkey (sameBut_setPending hs')
  | unrankRange key min max => exact h.sameBut hkey (sameBut_dropPending hs')

theorem applyAll (h : s.Within keys) {now : UInt64} {commands : List Command}
    (hkeys : ∀ c ∈ commands, c.key ∈ keys) (hs' : s.applyAll t now commands = .ok s') :
    s'.Within keys := by
  induction commands generalizing s with
  | nil =>
    cases hs'
    exact h
  | cons command commands ih =>
    obtain ⟨s₁, hfirst, hrest⟩ := exists_of_applyAll_cons hs'
    exact ih (h.apply (hkeys command List.mem_cons_self) hfirst)
      (fun c hc => hkeys c (List.mem_cons_of_mem _ hc)) hrest

theorem key_mem (h : s.Within keys) {k m : String} {state : MemberState}
    (hm : (s.set k).get? m = some state) : k ∈ keys := by
  rw [Staged.set] at hm
  cases hset : s.sets.get? k with
  | none => simp [hset] at hm
  | some set => exact h.sets hset

/-- Every row that is written belongs to one of the keys. -/
theorem covers (h : s.Within keys) {w : RowWrite} (hw : w ∈ s.writes) :
    Covers keys w.table w.key := by
  rcases mem_writes_iff.1 hw with ⟨k, row, hk, rfl⟩ | ⟨k, m, state, hm, hw⟩
  · exact ⟨k, h.values hk, rfl⟩
  · have hkey : k ∈ keys := h.key_mem hm
    rcases address_of_mem_memberWrites (List.mem_map_of_mem hw) with ⟨score, heq⟩ | heq
    · obtain ⟨htable, hplace⟩ := Prod.mk.inj heq
      refine ⟨k, hkey, ?_⟩
      rw [htable, hplace, scoreKey_eq]
      exact List.prefix_append _ _
    · obtain ⟨htable, hplace⟩ := Prod.mk.inj heq
      refine ⟨k, hkey, ?_⟩
      rw [htable, hplace]
      exact List.prefix_append _ _

end Within

end Staged

/-! ### Whole batches -/

namespace Tables

variable {t t' : Tables} {keys : List String}

theorem execute_congr (h : t.AgreeOn keys t') (now : UInt64) {commands : List Command}
    (hkeys : ∀ c ∈ commands, c.key ∈ keys) :
    (t'.answer now (.execute commands)).2 = (t.answer now (.execute commands)).2 ∧
      (t.answer now (.execute commands)).1.AgreeOn keys (t'.answer now (.execute commands)).1 := by
  simp only [answer, execute, Staged.applyAll_congr h now Staged.empty hkeys]
  cases Staged.empty.applyAll t' now commands with
  | error e => exact ⟨rfl, h⟩
  | ok s => exact ⟨rfl, fun name b hb => get?_writeAll_congr (h name b hb) s.writes⟩

theorem execute_frame (t : Tables) (now : UInt64) {commands : List Command}
    (hkeys : ∀ c ∈ commands, c.key ∈ keys) {name : TableName} {b : Bytes}
    (hb : ¬ Covers keys name b) :
    ((t.answer now (.execute commands)).1.table name).get? b = (t.table name).get? b := by
  simp only [answer, execute]
  cases hstaged : Staged.empty.applyAll t now commands with
  | error e => rfl
  | ok s =>
    have hwithin : s.Within keys := (Staged.within_empty keys).applyAll hkeys hstaged
    refine t.get?_writeAll_of_not_mem fun hmem => hb ?_
    obtain ⟨w, hw, heq⟩ := List.mem_map.1 hmem
    obtain ⟨rfl, rfl⟩ := Prod.mk.inj heq
    exact hwithin.covers hw

theorem execute_error (t : Tables) (now : UInt64) {commands : List Command} {e : StoreError}
    (he : (t.answer now (.execute commands)).2 = .error e) :
    (t.answer now (.execute commands)).1 = t := by
  simp only [answer] at he ⊢
  cases hexecute : t.execute now commands with
  | error e' => rfl
  | ok t₁ => simp [hexecute] at he

/-- In any tables, a batch goes by the rows that belong to its keys: they decide whether it succeeds
    and what becomes of them.  All other rows stay as they are, and if it fails, all rows do.  So
    whatever is done to the rows of a key that the batch does not name is of no concern to it. -/
theorem execute_local_atomic (t : Tables) (now : UInt64) (commands : List Command)
    (hkeys : ∀ c ∈ commands, NulFree c.key) :
    let named := commands.map Command.key
    let after := t.answer now (.execute commands)
    (∀ t' : Tables, t.AgreeOn named t' →
      let after' := t'.answer now (.execute commands)
      after'.2 = after.2 ∧ after.1.AgreeOn named after'.1) ∧
    (∀ name b, ¬ Covers named name b → (after.1.table name).get? b = (t.table name).get? b) ∧
    (∀ e, after.2 = .error e → after.1 = t) ∧
    ∀ j, NulFree j → j ∉ named → ∀ t' : Tables,
      (∀ name b, ¬ Belongs j name b → (t.table name).get? b = (t'.table name).get? b) →
      let after' := t'.answer now (.execute commands)
      after'.2 = after.2 ∧
        (∀ name b, Belongs j name b → (after'.1.table name).get? b = (t'.table name).get? b) ∧
        ∀ name b, ¬ Belongs j name b →
          (after'.1.table name).get? b = (after.1.table name).get? b := by
  intro named after
  have hnamed : ∀ c ∈ commands, c.key ∈ named := fun c hc => List.mem_map_of_mem hc
  have hnul : ∀ k ∈ named, NulFree k := by
    intro k hk
    obtain ⟨c, hc, rfl⟩ := List.mem_map.1 hk
    exact hkeys c hc
  refine ⟨fun t' h => execute_congr h now hnamed, fun name b hb => t.execute_frame now hnamed hb,
    fun e he => t.execute_error now he, ?_⟩
  intro j hj hout t' h after'
  have hagree : t.AgreeOn named t' := fun name b hb =>
    h name b fun hj' => not_covers hnul hj hout hj' hb
  obtain ⟨hreply, hrows⟩ := execute_congr hagree now hnamed
  refine ⟨hreply, fun name b hb => ?_, fun name b hb => ?_⟩
  · exact t'.execute_frame now hnamed (not_covers hnul hj hout hb)
  · by_cases hcovered : Covers named name b
    · exact (hrows name b hcovered).symm
    · -- neither of the two batches touches the row
      calc (after'.1.table name).get? b
        _ = (t'.table name).get? b := t'.execute_frame now hnamed hcovered
        _ = (t.table name).get? b := (h name b hb).symm
        _ = (after.1.table name).get? b := (t.execute_frame now hnamed hcovered).symm

/-- A malformed row of `jobs` does not stop a batch on `a`.  A batch that names `jobs` in its last
    command fails on it, and then its first command has not written either. -/
theorem execute_local_atomic_malformed :
    let t : Tables :=
      { Tables.empty with scores := Tables.empty.scores.insert (setStart "jobs") [] }
    let batch : List Command := [.set "a" [1] none, .rank "b" "m" 5]
    (t.answer 7 (.execute batch)).2 = .ok .done ∧
      (t.answer 7 (.execute batch)).1.scores.get? (setStart "jobs") = some [] ∧
      t.answer 7 (.execute (batch ++ [.unrankRange "jobs" 0 9]))
        = (t, .error (.corrupt "jobs" .malformedScoreEntry)) := by
  intro t batch
  have hrow : ∀ name b, ¬ Belongs "jobs" name b →
      (Tables.empty.table name).get? b = (t.table name).get? b := by
    intro name b hb
    cases name with
    | values => rfl
    | members => rfl
    | scores =>
      have hne : b ≠ setStart "jobs" := fun h => hb (h ▸ List.prefix_rfl)
      exact ((OrderedMap.get?_insert _ _ _ _).trans (if_neg hne)).symm
  obtain ⟨-, -, -, hother⟩ := execute_local_atomic Tables.empty 7 batch (by decide)
  obtain ⟨hreply, hrows, -⟩ := hother "jobs" (by decide) (by decide) t hrow
  obtain ⟨-, -, hatomic, -⟩ :=
    execute_local_atomic t 7 (batch ++ [.unrankRange "jobs" 0 9]) (by decide)
  refine ⟨hreply.trans (by decide), (hrows .scores _ List.prefix_rfl).trans (by decide), ?_⟩
  have herror : (t.answer 7 (.execute (batch ++ [.unrankRange "jobs" 0 9]))).2
      = .error (.corrupt "jobs" .malformedScoreEntry) := by decide
  exact Prod.ext (hatomic _ herror) herror

end Tables

end JobResults.Embedded
