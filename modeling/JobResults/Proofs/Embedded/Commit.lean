import Mathlib.Data.List.Nodup
import JobResults.Proofs.Embedded.Staging

/-!
  # Committing a view

  A commit addresses no row twice (`nodup_addresses`), so it does not matter in which order it
  writes, and each row that it addresses ends as the view has it.  When the view over tables that
  keep `base` shows `current`, the tables keep `current` after the commit (`Shows.commit`).

  The row of a value ends as the view has it in any tables, and for names with NUL too
  (`valueRow_writes`).
-/

namespace JobResults.Embedded

open Bytes (ofString)

/-! ### Writing rows -/

def RowWrite.address (w : RowWrite) : TableName × Bytes := (w.table, w.key)

namespace Tables

theorem get?_write (t : Tables) (w : RowWrite) (name : TableName) (b : Bytes) :
    ((t.write w).table name).get? b
      = if w.address = (name, b) then w.content else (t.table name).get? b := by
  obtain ⟨table, key, content⟩ := w
  have hrow : ∀ rows : Table,
      (rows.write key content).get? b = if b = key then content else rows.get? b := by
    intro rows
    cases content with
    | some row => exact OrderedMap.get?_insert rows key b row
    | none => exact OrderedMap.get?_erase rows key b
  simp only [RowWrite.address, Prod.mk.injEq, eq_comm (a := key)]
  cases table <;> cases name <;> simp [Tables.write, Tables.table, hrow]

theorem get?_writeAll_of_not_mem {name : TableName} {b : Bytes} (t : Tables)
    {writes : List RowWrite} (h : (name, b) ∉ writes.map RowWrite.address) :
    ((t.writeAll writes).table name).get? b = (t.table name).get? b := by
  induction writes generalizing t with
  | nil => rfl
  | cons w writes ih =>
    rw [List.map_cons, List.mem_cons, not_or] at h
    rw [Tables.writeAll, List.foldl_cons]
    exact (ih (t.write w) h.2).trans (by rw [get?_write, if_neg (Ne.symm h.1)])

/-- A write has its effect if all writes to its row agree with it. -/
theorem get?_writeAll_of_agree (t : Tables) {writes : List RowWrite} {w : RowWrite}
    (hw : w ∈ writes) (hagree : ∀ v ∈ writes, v.address = w.address → v.content = w.content) :
    ((t.writeAll writes).table w.table).get? w.key = w.content := by
  induction writes generalizing t w with
  | nil => cases hw
  | cons v writes ih =>
    rw [Tables.writeAll, List.foldl_cons]
    by_cases hlater : w.address ∈ writes.map RowWrite.address
    · obtain ⟨u, hu, hsame⟩ := List.mem_map.1 hlater
      have hcontent : u.content = w.content := hagree u (List.mem_cons_of_mem _ hu) hsame
      have hrest := ih (t.write v) hu fun x hx hxu =>
        (hagree x (List.mem_cons_of_mem _ hx) (hxu.trans hsame)).trans hcontent.symm
      obtain ⟨htable, hkey⟩ := Prod.mk.inj hsame
      rw [htable, hkey, hcontent] at hrest
      exact hrest
    · rcases List.mem_cons.1 hw with rfl | hin
      · exact (get?_writeAll_of_not_mem (t.write w) hlater).trans
          (by rw [get?_write, RowWrite.address, if_pos rfl])
      · exact absurd (List.mem_map_of_mem hin) hlater

/-- Of writes that address no row twice, each has its effect. -/
theorem get?_writeAll_of_mem (t : Tables) {writes : List RowWrite} {w : RowWrite}
    (hnodup : (writes.map RowWrite.address).Nodup) (hw : w ∈ writes) :
    ((t.writeAll writes).table w.table).get? w.key = w.content :=
  t.get?_writeAll_of_agree hw fun _ hv hsame =>
    congrArg RowWrite.content (List.inj_on_of_nodup_map hnodup hv hw hsame)

end Tables

namespace Staged

/-! ### The writes of a view -/

theorem mem_memberWrites_iff {k m : String} {state : MemberState} {w : RowWrite} :
    w ∈ memberWrites k m state ↔
      (∃ old, state.stored = some old ∧ state.pending ≠ some old ∧
        w = ⟨.scores, scoreKey k old m, none⟩) ∨
      (∃ score, state.pending = some score ∧
        (w = ⟨.scores, scoreKey k score m, some []⟩ ∨
          w = ⟨.members, memberKey k m, some (encodeScore score)⟩)) ∨
      (state.pending = none ∧ state.stored ≠ none ∧ w = ⟨.members, memberKey k m, none⟩) := by
  obtain ⟨stored, pending⟩ := state
  cases stored with
  | none => cases pending <;> simp [memberWrites]
  | some old =>
    cases pending with
    | none => simp [memberWrites]
    | some score =>
      by_cases h : score = old
      · simp [memberWrites, h]
      · simp [memberWrites, h]

theorem mem_writes_iff {s : Staged} {w : RowWrite} :
    w ∈ s.writes ↔
      (∃ k row, s.values.get? k = some row ∧ w = ⟨.values, ofString k, row⟩) ∨
      (∃ k m state, (s.set k).get? m = some state ∧ w ∈ memberWrites k m state) := by
  simp only [writes, List.mem_append, List.mem_map, List.mem_flatMap, Prod.exists,
    ← OrderedMap.get?_eq_some_iff]
  refine or_congr ?_ ?_
  · constructor
    · rintro ⟨k, row, hk, rfl⟩
      exact ⟨k, row, hk, rfl⟩
    · rintro ⟨k, row, hk, rfl⟩
      exact ⟨k, row, hk, rfl⟩
  · constructor
    · rintro ⟨k, set, hset, m, state, hm, hw⟩
      exact ⟨k, m, state, by rwa [Staged.set, hset], hw⟩
    · rintro ⟨k, m, state, hm, hw⟩
      rw [Staged.set] at hm
      cases hset : s.sets.get? k with
      | none => simp [hset] at hm
      | some set => exact ⟨k, set, hset, m, state, by simpa [hset] using hm, hw⟩

/-- The rows that are written for a member belong to it. -/
theorem address_of_mem_memberWrites {k m : String} {state : MemberState}
    {a : TableName × Bytes} (h : a ∈ (memberWrites k m state).map RowWrite.address) :
    (∃ score, a = (.scores, scoreKey k score m)) ∨ a = (.members, memberKey k m) := by
  obtain ⟨w, hw, rfl⟩ := List.mem_map.1 h
  rcases mem_memberWrites_iff.1 hw with ⟨old, -, -, rfl⟩ | ⟨score, -, rfl | rfl⟩ | ⟨-, -, rfl⟩
  · exact .inl ⟨old, rfl⟩
  · exact .inl ⟨score, rfl⟩
  · exact .inr rfl
  · exact .inr rfl

theorem nodup_memberWrites {k : String} (hk : NulFree k) (m : String) (state : MemberState) :
    ((memberWrites k m state).map RowWrite.address).Nodup := by
  obtain ⟨stored, pending⟩ := state
  cases stored with
  | none => cases pending <;> simp [memberWrites, RowWrite.address]
  | some old =>
    cases pending with
    | none => simp [memberWrites, RowWrite.address]
    | some score =>
      by_cases h : score = old
      · simp [memberWrites, RowWrite.address, h]
      · have hkey : scoreKey k old m ≠ scoreKey k score m := by
          intro heq
          exact h (scoreKey_inj hk hk heq).2.1.symm
        simp [memberWrites, RowWrite.address, h, hkey]

/-- Different members share no row. -/
theorem disjoint_memberWrites {k j m m' : String} (hk : NulFree k) (hj : NulFree j)
    (hne : ¬ (k = j ∧ m = m')) (state state' : MemberState) :
    List.Disjoint ((memberWrites k m state).map RowWrite.address)
      ((memberWrites j m' state').map RowWrite.address) := by
  intro a ha ha'
  rcases address_of_mem_memberWrites ha with ⟨score, rfl⟩ | rfl <;>
    rcases address_of_mem_memberWrites ha' with ⟨score', heq⟩ | heq
  · obtain ⟨hkj, -, hm⟩ := scoreKey_inj hk hj (Prod.mk.inj heq).2
    exact hne ⟨hkj, hm⟩
  · cases (Prod.mk.inj heq).1
  · cases (Prod.mk.inj heq).1
  · exact hne (memberKey_inj hk hj (Prod.mk.inj heq).2)

/-- A commit addresses no row twice. -/
theorem nodup_addresses {s : Staged}
    (hnamed : ∀ k m state, (s.set k).get? m = some state → NulFree k) :
    (s.writes.map RowWrite.address).Nodup := by
  have hname : ∀ e ∈ s.sets.toList, ∀ m ∈ e.2.toList, NulFree e.1 := by
    intro e he m hm
    refine hnamed e.1 m.1 m.2 ?_
    rw [Staged.set, OrderedMap.get?_eq_some_iff.2 he]
    exact OrderedMap.get?_eq_some_iff.2 hm
  rw [writes, List.map_append, List.nodup_append']
  refine ⟨?_, ?_, ?_⟩
  · have hkeys : ((s.values.toList.map (·.1)).map fun k =>
        ((.values, ofString k) : TableName × Bytes)).Nodup :=
      List.Nodup.map (fun a b hab => Bytes.ofString_inj (Prod.mk.inj hab).2) s.values.nodup_keys
    simpa [RowWrite.address, Function.comp_def] using hkeys
  · rw [List.map_flatMap, List.nodup_flatMap]
    constructor
    · intro e he
      rw [List.map_flatMap, List.nodup_flatMap]
      refine ⟨fun m hm => nodup_memberWrites (hname e he m hm) m.1 m.2, ?_⟩
      refine List.Pairwise.imp_of_mem (fun {m m'} hm hm' hne => ?_)
        (List.pairwise_map.1 e.2.nodup_keys)
      exact disjoint_memberWrites (hname e he m hm) (hname e he m' hm') (fun h => hne h.2) m.2 m'.2
    · have hpair := List.pairwise_map.1 s.sets.nodup_keys
      refine List.Pairwise.imp_of_mem (fun {e e'} he he' hne => ?_) hpair
      intro a ha ha'
      simp only [List.map_flatMap, List.mem_flatMap] at ha ha'
      obtain ⟨m, hm, ha⟩ := ha
      obtain ⟨m', hm', ha'⟩ := ha'
      exact disjoint_memberWrites (hname e he m hm) (hname e' he' m' hm') (fun h => hne h.1)
        m.2 m'.2 ha ha'
  · intro a ha ha'
    simp only [List.map_map, List.mem_map] at ha
    obtain ⟨v, -, rfl⟩ := ha
    simp only [List.map_flatMap, List.mem_flatMap] at ha'
    obtain ⟨e, -, m, -, ha'⟩ := ha'
    rcases address_of_mem_memberWrites ha' with ⟨score, heq⟩ | heq
    · cases (Prod.mk.inj heq).1
    · cases (Prod.mk.inj heq).1

/-! ### Rows of values after the commit -/

section

variable {s : Staged}

/-- A commit leaves the rows alone that none of its writes addresses. -/
theorem get?_of_unaddressed (t : Tables) (name : TableName) (b : Bytes)
    (h : ∀ content, ⟨name, b, content⟩ ∉ s.writes) :
    ((t.writeAll s.writes).table name).get? b = (t.table name).get? b := by
  refine t.get?_writeAll_of_not_mem fun hmem => ?_
  obtain ⟨⟨table, key, content⟩, hw, heq⟩ := List.mem_map.1 hmem
  obtain ⟨rfl, rfl⟩ := Prod.mk.inj heq
  exact h content hw

theorem mem_value_writes (k : String) (row : Option Bytes) :
    ⟨.values, ofString k, row⟩ ∈ s.writes ↔ s.values.get? k = some row := by
  rw [mem_writes_iff]
  constructor
  · rintro (⟨j, row', hj, heq⟩ | ⟨j, m, state, -, hw⟩)
    · obtain ⟨-, hkey, rfl⟩ := RowWrite.mk.inj heq
      exact Bytes.ofString_inj hkey ▸ hj
    · rcases address_of_mem_memberWrites (List.mem_map_of_mem hw) with ⟨score, heq⟩ | heq <;>
        cases (Prod.mk.inj heq).1
  · intro hk
    exact .inl ⟨k, row, hk, rfl⟩

/-- The row of a value as the view has it. -/
def valueRow (t : Tables) (s : Staged) (key : String) : Option Bytes :=
  (s.values.get? key).getD (t.values.get? (ofString key))

/-- A commit leaves the row of a value as the view has it, whatever else it writes. -/
theorem valueRow_writes (t : Tables) (s : Staged) (k : String) :
    (t.writeAll s.writes).values.get? (ofString k) = s.valueRow t k := by
  rw [valueRow]
  cases hk : s.values.get? k with
  | some row =>
    have hw := (mem_value_writes k row).2 hk
    refine t.get?_writeAll_of_agree hw fun v hv hsame => ?_
    obtain ⟨table, b, content⟩ := v
    obtain ⟨rfl, rfl⟩ := Prod.mk.inj hsame
    exact Option.some.inj (((mem_value_writes k content).1 hv).symm.trans hk)
  | none =>
    refine get?_of_unaddressed t .values (ofString k) fun content hw => ?_
    rw [(mem_value_writes k content).1 hw] at hk
    cases hk

end

/-! ### Rows after the commit -/

namespace Shows

variable {t : Tables} {s : Staged} {base current : Contents Dated}

theorem get?_of_mem (h : s.Shows base current) (t : Tables) {w : RowWrite} (hw : w ∈ s.writes) :
    ((t.writeAll s.writes).table w.table).get? w.key = w.content :=
  t.get?_writeAll_of_mem (nodup_addresses fun _ _ _ => h.named) hw

theorem named_current (ht : t.Keeps base) (h : s.Shows base current) {k m : String} {score : Score}
    (hscore : current.score k m = some score) : NulFree k := by
  cases hm : (s.set k).get? m with
  | some state => exact h.named hm
  | none => exact ht.named (h.untouched hm ▸ hscore)

/-! ### The rows of one key or member -/

/-- A row of a member is written for this member. -/
theorem mem_memberWrites_of_mem (h : s.Shows base current) {w : RowWrite} (hw : w ∈ s.writes)
    (hname : w.table ≠ .values) :
    ∃ k m, (s.set k).get? m = some ⟨base.score k m, current.score k m⟩ ∧
      w ∈ memberWrites k m ⟨base.score k m, current.score k m⟩ := by
  rcases mem_writes_iff.1 hw with ⟨k, row, -, rfl⟩ | ⟨k, m, state, hm, hw⟩
  · exact absurd rfl hname
  · obtain rfl := h.touched hm
    exact ⟨k, m, hm, hw⟩

/-- The row of a score is written if the score comes up or goes. -/
theorem mem_score_writes (h : s.Shows base current) {k : String} (hk : NulFree k) (m : String)
    (score : Score) {content : Option Bytes}
    (hw : ⟨.scores, scoreKey k score m, content⟩ ∈ s.writes) :
    content = if current.score k m = some score then some [] else none := by
  obtain ⟨j, m', hm, hw⟩ := h.mem_memberWrites_of_mem hw nofun
  have hj := h.named hm
  rcases mem_memberWrites_iff.1 hw with
    ⟨old, -, hne, heq⟩ | ⟨score', hpending, heq | heq⟩ | ⟨-, -, heq⟩
  · obtain ⟨-, hkey, rfl⟩ := RowWrite.mk.inj heq
    obtain ⟨rfl, rfl, rfl⟩ := scoreKey_inj hk hj hkey
    exact (if_neg hne).symm
  · obtain ⟨-, hkey, rfl⟩ := RowWrite.mk.inj heq
    obtain ⟨rfl, rfl, rfl⟩ := scoreKey_inj hk hj hkey
    exact (if_pos hpending).symm
  · cases (RowWrite.mk.inj heq).1
  · cases (RowWrite.mk.inj heq).1

/-- The row of a member is written with the score to be. -/
theorem mem_member_writes (h : s.Shows base current) {k : String} (hk : NulFree k) (m : String)
    {content : Option Bytes} (hw : ⟨.members, memberKey k m, content⟩ ∈ s.writes) :
    content = (current.score k m).map encodeScore := by
  obtain ⟨j, m', hm, hw⟩ := h.mem_memberWrites_of_mem hw nofun
  have hj := h.named hm
  rcases mem_memberWrites_iff.1 hw with
    ⟨old, -, -, heq⟩ | ⟨score, hpending, heq | heq⟩ | ⟨hpending, -, heq⟩
  · cases (RowWrite.mk.inj heq).1
  · cases (RowWrite.mk.inj heq).1
  · obtain ⟨-, hkey, rfl⟩ := RowWrite.mk.inj heq
    obtain ⟨rfl, rfl⟩ := memberKey_inj hk hj hkey
    have hscore : current.score k m = some score := hpending
    rw [hscore, Option.map_some]
  · obtain ⟨-, hkey, rfl⟩ := RowWrite.mk.inj heq
    obtain ⟨rfl, rfl⟩ := memberKey_inj hk hj hkey
    have hscore : current.score k m = none := hpending
    rw [hscore, Option.map_none]

/-- A member whose row of a score is not written has this score before and after, or neither. -/
theorem score_iff_of_unwritten (h : s.Shows base current) {k m : String} {score : Score}
    (hout : ∀ content, ⟨.scores, scoreKey k score m, content⟩ ∉ s.writes) :
    base.score k m = some score ↔ current.score k m = some score := by
  cases hm : (s.set k).get? m with
  | none => rw [h.untouched hm]
  | some state =>
    obtain rfl := h.touched hm
    have hunwritten : ∀ content, ⟨.scores, scoreKey k score m, content⟩ ∉
        memberWrites k m ⟨base.score k m, current.score k m⟩ := fun content hw =>
      hout content (mem_writes_iff.2 (.inr ⟨k, m, _, hm, hw⟩))
    have hcurrent : current.score k m ≠ some score := fun hscore =>
      hunwritten (some []) (mem_memberWrites_iff.2 (.inr (.inl ⟨score, hscore, .inl rfl⟩)))
    have hbase : base.score k m ≠ some score := fun hscore =>
      hunwritten none (mem_memberWrites_iff.2 (.inl ⟨score, hscore, hcurrent, rfl⟩))
    exact ⟨fun hscore => absurd hscore hbase, fun hscore => absurd hscore hcurrent⟩

/-- A member whose row is not written has the same score before and after. -/
theorem score_eq_of_unwritten (h : s.Shows base current) {k m : String}
    (hout : ∀ content, ⟨.members, memberKey k m, content⟩ ∉ s.writes) :
    base.score k m = current.score k m := by
  cases hm : (s.set k).get? m with
  | none => exact (h.untouched hm).symm
  | some state =>
    obtain rfl := h.touched hm
    have hunwritten : ∀ content, ⟨.members, memberKey k m, content⟩ ∉
        memberWrites k m ⟨base.score k m, current.score k m⟩ := fun content hw =>
      hout content (mem_writes_iff.2 (.inr ⟨k, m, _, hm, hw⟩))
    -- a score to be would be written, and a stored one without it removed
    have hcurrent : current.score k m = none := by
      rw [Option.eq_none_iff_forall_ne_some]
      intro score hscore
      exact hunwritten (some (encodeScore score))
        (mem_memberWrites_iff.2 (.inr (.inl ⟨score, hscore, .inr rfl⟩)))
    have hbase : base.score k m = none := by
      by_contra hne
      exact hunwritten none (mem_memberWrites_iff.2 (.inr (.inr ⟨hcurrent, hne, rfl⟩)))
    rw [hbase, hcurrent]

/-! ### Tables after the commit -/

/-- A row is written, or it is as it was. -/
theorem get?_commit (h : s.Shows base current) (t : Tables) (name : TableName) (b : Bytes) :
    ⟨name, b, ((t.writeAll s.writes).table name).get? b⟩ ∈ s.writes ∨
      (∀ content, ⟨name, b, content⟩ ∉ s.writes) ∧
        ((t.writeAll s.writes).table name).get? b = (t.table name).get? b := by
  by_cases hb : ∃ content, ⟨name, b, content⟩ ∈ s.writes
  · obtain ⟨content, hw⟩ := hb
    have hget : ((t.writeAll s.writes).table name).get? b = content := h.get?_of_mem t hw
    exact .inl (hget ▸ hw)
  · have hout : ∀ content, ⟨name, b, content⟩ ∉ s.writes := fun content hw => hb ⟨content, hw⟩
    exact .inr ⟨hout, get?_of_unaddressed t name b hout⟩

theorem valueRow_commit (ht : t.Keeps base) (h : s.Shows base current) (k : String) :
    (t.writeAll s.writes).values.get? (ofString k) = (current.value k).map Dated.row := by
  rw [valueRow_writes, valueRow]
  cases hk : s.values.get? k with
  | some row => exact h.written hk
  | none =>
    rw [h.unwritten hk, ← ht.get?_value]
    rfl

theorem scoreRow_commit (ht : t.Keeps base) (h : s.Shows base current) {k : String}
    (hk : NulFree k) (m : String) (score : Score) :
    (t.writeAll s.writes).scores.get? (scoreKey k score m)
      = if current.score k m = some score then some [] else none := by
  rcases h.get?_commit t .scores (scoreKey k score m) with hw | ⟨hout, hget⟩
  · exact h.mem_score_writes hk m score hw
  · simp only [← h.score_iff_of_unwritten hout]
    rw [← ht.get?_score hk]
    exact hget

theorem memberRow_commit (ht : t.Keeps base) (h : s.Shows base current) {k : String}
    (hk : NulFree k) (m : String) :
    (t.writeAll s.writes).members.get? (memberKey k m) = (current.score k m).map encodeScore := by
  rcases h.get?_commit t .members (memberKey k m) with hw | ⟨hout, hget⟩
  · exact h.mem_member_writes hk m hw
  · rw [← h.score_eq_of_unwritten hout, ← ht.get?_member hk]
    exact hget

/-- After the commit the tables keep what the view showed. -/
theorem commit (ht : t.Keeps base) (h : s.Shows base current)
    (hexclusive : current.Exclusive) : (t.writeAll s.writes).Keeps current := by
  refine Tables.Keeps.of_rows (h.valueRow_commit ht) (fun hk => h.scoreRow_commit ht hk)
    (fun hk => h.memberRow_commit ht hk) ?_ ?_ ?_ (named_current ht h) hexclusive
  · intro b row hrow
    rcases h.get?_commit t .values b with hw | ⟨-, hget⟩
    · rcases mem_writes_iff.1 hw with ⟨k, _, -, heq⟩ | ⟨k, m, state, -, hw⟩
      · exact ⟨k, (RowWrite.mk.inj heq).2.1⟩
      · rcases address_of_mem_memberWrites (List.mem_map_of_mem hw) with ⟨score, heq⟩ | heq <;>
          cases (Prod.mk.inj heq).1
    · obtain ⟨k, v, -, hkey, -⟩ := (ht.values b row).1 (hget.symm.trans hrow)
      exact ⟨k, hkey⟩
  · intro b row hrow
    rcases h.get?_commit t .scores b with hw | ⟨-, hget⟩
    · obtain ⟨k, m, hm, hw⟩ := h.mem_memberWrites_of_mem hw nofun
      rcases address_of_mem_memberWrites (List.mem_map_of_mem hw) with ⟨score, heq⟩ | heq
      · exact ⟨k, m, score, h.named hm, (Prod.mk.inj heq).2⟩
      · cases (Prod.mk.inj heq).1
    · obtain ⟨k, m, score, hs, hkey, -⟩ := (ht.scores b row).1 (hget.symm.trans hrow)
      exact ⟨k, m, score, ht.named hs, hkey⟩
  · intro b row hrow
    rcases h.get?_commit t .members b with hw | ⟨-, hget⟩
    · obtain ⟨k, m, hm, hw⟩ := h.mem_memberWrites_of_mem hw nofun
      rcases address_of_mem_memberWrites (List.mem_map_of_mem hw) with ⟨score, heq⟩ | heq
      · cases (Prod.mk.inj heq).1
      · exact ⟨k, m, h.named hm, (Prod.mk.inj heq).2⟩
    · obtain ⟨k, m, score, hs, hkey, -⟩ := (ht.members b row).1 (hget.symm.trans hrow)
      exact ⟨k, m, ht.named hs, hkey⟩

end Shows

end Staged

/-! ### Whole batches -/

namespace Tables

variable {t : Tables} {c : Contents Dated}

/-- A batch of commands that go by their own rows succeeds, and takes the tables to the contents
    after it. -/
theorem Keeps.execute (ht : t.Keeps c) (now : UInt64) {commands : List Command}
    (hfits : ∀ command ∈ commands, Staged.Fits c command) :
    ∃ t', t.execute now commands = .ok t' ∧ t'.Keeps (c.applyAll (stamp now) commands) := by
  obtain ⟨s, happly, hs⟩ := (Staged.Shows.empty c).applyAll ht now hfits
  refine ⟨t.writeAll s.writes, ?_, hs.commit ht (ht.exclusive.applyAll (stamp now) commands)⟩
  rw [Tables.execute, happly]
  rfl

/-- A batch succeeds and takes the tables to the contents after it. -/
theorem Represents.execute (ht : t.Represents c) (now : UInt64) {commands : List Command}
    (hkeys : ∀ command ∈ commands, NulFree command.key) :
    ∃ t', t.execute now commands = .ok t' ∧
      t'.Represents (c.applyAll (stamp now) commands) := by
  obtain ⟨t', hexecute, hkeeps⟩ := ht.toKeeps.execute now fun command hc =>
    Staged.fits_of_nulFree ht.toKeeps (hkeys command hc)
  refine ⟨t', hexecute, hkeeps, fun hv => ?_⟩
  rcases Contents.value_applyAll hv with hbefore | ⟨command, hc, rfl⟩
  · exact ht.namedValue hbefore
  · exact hkeys command hc

end Tables

end JobResults.Embedded
