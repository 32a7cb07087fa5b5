import Mathlib.Data.List.Perm.Basic
import JobResults.Proofs.Embedded.Locality

/-!
  # The order of a commit

  Writes that address no row twice may be done in any order (`Tables.writeAll_perm`).  A view is a
  map of maps, whose entries may come in any order when it is committed (`Staged.Enumerates`).  The
  commit of a batch on keys without NUL addresses no row twice, so it ends in the same tables for
  all these orders (`Tables.commit_in_any_order`).  Nothing is said about the rows that the batch
  has read: they may be malformed, or give a member several scores.
-/

namespace JobResults.Embedded

open Bytes (ofString)

/-! ### Writes in any order -/

namespace Tables

/-- Writes that address no row twice leave the same rows in any order. -/
theorem writeAll_perm (t : Tables) {writes writes' : List RowWrite} (hperm : writes'.Perm writes)
    (hnodup : (writes.map RowWrite.address).Nodup) : t.writeAll writes' = t.writeAll writes := by
  have haddresses := hperm.map RowWrite.address
  refine eq_of_get? fun name b => ?_
  by_cases hb : (name, b) ∈ writes.map RowWrite.address
  · obtain ⟨w, hw, hplace⟩ := List.mem_map.1 hb
    obtain ⟨rfl, rfl⟩ := Prod.mk.inj hplace
    rw [t.get?_writeAll_of_mem hnodup hw,
      t.get?_writeAll_of_mem (haddresses.nodup_iff.2 hnodup) (hperm.mem_iff.2 hw)]
  · have hb' : (name, b) ∉ writes'.map RowWrite.address := fun h => hb (haddresses.mem_iff.1 h)
    rw [t.get?_writeAll_of_not_mem hb, t.get?_writeAll_of_not_mem hb']

end Tables

/-! ### Views in any order -/

namespace Staged

/-- The row writes for members of a set. -/
def setWrites (key : String) (members : List (String × MemberState)) : List RowWrite :=
  members.flatMap fun m => memberWrites key m.1 m.2

/-- The row writes of a view, if its maps give their entries in these orders. -/
def writesInOrder (values : List (String × Option Bytes))
    (sets : List (String × List (String × MemberState))) : List RowWrite :=
  values.map (fun v => ⟨.values, ofString v.1, v.2⟩)
    ++ sets.flatMap fun set => setWrites set.1 set.2

/-- Orders in which the maps of a view may give their entries. -/
structure Enumerates (s : Staged) (values : List (String × Option Bytes))
    (sets : List (String × List (String × MemberState))) : Prop where
  values : values.Perm s.values.toList
  keys : (sets.map (·.1)).Perm (s.sets.toList.map (·.1))
  members : ∀ set ∈ sets, set.2.Perm (s.set set.1).toList

variable {s : Staged} {values : List (String × Option Bytes)}
  {sets : List (String × List (String × MemberState))}

theorem writes_eq (s : Staged) :
    s.writes = s.values.toList.map (fun v => ⟨.values, ofString v.1, v.2⟩)
      ++ (s.sets.toList.map (·.1)).flatMap fun k => setWrites k (s.set k).toList := by
  rw [writes, List.flatMap_map]
  congr 1
  refine List.flatMap_congr fun e he => ?_
  rw [Staged.set, OrderedMap.get?_eq_some_iff.2 he]
  rfl

/-- All orders give the same writes. -/
theorem Enumerates.perm_writes (h : s.Enumerates values sets) :
    (writesInOrder values sets).Perm s.writes := by
  have hmembers : (sets.flatMap fun set => setWrites set.1 set.2).Perm
      (sets.flatMap fun set => setWrites set.1 (s.set set.1).toList) :=
    List.Perm.flatMap_left _ fun set hset => (h.members set hset).flatMap_right _
  have hkeys := h.keys.flatMap_right fun k => setWrites k (s.set k).toList
  rw [List.flatMap_map] at hkeys
  rw [writes_eq]
  exact (h.values.map _).append (hmembers.trans hkeys)

end Staged

/-! ### Commits in any order -/

/-- In any tables, the commit of a batch that could be staged addresses no row twice.  So in
    whatever order the view gives its entries, it is the same tables that it ends in. -/
theorem Tables.commit_in_any_order (t : Tables) (now : UInt64) (commands : List Command)
    (hkeys : ∀ c ∈ commands, NulFree c.key) (s : Staged)
    (hs : Staged.empty.applyAll t now commands = .ok s) :
    (s.writes.map RowWrite.address).Nodup ∧
      ∀ values sets, s.Enumerates values sets →
        ((Staged.writesInOrder values sets).map RowWrite.address).Nodup ∧
          t.execute now commands = .ok (t.writeAll (Staged.writesInOrder values sets)) := by
  have hwithin : s.Within (commands.map Command.key) :=
    (Staged.within_empty _).applyAll (fun c hc => List.mem_map_of_mem hc) hs
  have hnamed : ∀ k m state, (s.set k).get? m = some state → NulFree k := by
    intro k m state hm
    obtain ⟨c, hc, rfl⟩ := List.mem_map.1 (hwithin.key_mem hm)
    exact hkeys c hc
  have hnodup := Staged.nodup_addresses hnamed
  refine ⟨hnodup, fun values sets h => ?_⟩
  have hperm := h.perm_writes
  refine ⟨(hperm.map RowWrite.address).nodup_iff.2 hnodup, ?_⟩
  rw [t.writeAll_perm hperm hnodup, execute, hs]
  rfl

/-- The table gives `a` two scores, of which the batch removes one and sets the other.  Going through
    the maps backwards makes no difference. -/
theorem Tables.commit_in_any_order_two_scores :
    let t : Tables :=
      { Tables.empty with
        scores := (Tables.empty.scores.insert (scoreKey "index" 5 "a") []).insert
          (scoreKey "index" 9 "a") [] }
    let batch : List Command :=
      [.unrankRange "index" 0 6, .rank "index" "a" 9, .rank "index" "b" 2, .set "job" [1] none]
    ∃ s, Staged.empty.applyAll t 7 batch = .ok s ∧
      (s.writes.map RowWrite.address).Nodup ∧
      t.execute 7 batch = .ok (t.writeAll (Staged.writesInOrder s.values.toList.reverse
        (s.sets.toList.map fun e => (e.1, e.2.toList.reverse)).reverse)) := by
  intro t batch
  have hstaged : ∃ s, Staged.empty.applyAll t 7 batch = .ok s := ⟨_, rfl⟩
  obtain ⟨s, hs⟩ := hstaged
  obtain ⟨hnodup, horder⟩ := t.commit_in_any_order 7 batch (by decide) s hs
  refine ⟨s, hs, hnodup, (horder _ _ ⟨List.reverse_perm _, ?_, ?_⟩).2⟩
  · rw [List.map_reverse, List.map_map]
    exact List.reverse_perm _
  · intro set hset
    obtain ⟨e, he, rfl⟩ := List.mem_map.1 (List.mem_reverse.1 hset)
    rw [Staged.set, OrderedMap.get?_eq_some_iff.2 he]
    exact List.reverse_perm _

end JobResults.Embedded
