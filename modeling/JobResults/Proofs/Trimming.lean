import JobResults.Backend
import JobResults.Proofs.Embedded.Reachable
import JobResults.Proofs.Embedded.Trimming
import JobResults.Proofs.Eviction
import JobResults.Proofs.Replay

/-!
  # Trimming sets on both backends

  A removal of a range that a backend accepts takes the entries in range out of its set and leaves
  all values and other sets alone (`Backend.trimmed_of_ok`), as long as every member of the set has
  one score.  In backends that come up by calls on keys without NUL, it has
  (`Backend.Reachable.unambiguous`).  What removals from different sets do adds up
  (`Backend.Trimmed.trans`).
-/

namespace JobResults

open Embedded (Belongs Covers NulFree Tables)
open Memory (Ranked RankedSet)

namespace Backend

/-- The entries of a set, in rank order. -/
def index : Backend → String → List Ranked
  | memory s, key => (s.setAt key).ranking
  | embedded t, key => t.entries key

/-- Every member of a set has one score. -/
def Unambiguous : Backend → String → Prop
  | memory s, key => (s.setAt key).Exact
  | embedded t, key => ((t.entries key).map (·.member)).Nodup

/-- Both backends have the same values. -/
inductive SameValues : Backend → Backend → Prop where
  | memory {s s' : Memory.Store} (values : s'.values = s.values) :
      SameValues (memory s) (memory s')
  | embedded {t t' : Tables} (values : t'.values = t.values) :
      SameValues (embedded t) (embedded t')

/-- Both backends have the same sets, or rows of sets, but for those that belong to the keys. -/
inductive SameSetsBut (keys : List String) : Backend → Backend → Prop where
  | memory {s s' : Memory.Store} (sets : ∀ key, key ∉ keys → s'.sets.get? key = s.sets.get? key) :
      SameSetsBut keys (memory s) (memory s')
  | embedded {t t' : Tables} (rows : ∀ name b, name ≠ .values → ¬ Covers keys name b →
      (t'.table name).get? b = (t.table name).get? b) :
      SameSetsBut keys (embedded t) (embedded t')

/-- The second backend has the sets of the first one, without the entries in range of the sets under
    the keys. -/
structure Trimmed (b : Backend) (keys : List String) (min max : Score) (b' : Backend) :
    Prop where
  others : b.SameSetsBut keys b'
  trimmed : ∀ key ∈ keys, b.Unambiguous key →
    b'.index key = (b.index key).filter fun r => !Score.within min max r.score

/-! ### Adding up -/

theorem SameValues.refl (b : Backend) : b.SameValues b := by
  cases b with
  | memory s => exact .memory rfl
  | embedded t => exact .embedded rfl

theorem SameValues.trans {b b' b'' : Backend} (h : b.SameValues b') (h' : b'.SameValues b'') :
    b.SameValues b'' := by
  cases h with
  | memory values =>
    cases h' with
    | memory values' => exact .memory (values'.trans values)
  | embedded values =>
    cases h' with
    | embedded values' => exact .embedded (values'.trans values)

theorem SameValues.swept {b b' b'' : Backend} {now : Now} {count : Nat} (h : b.SameValues b')
    (h' : b'.Swept now count b'') : b.Swept now count b'' := by
  cases h with
  | memory values =>
    cases h' with
    | memory h' => exact .memory (values ▸ h')
  | embedded values =>
    cases h' with
    | embedded h' => exact .embedded (values ▸ h')

theorem SameSets.refl (b : Backend) : b.SameSets b := by
  cases b with
  | memory s => exact .memory rfl
  | embedded t => exact .embedded rfl rfl

theorem SameSets.but {b b' : Backend} (h : b.SameSets b') (keys : List String) :
    b.SameSetsBut keys b' := by
  cases h with
  | memory sets => exact .memory fun key _ => by rw [sets]
  | embedded scores members =>
    refine .embedded ?_
    intro name b hname _
    cases name with
    | values => exact absurd rfl hname
    | scores => exact congrArg (OrderedMap.get? · b) scores
    | members => exact congrArg (OrderedMap.get? · b) members

theorem SameSetsBut.trans {b b' b'' : Backend} {keys keys' : List String}
    (h : b.SameSetsBut keys b') (h' : b'.SameSetsBut keys' b'') :
    b.SameSetsBut (keys ++ keys') b'' := by
  cases h with
  | memory sets =>
    cases h' with
    | memory sets' =>
      refine .memory ?_
      intro key hkey
      rw [List.mem_append, not_or] at hkey
      rw [sets' key hkey.2, sets key hkey.1]
  | embedded rows =>
    cases h' with
    | embedded rows' =>
      refine .embedded ?_
      intro name b hname hb
      have hfirst : ¬ Covers keys name b := by
        rintro ⟨k, hk, hkb⟩
        exact hb ⟨k, List.mem_append_left _ hk, hkb⟩
      have hsecond : ¬ Covers keys' name b := by
        rintro ⟨k, hk, hkb⟩
        exact hb ⟨k, List.mem_append_right _ hk, hkb⟩
      rw [rows' name b hname hsecond, rows name b hname hfirst]

section

variable {b b' b'' : Backend} {keys keys' : List String} {key : String}

/-- A set under another key has the same entries, and as before every member has one score. -/
theorem SameSetsBut.index_eq (h : b.SameSetsBut keys b') (hkeys : ∀ k ∈ keys, NulFree k)
    (hkey : NulFree key) (hout : key ∉ keys) :
    b'.index key = b.index key ∧ (b.Unambiguous key → b'.Unambiguous key) := by
  cases h with
  | @memory s s' sets =>
    have hat : s'.setAt key = s.setAt key := by
      rw [Memory.Store.setAt, Memory.Store.setAt, sets key hout]
    refine ⟨congrArg RankedSet.ranking hat, ?_⟩
    intro hexact
    rw [Unambiguous, hat]
    exact hexact
  | @embedded t t' rows =>
    have hscan : t'.scores.scan (Embedded.setStart key) = t.scores.scan (Embedded.setStart key) :=
      Tables.scan_congr fun b hb =>
        rows .scores b (by decide) (Embedded.not_covers hkeys hkey hout hb)
    have hentries : t'.entries key = t.entries key := by rw [Tables.entries, hscan, Tables.entries]
    refine ⟨hentries, ?_⟩
    intro hnodup
    rw [Unambiguous, hentries]
    exact hnodup

theorem Trimmed.of_sameSets (h : b.SameSets b') (min max : Score) : b.Trimmed [] min max b' := by
  refine ⟨h.but [], ?_⟩
  intro key hkey
  cases hkey

theorem Trimmed.refl (b : Backend) (min max : Score) : b.Trimmed [] min max b :=
  .of_sameSets (.refl b) min max

theorem Trimmed.trans {min max : Score} (h : b.Trimmed keys min max b')
    (h' : b'.Trimmed keys' min max b'') (hkeys : ∀ k ∈ keys, NulFree k)
    (hkeys' : ∀ k ∈ keys', NulFree k) (hdisjoint : keys.Disjoint keys') :
    b.Trimmed (keys ++ keys') min max b'' := by
  refine ⟨h.others.trans h'.others, ?_⟩
  intro key hkey hone
  rcases List.mem_append.1 hkey with hfirst | hsecond
  · rw [(h'.others.index_eq hkeys' (hkeys key hfirst) (hdisjoint hfirst)).1]
    exact h.trimmed key hfirst hone
  · obtain ⟨hindex, hone'⟩ := h.others.index_eq hkeys (hkeys' key hsecond)
      (fun hfirst => hdisjoint hfirst hsecond)
    rw [← hindex]
    exact h'.trimmed key hsecond (hone' hone)

/-! ### Calls -/

/-- A batch on another key fares the same with the same values and sets under it. -/
theorem SameSetsBut.execute_eq (h : b.SameSetsBut keys b') (hvalues : b.SameValues b')
    (hkeys : ∀ k ∈ keys, NulFree k) (now : Now) {command : Command} (hkey : NulFree command.key)
    (hout : command.key ∉ keys) :
    (b'.answer now (.execute [command])).2 = (b.answer now (.execute [command])).2 := by
  cases h with
  | memory sets => rfl
  | @embedded t t' rows =>
    cases hvalues with
    | embedded values =>
      have hrows : ∀ name b, name ≠ .values → Belongs command.key name b →
          (t.table name).get? b = (t'.table name).get? b := by
        intro name b hname hb
        exact (rows name b hname (Embedded.not_covers hkeys hkey hout hb)).symm
      have hagree : t.AgreeOn [command.key] t' := by
        rintro name b ⟨k, hk, hb⟩
        obtain rfl := List.mem_singleton.1 hk
        cases name with
        | values => exact congrArg (OrderedMap.get? · b) values.symm
        | scores => exact hrows .scores b (by decide) hb
        | members => exact hrows .members b (by decide) hb
      refine (Tables.execute_congr hagree now.wall ?_).1
      intro c hc
      rw [List.mem_singleton.1 hc]
      exact List.mem_cons_self

/-- A call that fails changes nothing. -/
theorem answer_error (b : Backend) (now : Now) (call : StoreCall) {err : StoreError}
    (herr : (b.answer now call).2 = .error err) : (b.answer now call).1 = b := by
  cases b with
  | memory s => cases herr
  | embedded t =>
    refine congrArg embedded ?_
    cases call with
    | get key => rfl
    | range key min max => rfl
    | execute commands => exact t.execute_error now.wall herr
    | ping => rfl
    | evict => cases herr
    | close => rfl

/-- A removal that is accepted trims its set, and does nothing else. -/
theorem trimmed_of_ok (b : Backend) (now : Now) {key : String} (hkey : NulFree key)
    (min max : Score) {a : StoreAnswer}
    (hok : (b.answer now (.execute [.unrankRange key min max])).2 = .ok a) :
    let b' := (b.answer now (.execute [.unrankRange key min max])).1
    b.SameValues b' ∧ b.Trimmed [key] min max b' := by
  cases b with
  | memory s =>
    refine ⟨.memory (s.values_updateSet key _), .memory ?_, ?_⟩
    · intro k hk
      exact s.get?_updateSet_of_ne (fun heq => hk (List.mem_singleton.2 heq)) _
    · intro k hk hexact
      obtain rfl := List.mem_singleton.1 hk
      exact Memory.Store.ranking_trim hexact min max
  | embedded t =>
    simp only [answer, Tables.answer] at hok ⊢
    cases hexecute : t.execute now.wall [.unrankRange key min max] with
    | error err => simp [hexecute] at hok
    | ok t' =>
      have hkeys : ∀ c ∈ [Command.unrankRange key min max], c.key ∈ [key] := by
        intro c hc
        rw [List.mem_singleton.1 hc]
        exact List.mem_cons_self
      refine ⟨.embedded (Tables.values_trim hexecute), .embedded ?_, ?_⟩
      · intro name b _ hb
        have hframe := t.execute_frame now.wall hkeys hb
        simpa only [Tables.answer, hexecute] using hframe
      · intro k hk hone
        obtain rfl := List.mem_singleton.1 hk
        exact Tables.entries_trim hkey hexecute hone

/-- In a backend that has come up by calls on keys without NUL, every member of a set has one
    score. -/
theorem Reachable.unambiguous (h : b.Reachable) (hkey : NulFree key) : b.Unambiguous key := by
  cases h with
  | memory calls => exact (Memory.Store.Recorded.empty.run calls).wellFormed.exact key
  | @embedded t h =>
    obtain ⟨c, hc⟩ := h.represents
    have halone := hc.alone hkey
    have hnodup : (t.entries key).Nodup := by
      refine (t.entries_ascending key).imp ?_
      intro r r' hlt heq
      exact KeyOrder.irrefl r' (heq ▸ hlt)
    refine List.Nodup.map_on ?_ hnodup
    intro r hr r' hr' hmember
    have hscore := (hc.mem_entries halone r).1 hr
    rw [hmember, (hc.mem_entries halone r').1 hr'] at hscore
    cases r
    cases r'
    simp_all

end

end Backend

end JobResults
