import JobResults.Proofs.BackendEquivalence

/-!
  # Evictions

  An eviction takes out the values that are due, and nothing else, from any store in memory and from
  any tables, whatever their rows hold (`Backend.evict_swept`).

  Nobody notices.  Two backends that differ only in values that are due at an instant (`Hides`) give
  the same answers from then on, apart from the number of evicted values, and stay so
  (`Hides.answer`): a value that is due is not shown, and what is written over it or ranked in its
  place does not depend on it (`Backend.evict_unnoticed`).
-/

namespace JobResults

/-! ### Maps with values taken out -/

namespace OrderedMap

variable {κ α : Type} [LT κ] [DecidableEq κ]

/-- The second map lacks some of the hidden values of the first one, and has the same otherwise. -/
def Thinned (hidden : α → Prop) (m m' : OrderedMap κ α) : Prop :=
  ∀ k, m'.get? k = m.get? k ∨ m'.get? k = none ∧ ∃ v, m.get? k = some v ∧ hidden v

/-- The second map is what is left of the first one without the values that are due, which are
    counted. -/
structure Swept (due : α → Prop) (m m' : OrderedMap κ α) (count : Nat) : Prop where
  kept : ∀ k v, m'.get? k = some v ↔ m.get? k = some v ∧ ¬ due v
  counted : ∃ gone : List κ, gone.Nodup ∧ gone.length = count ∧
    ∀ k, k ∈ gone ↔ ∃ v, m.get? k = some v ∧ due v

variable {hidden due : α → Prop} {m m' : OrderedMap κ α}

/-- What is left without the values that are due lacks none but these. -/
theorem Swept.thinned {count : Nat} (h : Swept due m m' count) : Thinned due m m' := by
  intro k
  cases hk : m.get? k with
  | none =>
    left
    rw [Option.eq_none_iff_forall_ne_some]
    intro v hv
    rw [((h.kept k v).1 hv).1] at hk
    cases hk
  | some v =>
    by_cases hdue : due v
    · refine .inr ⟨?_, v, rfl, hdue⟩
      rw [Option.eq_none_iff_forall_ne_some]
      intro w hw
      obtain ⟨hw, hnot⟩ := (h.kept k w).1 hw
      obtain rfl : v = w := Option.some.inj (hk.symm.trans hw)
      exact hnot hdue
    · exact .inl ((h.kept k v).2 ⟨hk, hdue⟩)

variable [KeyOrder κ]

/-! ### Operations on maps -/

namespace Thinned

theorem insert [DecidableLT κ] (h : Thinned hidden m m') (k : κ) (v : α) :
    Thinned hidden (m.insert k v) (m'.insert k v) := by
  intro j
  rw [get?_insert, get?_insert]
  by_cases hj : j = k
  · exact .inl (by rw [if_pos hj, if_pos hj])
  · rw [if_neg hj, if_neg hj]
    exact h j

theorem filter (h : Thinned hidden m m') (p : κ → α → Bool) :
    Thinned hidden (m.filter p) (m'.filter p) := by
  intro k
  rw [get?_filter, get?_filter]
  rcases h k with hsame | ⟨hnone, v, hv, hhidden⟩
  · exact .inl (by rw [hsame])
  · rw [hnone, hv]
    by_cases hp : p k v = true
    · exact .inr ⟨rfl, v, Option.filter_some_pos hp, hhidden⟩
    · exact .inl (Option.filter_some_neg (Bool.eq_false_iff.2 hp)).symm

theorem erase (h : Thinned hidden m m') (k : κ) : Thinned hidden (m.erase k) (m'.erase k) :=
  h.filter _

end Thinned

theorem swept_filter {p : α → Bool} (hp : ∀ v, p v = true ↔ due v) (m : OrderedMap κ α) :
    Swept due m (m.filter fun _ v => !p v) (m.size - (m.filter fun _ v => !p v).size) where
  kept k v := by
    rw [get?_filter, Option.filter_eq_some_iff, ← hp v]
    simp
  counted := by
    refine ⟨(m.filter fun _ v => p v).toList.map (·.1), nodup_keys _, ?_, ?_⟩
    · rw [size_sub_size_filter m fun _ => p, List.length_map]
      rfl
    · intro k
      simp only [mem_keys_iff, get?_filter, Option.filter_eq_some_iff, hp]

theorem filter_filter (m : OrderedMap κ α) (p : κ → α → Bool) :
    (m.filter p).filter p = m.filter p := by
  apply ext_get?
  intro k
  rw [get?_filter, get?_filter, Option.filter_filter]
  simp only [Bool.and_self]

end OrderedMap

/-! ### The store in memory -/

namespace Memory

/-- The value has an expiry, at the instant or before. -/
def Entry.Due (now : Instant) (e : Entry) : Prop :=
  ∃ expires, e.expires = some expires ∧ expires ≤ now

theorem Entry.isExpired_iff (e : Entry) (now : Instant) : e.isExpired now = true ↔ e.Due now := by
  rw [isExpired, Due]
  cases e.expires <;> simp

/-- The second store lacks some of the values that are due in the first one. -/
structure Store.Hides (now : Instant) (s s' : Store) : Prop where
  values : s.values.Thinned (Entry.Due now) s'.values
  sets : s'.sets = s.sets

namespace Store.Hides

variable {now later : Instant} {s s' : Store}

theorem get (h : s.Hides now s') (hle : now ≤ later) (key : String) :
    s'.get later key = s.get later key := by
  rw [Store.get, Store.get]
  rcases h.values key with hsame | ⟨hnone, e, he, expires, hexpires, hdue⟩
  · rw [hsame]
  · -- what is gone is not shown where it is still there
    have hexpired : e.isExpired later = true :=
      (e.isExpired_iff later).2 ⟨expires, hexpires, Nat.le_trans hdue hle⟩
    simp only [hnone, he, hexpired, if_true]

theorem range (h : s.Hides now s') (key : String) (min max : Score) :
    s'.range key min max = s.range key min max := by
  rw [Store.range, Store.range, h.sets]

theorem updateSet (h : s.Hides now s') (key : String) (f : RankedSet → RankedSet) :
    (s.updateSet key f).Hides now (s'.updateSet key f) := by
  rw [Store.updateSet, Store.updateSet, h.sets]
  cases s.sets.get? key with
  | none => exact h
  | some set => exact ⟨h.values, rfl⟩

theorem apply (h : s.Hides now s') (instant : Instant) (command : Command) :
    (s.apply instant command).Hides now (s'.apply instant command) := by
  cases command with
  | set key payload ttl =>
    exact ⟨h.values.insert key _, congrArg (OrderedMap.erase · key) h.sets⟩
  | delete key => exact ⟨h.values.erase key, congrArg (OrderedMap.erase · key) h.sets⟩
  | rank key member score =>
    refine ⟨h.values.erase key, ?_⟩
    simp only [Store.apply, h.sets]
  | unrank key member => exact h.updateSet key _
  | unrankRange key min max => exact h.updateSet key _

theorem execute (h : s.Hides now s') (instant : Instant) (commands : List Command) :
    (s.execute instant commands).Hides now (s'.execute instant commands) := by
  induction commands generalizing s s' with
  | nil => exact h
  | cons command commands ih => exact ih (h.apply instant command)

/-- A call from then on leaves the same values hidden, and only an eviction has another answer. -/
theorem answer (h : s.Hides now s') (hle : now ≤ later) (call : StoreCall) :
    (s.answer later call).1.Hides now (s'.answer later call).1 ∧
      (call ≠ .evict → (s'.answer later call).2 = (s.answer later call).2) := by
  cases call with
  | get key => exact ⟨h, fun _ => congrArg StoreAnswer.payload (h.get hle key)⟩
  | range key min max => exact ⟨h, fun _ => congrArg StoreAnswer.members (h.range key min max)⟩
  | execute commands => exact ⟨h.execute later commands, fun _ => rfl⟩
  | ping => exact ⟨h, fun _ => rfl⟩
  | evict => exact ⟨⟨h.values.filter _, h.sets⟩, fun hne => absurd rfl hne⟩
  | close => exact ⟨h, fun _ => rfl⟩

end Store.Hides

end Memory

/-! ### The embedded store -/

namespace Embedded

/-- The row can be decoded, and has an expiry at the instant or before.  Expiry 0 means never. -/
def RowDue (now : UInt64) (row : Bytes) : Prop :=
  ∃ expires payload, decodeValue? row = some (expires, payload) ∧ expires ≠ 0 ∧ expires ≤ now

namespace Tables

theorem expiredRow_iff (now : UInt64) (row : Bytes) :
    expiredRow now row = true ↔ RowDue now row := by
  rw [expiredRow, RowDue]
  cases decodeValue? row with
  | none => simp
  | some v =>
    obtain ⟨expires, payload⟩ := v
    simp [isExpired]

/-- The second tables lack some of the values that are due in the first ones. -/
structure Hides (now : UInt64) (t t' : Tables) : Prop where
  values : t.values.Thinned (RowDue now) t'.values
  scores : t'.scores = t.scores
  members : t'.members = t.members

namespace Hides

variable {now later : UInt64} {t t' : Tables}

theorem get (h : t.Hides now t') (hle : now ≤ later) (key : String) :
    t'.get later key = t.get later key := by
  rw [Tables.get, Tables.get]
  rcases h.values (Bytes.ofString key) with hsame | ⟨hnone, row, hrow, expires, payload, hdecoded,
    hsome, hdue⟩
  · rw [hsame]
  · have hexpired : isExpired expires later = true := by
      simp [isExpired, hsome, UInt64.le_trans hdue hle]
    simp only [hnone, hrow, hdecoded, hexpired, if_true]

theorem range (h : t.Hides now t') (key : String) (min max : Score) :
    t'.range key min max = t.range key min max := by
  rw [Tables.range, Tables.range, h.scores]

theorem write (h : t.Hides now t') (w : RowWrite) : (t.write w).Hides now (t'.write w) := by
  obtain ⟨name, key, content⟩ := w
  cases name with
  | values =>
    cases content with
    | some row => exact ⟨h.values.insert key row, h.scores, h.members⟩
    | none => exact ⟨h.values.erase key, h.scores, h.members⟩
  | scores => exact ⟨h.values, congrArg (Table.write · key content) h.scores, h.members⟩
  | members => exact ⟨h.values, h.scores, congrArg (Table.write · key content) h.members⟩

theorem writeAll (h : t.Hides now t') (writes : List RowWrite) :
    (t.writeAll writes).Hides now (t'.writeAll writes) := by
  induction writes generalizing t t' with
  | nil => exact h
  | cons w writes ih => exact ih (h.write w)

/-- A batch is staged without a look at values. -/
theorem apply (h : t.Hides now t') (instant : UInt64) (s : Staged) (command : Command) :
    s.apply t' instant command = s.apply t instant command := by
  have hscan : ∀ key, t'.scanSet key = t.scanSet key := by
    intro key
    rw [Tables.scanSet, Tables.scanSet, h.scores]
  have hmember : ∀ key m, t'.memberScore key m = t.memberScore key m := by
    intro key m
    rw [Tables.memberScore, Tables.memberScore, h.members]
  cases command <;>
    simp only [Staged.apply, Staged.clear, Staged.dropPending, Staged.load, Staged.setPending,
      Staged.member, hscan, hmember]

theorem applyAll (h : t.Hides now t') (instant : UInt64) (s : Staged) (commands : List Command) :
    s.applyAll t' instant commands = s.applyAll t instant commands := by
  have hstep : Staged.apply t' instant = Staged.apply t instant := funext₂ (h.apply instant)
  rw [Staged.applyAll, Staged.applyAll, hstep]

/-- A call from then on leaves the same values hidden, and only an eviction has another answer. -/
theorem answer (h : t.Hides now t') (hle : now ≤ later) (call : StoreCall) :
    (t.answer later call).1.Hides now (t'.answer later call).1 ∧
      (call ≠ .evict → (t'.answer later call).2 = (t.answer later call).2) := by
  cases call with
  | get key => exact ⟨h, fun _ => by simp only [Tables.answer, h.get hle key]⟩
  | range key min max => exact ⟨h, fun _ => by simp only [Tables.answer, h.range key min max]⟩
  | execute commands =>
    simp only [Tables.answer, Tables.execute, h.applyAll]
    cases Staged.empty.applyAll t later commands with
    | error e => exact ⟨h, fun _ => rfl⟩
    | ok s => exact ⟨h.writeAll s.writes, fun _ => rfl⟩
  | ping => exact ⟨h, fun _ => rfl⟩
  | evict => exact ⟨⟨h.values.filter _, h.scores, h.members⟩, fun hne => absurd rfl hne⟩
  | close => exact ⟨h, fun _ => rfl⟩

end Hides

end Tables

end Embedded

/-! ### Both backends -/

namespace Backend

/-- The reading of the clock on which a backend measures expiry. -/
def reading : Backend → Now → Nat
  | memory _, now => now.monotonic
  | embedded _, now => now.wall.toNat

theorem reading_answer (b : Backend) (now : Now) (call : StoreCall) :
    (b.answer now call).1.reading = b.reading := by
  cases b <;> rfl

/-- The second backend lacks some of the values that are due in the first one. -/
inductive Hides (now : Now) : Backend → Backend → Prop where
  | memory {s s' : Memory.Store} (h : s.Hides now.monotonic s') : Hides now (memory s) (memory s')
  | embedded {t t' : Embedded.Tables} (h : t.Hides now.wall t') :
      Hides now (embedded t) (embedded t')

/-- The second backend is left of the first one when the values that are due are taken out. -/
inductive Swept (now : Now) (count : Nat) : Backend → Backend → Prop where
  | memory {s s' : Memory.Store}
      (h : s.values.Swept (Memory.Entry.Due now.monotonic) s'.values count) :
      Swept now count (memory s) (memory s')
  | embedded {t t' : Embedded.Tables}
      (h : t.values.Swept (Embedded.RowDue now.wall) t'.values count) :
      Swept now count (embedded t) (embedded t')

/-- Both backends have the same sets, or the same rows of sets. -/
inductive SameSets : Backend → Backend → Prop where
  | memory {s s' : Memory.Store} (sets : s'.sets = s.sets) : SameSets (memory s) (memory s')
  | embedded {t t' : Embedded.Tables} (scores : t'.scores = t.scores)
      (members : t'.members = t.members) : SameSets (embedded t) (embedded t')

/-- An eviction succeeds, takes out the values that are due and nothing else, and counts them. -/
theorem evict_swept (b : Backend) (now : Now) :
    ∃ count, (b.answer now .evict).2 = .ok (.evicted count) ∧
      b.Swept now count (b.answer now .evict).1 ∧ b.SameSets (b.answer now .evict).1 := by
  cases b with
  | memory s =>
    refine ⟨_, rfl, .memory ?_, .memory rfl⟩
    exact OrderedMap.swept_filter (fun e => e.isExpired_iff now.monotonic) s.values
  | embedded t =>
    refine ⟨_, rfl, .embedded ?_, .embedded rfl rfl⟩
    exact OrderedMap.swept_filter (Embedded.Tables.expiredRow_iff now.wall) t.values

theorem Swept.hides {b b' : Backend} {now : Now} {count : Nat} (h : b.Swept now count b')
    (hsets : b.SameSets b') : b.Hides now b' := by
  cases h with
  | memory h =>
    cases hsets with
    | memory sets => exact .memory ⟨h.thinned, sets⟩
  | embedded h =>
    cases hsets with
    | embedded scores members => exact .embedded ⟨h.thinned, scores, members⟩

/-- A second eviction at the same instant finds nothing. -/
theorem evict_again (b : Backend) (now : Now) :
    (b.answer now .evict).1.answer now .evict = ((b.answer now .evict).1, .ok (.evicted 0)) := by
  cases b <;>
    simp only [answer, Memory.Store.answer, Memory.Store.evict, Embedded.Tables.answer,
      Embedded.Tables.evict, OrderedMap.filter_filter, Nat.sub_self]

theorem Hides.answer {b b' : Backend} {now later : Now} (h : b.Hides now b')
    (hle : b.reading now ≤ b.reading later) (call : StoreCall) :
    (b.answer later call).1.Hides now (b'.answer later call).1 ∧
      (call ≠ .evict → (b'.answer later call).2 = (b.answer later call).2) := by
  cases h with
  | memory h =>
    obtain ⟨hhides, hanswer⟩ := h.answer hle call
    exact ⟨.memory hhides, fun hne => congrArg Except.ok (hanswer hne)⟩
  | embedded h =>
    obtain ⟨hhides, hanswer⟩ := h.answer (UInt64.le_iff_toNat_le.2 hle) call
    exact ⟨.embedded hhides, hanswer⟩

/-! ### Runs of calls -/

/-- Among the answers to calls from then on, only those to evictions differ. -/
theorem Hides.answers {b b' : Backend} {now : Now} (h : b.Hides now b')
    (calls : List (Now × StoreCall)) (hlater : ∀ e ∈ calls, b.reading now ≤ b.reading e.1)
    {i : Nat} {e : Now × StoreCall} (he : calls[i]? = some e) (hcall : e.2 ≠ .evict) :
    ∃ a, (b.answers calls)[i]? = some a ∧ (b'.answers calls)[i]? = some a := by
  induction calls generalizing b b' i with
  | nil => simp at he
  | cons first calls ih =>
    obtain ⟨hhides, hanswer⟩ := h.answer (hlater first List.mem_cons_self) first.2
    cases i with
    | zero =>
      obtain rfl : first = e := by simpa using he
      exact ⟨_, rfl, congrArg some (hanswer hcall)⟩
    | succ i =>
      have hrest : ∀ e ∈ calls, (b.answer first.1 first.2).1.reading now
          ≤ (b.answer first.1 first.2).1.reading e.1 := by
        intro e he
        rw [reading_answer]
        exact hlater e (List.mem_cons_of_mem _ he)
      exact ih hhides hrest (by simpa using he)

/-- On any backend, whatever its values and rows, an eviction takes out the values that are due and
    nothing else, and counts them.  A second one at the same instant finds none.  In the calls from
    then on, only evictions are answered otherwise than without it. -/
theorem evict_unnoticed (b : Backend) (now : Now) (calls : List (Now × StoreCall))
    (hlater : ∀ e ∈ calls, b.reading now ≤ b.reading e.1) :
    let after := b.answer now .evict
    (∀ (i : Nat) e, calls[i]? = some e → e.2 ≠ .evict →
      ∃ a, (b.answers calls)[i]? = some a ∧ (after.1.answers calls)[i]? = some a) ∧
    (∃ count, after.2 = .ok (.evicted count) ∧ b.Swept now count after.1 ∧ b.SameSets after.1) ∧
    after.1.answer now .evict = (after.1, .ok (.evicted 0)) := by
  intro after
  obtain ⟨count, hanswer, hswept, hsets⟩ := b.evict_swept now
  refine ⟨?_, ⟨count, hanswer, hswept, hsets⟩, b.evict_again now⟩
  intro i e he hcall
  exact (hswept.hides hsets).answers calls hlater he hcall

/-- A value that is due stands in the way of nobody, also not of the set that its key gets.  A
    malformed row is no value that is due, and is still reported. -/
theorem evict_unnoticed_malformed :
    let t : Embedded.Tables :=
      { Embedded.Tables.empty with
        values := .ofList [(Bytes.ofString "old", Embedded.encodeValue 5 [1]),
          (Bytes.ofString "older", Embedded.encodeValue 4 [2]), (Bytes.ofString "torn", [9]),
          (Bytes.ofString "kept", Embedded.encodeValue 0 [3])] }
    let calls : List (Now × StoreCall) :=
      [(⟨7, 7⟩, .get "old"), (⟨7, 7⟩, .execute [.rank "old" "m" 3]), (⟨8, 8⟩, .range "old" 0 9),
        (⟨7, 7⟩, .get "torn"), (⟨9, 9⟩, .evict), (⟨9, 9⟩, .get "kept")]
    let answers (count : Nat) : List (Except StoreError StoreAnswer) :=
      [.ok (.payload none), .ok .done, .ok (.members ["m"]), .error (.corrupt "torn" .shortValue),
        .ok (.evicted count), .ok (.payload (some [3]))]
    let after := (embedded t).answer ⟨7, 7⟩ .evict
    after.2 = .ok (.evicted 2) ∧ (embedded t).answers calls = answers 1 ∧
      after.1.answers calls = answers 0 ∧
      after.1.answer ⟨7, 7⟩ .evict = (after.1, .ok (.evicted 0)) := by
  intro t calls answers after
  obtain ⟨-, -, hagain⟩ := evict_unnoticed (embedded t) ⟨7, 7⟩ calls (by decide)
  exact ⟨by decide, by decide, by decide, hagain⟩

end Backend

end JobResults
