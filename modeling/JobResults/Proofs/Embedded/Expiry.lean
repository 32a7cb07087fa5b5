import JobResults.Proofs.Embedded.Reachable
import JobResults.Proofs.Memory.History

/-!
  # How long a value lasts

  The expiry of a value is a word in front of its payload, and 0 there means never.  The time to
  live and its sum with the reading of the clock both stop at the last word (`expiry_eq_clamp`).
  Compared with any reading but the last word, it says what the sum of unbounded numbers would say,
  which counts as 1 if it is 0 (`dueFrom`, `isExpired_expiry_iff`).

  Nothing is relied upon about the other rows of the tables, and nothing about keys.  A batch that
  succeeds does to the row of a value what its commands do one after the other
  (`Tables.valueRow_execute`).  In a run of calls, the row under a key that no command replaces goes
  when an eviction finds it expired, and not otherwise (`Tables.valueRow_run`).  So a value lasts
  from its write until it is due and no longer, or for ever if it was written without a time to live
  (`Tables.value_lasts`).
-/

namespace JobResults

/-- Whether a command writes the value under a key or removes it. -/
def Command.Replaces (key : String) : Command → Prop
  | .set k _ _ => k = key
  | .delete k => k = key
  | .rank k _ _ => k = key
  | .unrank _ _ => False
  | .unrankRange _ _ _ => False

instance (key : String) : (c : Command) → Decidable (c.Replaces key)
  | .set k _ _ => inferInstanceAs (Decidable (k = key))
  | .delete k => inferInstanceAs (Decidable (k = key))
  | .rank k _ _ => inferInstanceAs (Decidable (k = key))
  | .unrank _ _ => .isFalse id
  | .unrankRange _ _ _ => .isFalse id

theorem Command.onValue_of_not_replaces {ν : Type} (stamp : Bytes → Option Duration → ν)
    {key : String} {c : Command} (h : ¬ c.Replaces key) : c.onValue stamp key = .same := by
  unfold onValue
  by_cases hkey : key = c.key
  · cases c with
    | set k payload ttl => exact absurd hkey.symm h
    | delete k => exact absurd hkey.symm h
    | rank k member score => exact absurd hkey.symm h
    | unrank k member => exact if_pos hkey
    | unrankRange k min max => exact if_pos hkey
  · exact if_neg hkey

namespace Embedded

open Bytes (ofString)

/-! ### The expiry as a word -/

/-- The instant from which a value with a time to live is due: the exact sum, but at least 1 and at
    most the last word. -/
def dueFrom (written : UInt64) (ttl : Duration) : Nat :=
  min (max 1 (written.toNat + ttl.nanos)) (2 ^ 64 - 1)

theorem toNat_expiry (written : UInt64) (ttl : Duration) :
    (expiry written (some ttl)).toNat = dueFrom written ttl := by
  rw [expiry, UInt64.toNat_ofNat', dueFrom, Nat.mod_eq_of_lt (by omega)]
  omega

/-- To stop at the last word with the time to live and again with the sum is to stop there once. -/
theorem expiry_eq_clamp (written : UInt64) (ttl : Duration) :
    expiry written (some ttl)
      = max 1 (.ofNatClamp (written.toNat + (UInt64.ofNatClamp ttl.nanos).toNat)) := by
  have hsize : UInt64.size = 2 ^ 64 := rfl
  have hclamp : ∀ n, (UInt64.ofNatClamp n).toNat = min (2 ^ 64 - 1) n := by
    intro n
    by_cases hn : n < UInt64.size
    · rw [UInt64.toNat_ofNatClamp_of_lt hn]
      omega
    · rw [UInt64.toNat_ofNatClamp_of_le (Nat.not_lt.1 hn)]
      omega
  apply UInt64.toNat_inj.1
  rw [toNat_expiry, dueFrom, UInt64.toNat_max, hclamp, hclamp]
  have hone : (1 : UInt64).toNat = 1 := rfl
  omega

theorem isExpired_expiry_iff (written now : UInt64) (ttl : Duration) :
    isExpired (expiry written (some ttl)) now = true ↔ dueFrom written ttl ≤ now.toNat := by
  have hword := toNat_expiry written ttl
  have hnonzero : expiry written (some ttl) ≠ 0 := by
    intro hzero
    rw [hzero, UInt64.toNat_zero, dueFrom] at hword
    omega
  rw [isExpired, Bool.and_eq_true, bne_iff_ne, decide_eq_true_eq, UInt64.le_iff_toNat_le, hword]
  exact and_iff_right hnonzero

/-! ### Rows of values in a view -/

/-- The row that is written for a payload. -/
def stampRow (now : UInt64) (payload : Bytes) (ttl : Option Duration) : Bytes :=
  encodeValue (expiry now ttl) payload

namespace Staged

variable {t : Tables} {s s' : Staged}

theorem SameBut.valueRow {key : String} (h : s.SameBut key s') (t : Tables) (k : String) :
    s'.valueRow t k = s.valueRow t k := by
  rw [Staged.valueRow, h.values, Staged.valueRow]

theorem valueRow_putValue (t : Tables) (s : Staged) (key : String) (row : Option Bytes)
    (k : String) : (s.putValue key row).valueRow t k = if k = key then row else s.valueRow t k := by
  rw [valueRow, putValue, OrderedMap.get?_insert]
  split
  · rfl
  · rfl

/-- A command that can be staged does to the row of a value what it does to values. -/
theorem valueRow_apply {now : UInt64} {command : Command} (h : s.apply t now command = .ok s')
    (k : String) :
    s'.valueRow t k = (command.onValue (stampRow now) k).apply (s.valueRow t k) := by
  have hcleared : ∀ {key : String} {row : Option Bytes},
      (s.clear t key).map (·.putValue key row) = .ok s' →
        s'.valueRow t k = if k = key then row else s.valueRow t k := by
    intro key row h
    obtain ⟨s₁, hclear, rfl⟩ := exists_of_map_eq_ok h
    rw [valueRow_putValue, (sameBut_dropPending hclear).valueRow]
  cases command with
  | set key payload ttl =>
    rw [hcleared h]
    by_cases hk : k = key
    · simp [Command.onValue, Command.key, hk, Revision.apply, stampRow]
    · simp [Command.onValue, Command.key, hk]
  | delete key =>
    rw [hcleared h]
    by_cases hk : k = key
    · simp [Command.onValue, Command.key, hk, Revision.apply]
    · simp [Command.onValue, Command.key, hk]
  | rank key member score =>
    rw [(sameBut_setPending h).valueRow, valueRow_putValue]
    by_cases hk : k = key
    · simp [Command.onValue, Command.key, hk, Revision.apply]
    · simp [Command.onValue, Command.key, hk]
  | unrank key member =>
    rw [(sameBut_setPending h).valueRow]
    simp [Command.onValue]
  | unrankRange key min max =>
    rw [(sameBut_dropPending h).valueRow]
    simp [Command.onValue]

theorem valueRow_applyAll {now : UInt64} {commands : List Command}
    (h : s.applyAll t now commands = .ok s') (k : String) :
    s'.valueRow t k
      = commands.foldl (fun row c => (c.onValue (stampRow now) k).apply row) (s.valueRow t k) := by
  induction commands generalizing s with
  | nil =>
    cases h
    rfl
  | cons command commands ih =>
    obtain ⟨s₁, hfirst, hrest⟩ := exists_of_applyAll_cons h
    rw [ih hrest, List.foldl_cons, valueRow_apply hfirst]

end Staged

namespace Tables

variable {t t' : Tables} {key : String}

/-! ### Rows of values after calls -/

/-- A batch that succeeds does to the row of a value what its commands do, one after the other. -/
theorem valueRow_execute {now : UInt64} {commands : List Command}
    (h : t.execute now commands = .ok t') (k : String) :
    t'.values.get? (ofString k)
      = commands.foldl (fun row c => (c.onValue (stampRow now) k).apply row)
          (t.values.get? (ofString k)) := by
  obtain ⟨s, hstaged, rfl⟩ := exists_of_map_eq_ok h
  rw [Staged.valueRow_writes, Staged.valueRow_applyAll hstaged]
  rfl

theorem foldl_onValue_of_not_replaces (now : UInt64) {commands : List Command}
    (h : ∀ c ∈ commands, ¬ c.Replaces key) (row : Option Bytes) :
    commands.foldl (fun row c => (c.onValue (stampRow now) key).apply row) row = row := by
  induction commands with
  | nil => rfl
  | cons command commands ih =>
    rw [List.foldl_cons, Command.onValue_of_not_replaces _ (h command List.mem_cons_self),
      Revision.apply_same]
    exact ih fun c hc => h c (List.mem_cons_of_mem _ hc)

/-- The last value that a batch writes under a key is there after the batch. -/
theorem valueRow_set {now : UInt64} {payload : Bytes} {ttl : Option Duration}
    {before later : List Command} (hlater : ∀ c ∈ later, ¬ c.Replaces key)
    (h : t.execute now (before ++ .set key payload ttl :: later) = .ok t') :
    t'.values.get? (ofString key) = some (stampRow now payload ttl) := by
  rw [valueRow_execute h, List.foldl_append, List.foldl_cons,
    foldl_onValue_of_not_replaces now hlater]
  simp [Command.onValue, Command.key, Revision.apply]

/-- Of the calls without a command that replaces a value, only an eviction takes its row away, if it
    has expired. -/
theorem valueRow_answer (t : Tables) (now : UInt64) {call : StoreCall}
    (hcall : ∀ c ∈ call.commands, ¬ c.Replaces key) :
    (t.answer now call).1.values.get? (ofString key)
      = (t.values.get? (ofString key)).filter fun row =>
          !(decide (call = .evict) && expiredRow now row) := by
  cases call with
  | execute commands =>
    refine Eq.trans ?_ (Revision.apply_same _).symm
    simp only [answer]
    cases hexecute : t.execute now commands with
    | error e => rfl
    | ok t' =>
      exact (valueRow_execute hexecute key).trans (foldl_onValue_of_not_replaces now hcall _)
  | evict => exact OrderedMap.get?_filter _ _ _
  | get k => exact (Revision.apply_same _).symm
  | range k min max => exact (Revision.apply_same _).symm
  | ping => exact (Revision.apply_same _).symm
  | close => exact (Revision.apply_same _).symm

/-- The tables after calls, each at its instant. -/
def run (t : Tables) (calls : List (UInt64 × StoreCall)) : Tables :=
  calls.foldl (fun t e => (t.answer e.1 e.2).1) t

/-- In a run without a command that replaces a value, its row stays until an eviction finds it
    expired. -/
theorem valueRow_run (t : Tables) {calls : List (UInt64 × StoreCall)}
    (hcalls : ∀ e ∈ calls, ∀ c ∈ e.2.commands, ¬ c.Replaces key) :
    (t.run calls).values.get? (ofString key)
      = (t.values.get? (ofString key)).filter fun row =>
          !calls.any fun e => decide (e.2 = .evict) && expiredRow e.1 row := by
  induction calls generalizing t with
  | nil => exact (Revision.apply_same _).symm
  | cons e calls ih =>
    rw [run, List.foldl_cons]
    refine (ih (t.answer e.1 e.2).1 fun e he => hcalls e (List.mem_cons_of_mem _ he)).trans ?_
    rw [valueRow_answer t e.1 (hcalls e List.mem_cons_self), Option.filter_filter]
    simp only [List.any_cons, Bool.not_or]

/-! ### How long a value lasts -/

/-- Among the calls, no eviction finds a value with this expiry expired. -/
def Spared (expires : UInt64) (calls : List (UInt64 × StoreCall)) : Prop :=
  ∀ e ∈ calls, e.2 = .evict → isExpired expires e.1 = false

instance (expires : UInt64) (calls : List (UInt64 × StoreCall)) :
    Decidable (Spared expires calls) :=
  inferInstanceAs (Decidable (∀ e ∈ calls, e.2 = .evict → isExpired expires e.1 = false))

section

variable {written : UInt64} {payload : Bytes} {ttl : Option Duration}
  {calls : List (UInt64 × StoreCall)}

theorem expiredRow_stampRow (written now : UInt64) (payload : Bytes) (ttl : Option Duration) :
    expiredRow now (stampRow written payload ttl) = isExpired (expiry written ttl) now :=
  Keeps.expiredRow_row now (stamp written payload ttl)

theorem valueRow_run_of_set (h : t.values.get? (ofString key) = some (stampRow written payload ttl))
    (hcalls : ∀ e ∈ calls, ∀ c ∈ e.2.commands, ¬ c.Replaces key) :
    (t.run calls).values.get? (ofString key)
      = if Spared (expiry written ttl) calls then some (stampRow written payload ttl)
        else none := by
  have hspared : (!calls.any fun e => decide (e.2 = .evict) &&
      expiredRow e.1 (stampRow written payload ttl)) = true
        ↔ Spared (expiry written ttl) calls := by
    simp [Spared, expiredRow_stampRow]
  rw [valueRow_run t hcalls, h]
  by_cases hkept : Spared (expiry written ttl) calls
  · rw [if_pos hkept]
    exact Option.filter_some_pos (hspared.2 hkept)
  · rw [if_neg hkept]
    exact Option.filter_some_neg (Bool.eq_false_iff.2 fun hall => hkept (hspared.1 hall))

/-- An eviction leaves a row that is there and has not expired. -/
theorem valueRow_evict {present : Prop} [Decidable present]
    (h : t.values.get? (ofString key)
      = if present then some (stampRow written payload ttl) else none) (now : UInt64) :
    (t.evict now).1.values.get? (ofString key)
      = if present ∧ isExpired (expiry written ttl) now = false then
          some (stampRow written payload ttl) else none := by
  rw [evict, OrderedMap.get?_filter, h]
  by_cases hpresent : present
  · cases hexpired : isExpired (expiry written ttl) now <;>
      simp [hpresent, expiredRow_stampRow, hexpired]
  · simp [hpresent]

/-- A payload is read from a row that is there and has not expired. -/
theorem get_of_valueRow {present : Prop} [Decidable present]
    (h : t.values.get? (ofString key)
      = if present then some (stampRow written payload ttl) else none) (now : UInt64) :
    t.get now key
      = .ok (if present ∧ isExpired (expiry written ttl) now = false then some payload
        else none) := by
  rw [get, h]
  by_cases hpresent : present
  · cases hexpired : isExpired (expiry written ttl) now <;>
      simp [hpresent, stampRow, decodeValue?_encodeValue, hexpired]
  · simp [hpresent]

/-- Without a time to live a value lasts for ever. -/
theorem lasts_without_ttl
    (h : t.values.get? (ofString key) = some (stampRow written payload none))
    (hcalls : ∀ e ∈ calls, ∀ c ∈ e.2.commands, ¬ c.Replaces key) (instant : UInt64) :
    (t.run calls).get instant key = .ok (some payload) ∧
      ((t.run calls).evict instant).1.values.get? (ofString key)
        = some (stampRow written payload none) := by
  have hrun := valueRow_run_of_set h hcalls
  have hnever : ∀ now, isExpired (expiry written none) now = false := fun _ => rfl
  have hshown : Spared (expiry written none) calls ∧
      isExpired (expiry written none) instant = false :=
    ⟨fun e _ _ => hnever e.1, hnever instant⟩
  constructor
  · rw [get_of_valueRow hrun, if_pos hshown]
  · rw [valueRow_evict hrun, if_pos hshown]

/-- With a time to live it goes with the first eviction that finds it due, and is read until it is
    due.  Evictions later than the instant that is looked at, on a clock that goes back, have not
    taken it already. -/
theorem lasts_until_due {ttl : Duration}
    (h : t.values.get? (ofString key) = some (stampRow written payload (some ttl)))
    (hcalls : ∀ e ∈ calls, ∀ c ∈ e.2.commands, ¬ c.Replaces key) :
    ((t.run calls).values.get? (ofString key) = some (stampRow written payload (some ttl)) ↔
      ∀ e ∈ calls, e.2 = .evict → e.1.toNat < dueFrom written ttl) ∧
    ∀ instant : UInt64,
      (∀ e ∈ calls, e.2 = .evict → instant < e.1 → e.1.toNat < dueFrom written ttl) →
      (t.run calls).get instant key
          = .ok (if instant.toNat < dueFrom written ttl then some payload else none) ∧
        ((t.run calls).evict instant).1.values.get? (ofString key)
          = if instant.toNat < dueFrom written ttl then some (stampRow written payload (some ttl))
            else none := by
  have hrun := valueRow_run_of_set h hcalls
  have hbefore : ∀ now, isExpired (expiry written (some ttl)) now = false ↔
      now.toNat < dueFrom written ttl := fun now => by
    rw [← Bool.not_eq_true, isExpired_expiry_iff, Nat.not_le]
  have hspared : Spared (expiry written (some ttl)) calls ↔
      ∀ e ∈ calls, e.2 = .evict → e.1.toNat < dueFrom written ttl :=
    forall₃_congr fun e _ _ => hbefore e.1
  refine ⟨by rw [hrun, ← hspared]; simp, fun instant hlater => ?_⟩
  -- what is not due at the instant was not due at the evictions up to it
  have hshown : Spared (expiry written (some ttl)) calls ∧
      isExpired (expiry written (some ttl)) instant = false
        ↔ instant.toNat < dueFrom written ttl := by
    rw [hspared, hbefore]
    refine ⟨And.right, fun hlt => ⟨fun e he hevict => ?_, hlt⟩⟩
    by_cases hle : e.1 ≤ instant
    · exact Nat.lt_of_le_of_lt (UInt64.le_iff_toNat_le.1 hle) hlt
    · exact hlater e he hevict (UInt64.not_le.1 hle)
  constructor
  · rw [get_of_valueRow hrun]
    simp only [hshown]
  · rw [valueRow_evict hrun]
    simp only [hshown]

end

/-- A value that a batch writes, in any tables and under any key, lasts over all calls until a
    command replaces it or its time to live has passed.  Its row holds a sum of words that stop at
    the last one, and still it is read, and left by evictions, exactly below the sum of unbounded
    numbers, which counts as 1 if it is 0.  Only at the last word it is always due.  Without a time
    to live it is never hidden or dropped.  In tables that come up, the batch succeeds. -/
theorem value_lasts (t : Tables) (now : UInt64) (key : String) (payload : Bytes)
    (ttl : Option Duration) (before later : List Command) (calls : List (UInt64 × StoreCall))
    (hlater : ∀ c ∈ later, ¬ c.Replaces key)
    (hcalls : ∀ e ∈ calls, ∀ c ∈ e.2.commands, ¬ c.Replaces key) :
    let batch := before ++ .set key payload ttl :: later
    let written := t.answer now (.execute batch)
    let current := written.1.run calls
    (t.Reachable → (∀ c ∈ batch, NulFree c.key) → written.2 = .ok .done) ∧
    (written.2 = .ok .done →
      (ttl = none → ∀ instant,
        current.get instant key = .ok (some payload) ∧
        (current.evict instant).1.values.get? (ofString key) = some (encodeValue 0 payload)) ∧
      ∀ span, ttl = some span →
        let due := max 1 (now.toNat + span.nanos)
        let word := max 1 (.ofNatClamp (now.toNat + (UInt64.ofNatClamp span.nanos).toNat))
        let row := encodeValue word payload
        (current.values.get? (ofString key) = some row ↔
          ∀ e ∈ calls, e.2 = .evict → e.1.toNat < min due (2 ^ 64 - 1)) ∧
        ∀ instant : UInt64, instant.toNat < 2 ^ 64 - 1 →
          (∀ e ∈ calls, e.2 = .evict → instant < e.1 → e.1.toNat < min due (2 ^ 64 - 1)) →
          current.get instant key = .ok (if instant.toNat < due then some payload else none) ∧
          (current.evict instant).1.values.get? (ofString key)
            = if instant.toNat < due then some row else none) := by
  intro batch written current
  constructor
  · intro hreach hkeys
    obtain ⟨c, hc⟩ := hreach.represents
    obtain ⟨t', hexecute, -⟩ := hc.execute now hkeys
    simp only [written, answer, hexecute]
  · intro hdone
    have hrow : written.1.values.get? (ofString key) = some (stampRow now payload ttl) := by
      simp only [written, answer] at hdone ⊢
      cases hexecute : t.execute now batch with
      | error e => simp [hexecute] at hdone
      | ok t' => exact valueRow_set hlater hexecute
    constructor
    · rintro rfl instant
      exact lasts_without_ttl hrow hcalls instant
    · rintro span rfl due word row
      have hstored : stampRow now payload (some span) = row := by
        rw [stampRow, expiry_eq_clamp]
      obtain ⟨hkept, huntil⟩ := lasts_until_due hrow hcalls
      refine ⟨hstored ▸ hkept, fun instant hlast hevictions => ?_⟩
      have hdue : instant.toNat < dueFrom now span ↔ instant.toNat < due := by
        rw [dueFrom, Nat.lt_min, and_iff_left hlast]
      rw [← hstored]
      simpa only [hdue] using huntil instant hevictions

/-- The longest time to live, three nanoseconds before the last word and behind an eviction at the
    last instant but one, does not wrap.  The shortest one, at the first instant, does not mean
    never. -/
theorem value_lasts_saturated :
    let batch : List Command := [.rank "job" "m" 3, .set "job" [7] (some .max), .unrank "job" "m"]
    let calls : List (UInt64 × StoreCall) :=
      [(18446744073709551613, .execute [.set "other" [1] none, .unrankRange "job" 0 9]),
        (18446744073709551614, .evict)]
    let long := (Tables.empty.answer 18446744073709551613 (.execute batch)).1.run calls
    let short := (Tables.empty.answer 0 (.execute [.set "job" [7] (some .zero)])).1
    long.get 18446744073709551614 "job" = .ok (some [7]) ∧
      short.get 0 "job" = .ok (some [7]) ∧ short.get 1 "job" = .ok none ∧
      (short.evict 0).1.values.get? (ofString "job") = some [0, 0, 0, 0, 0, 0, 0, 1, 7] ∧
      (short.evict 1).1.values.get? (ofString "job") = none := by
  intro batch calls long short
  obtain ⟨hlong, hlasts⟩ := value_lasts Tables.empty 18446744073709551613 "job" [7] (some .max)
    [.rank "job" "m" 3] [.unrank "job" "m"] calls (by decide) (by decide)
  obtain ⟨hshort, hpasses⟩ := value_lasts Tables.empty 0 "job" [7] (some .zero) [] [] []
    (by decide) (by decide)
  obtain ⟨-, huntil⟩ := hlasts (hlong .empty (by decide))
  obtain ⟨-, hbrief⟩ := hpasses (hshort .empty (by decide))
  obtain ⟨hread, hkept⟩ := (hbrief .zero rfl).2 0 (by decide) (by decide)
  obtain ⟨hhidden, hgone⟩ := (hbrief .zero rfl).2 1 (by decide) (by decide)
  obtain ⟨hget, -⟩ := (huntil .max rfl).2 18446744073709551614 (by decide) (by decide)
  exact ⟨hget, hread, hhidden, hkept, hgone⟩

end Tables

end Embedded

end JobResults
