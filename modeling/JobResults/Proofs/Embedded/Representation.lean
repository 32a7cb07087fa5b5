import JobResults.Proofs.Contents
import JobResults.Proofs.Embedded.Entries
import JobResults.Proofs.OrderedMap

/-!
  # What the tables represent

  Tables keep contents when `values` has one row for every value, and `scores` and `members` have
  one row each for every member of a set, and none has any other row.  The names of sets hold no
  NUL.  Where no key of a value holds NUL either, the tables represent the contents, which then
  determine them (`Represents.unique`).

  In tables that keep contents all reads of values and members succeed and answer from the contents
  (`Keeps.get`, `Keeps.memberScore`).  A reader of a set goes by what its rows start with; it finds
  the rows of this set, all of which can be decoded, provided that no other set has rows that start
  so (`Alone`; `Keeps.scanSet`, `Keeps.range`).  Eviction drops the expired values and nothing else
  (`Keeps.evict`).
-/

namespace JobResults.Embedded

open Bytes (ofString)
open Memory (Ranked)

abbrev Dated := UInt64 × Bytes

/-- The value that is kept for a payload written at an instant. -/
def stamp (now : UInt64) (payload : Bytes) (ttl : Option Duration) : Dated :=
  (expiry now ttl, payload)

def Dated.row (v : Dated) : Bytes := encodeValue v.1 v.2

def Dated.isExpired (now : UInt64) (v : Dated) : Bool := Embedded.isExpired v.1 now

/-- The tables have exactly the rows of the contents, whose sets have names without NUL. -/
structure Tables.Keeps (t : Tables) (c : Contents Dated) : Prop where
  values : ∀ b row, t.values.get? b = some row ↔
    ∃ k v, c.value k = some v ∧ b = ofString k ∧ row = v.row
  scores : ∀ b row, t.scores.get? b = some row ↔
    ∃ k m s, c.score k m = some s ∧ b = scoreKey k s m ∧ row = []
  members : ∀ b row, t.members.get? b = some row ↔
    ∃ k m s, c.score k m = some s ∧ b = memberKey k m ∧ row = encodeScore s
  named : ∀ {k m s}, c.score k m = some s → NulFree k
  exclusive : c.Exclusive

/-- Nothing at all is kept under a key with NUL in it. -/
structure Tables.Represents (t : Tables) (c : Contents Dated) : Prop extends t.Keeps c where
  namedValue : ∀ {k v}, c.value k = some v → NulFree k

/-- No member of another set has a row that starts like the rows of this set. -/
def Alone (c : Contents Dated) (key : String) : Prop :=
  ∀ k m s, c.score k m = some s → setStart key <+: scoreKey k s m → k = key

/-! ### Rows that decode -/

/-- A reader that accepts every item of a list reads them all. -/
theorem mapM_map_eq_ok {α β γ ε : Type} {encode : β → α} {read : α → Except ε γ} {found : β → γ}
    (h : ∀ b, read (encode b) = .ok (found b)) (l : List β) :
    (l.map encode).mapM read = .ok (l.map found) := by
  induction l with
  | nil => rfl
  | cons b l ih =>
    rw [List.map_cons, List.mapM_cons, h, ih]
    rfl

/-- The row of a member in `scores`. -/
def scoreRow (set : String) (r : Ranked) : Bytes × Bytes := (scoreKey set r.score r.member, [])

namespace Tables

variable {t t' : Tables} {c : Contents Dated}

/-- Tables with the same rows are the same. -/
theorem eq_of_get? (h : ∀ name b, (t.table name).get? b = (t'.table name).get? b) : t = t' := by
  have hvalues : t.values = t'.values := OrderedMap.ext_get? (h .values)
  have hscores : t.scores = t'.scores := OrderedMap.ext_get? (h .scores)
  have hmembers : t.members = t'.members := OrderedMap.ext_get? (h .members)
  cases t
  cases t'
  simp_all

/-! ### Contents -/

theorem Represents.empty : Tables.empty.Represents Contents.empty where
  values b row := by simp [Tables.empty, Contents.empty]
  scores b row := by simp [Tables.empty, Contents.empty]
  members b row := by simp [Tables.empty, Contents.empty]
  named hs := by cases hs
  exclusive := Contents.exclusive_empty
  namedValue hv := by cases hv

/-- Contents determine the tables that represent them. -/
theorem Represents.unique (h : t.Represents c) (h' : t'.Represents c) : t = t' := by
  refine eq_of_get? fun name b => Option.ext fun row => ?_
  cases name with
  | values => exact (h.values b row).trans (h'.values b row).symm
  | scores => exact (h.scores b row).trans (h'.scores b row).symm
  | members => exact (h.members b row).trans (h'.members b row).symm

namespace Keeps

/-! ### Single rows -/

theorem get?_value (h : t.Keeps c) (k : String) :
    t.values.get? (ofString k) = (c.value k).map Dated.row := by
  refine Option.ext fun row => ?_
  rw [h.values, Option.map_eq_some_iff]
  constructor
  · rintro ⟨j, v, hv, hkey, rfl⟩
    obtain rfl : k = j := Bytes.ofString_inj hkey
    exact ⟨v, hv, rfl⟩
  · rintro ⟨v, hv, rfl⟩
    exact ⟨k, v, hv, rfl, rfl⟩

theorem get?_score (h : t.Keeps c) {k : String} (hk : NulFree k) (m : String) (s : Score) :
    t.scores.get? (scoreKey k s m) = if c.score k m = some s then some [] else none := by
  split
  · next hs => exact (h.scores _ _).2 ⟨k, m, s, hs, rfl, rfl⟩
  · next hs =>
    rw [Option.eq_none_iff_forall_ne_some]
    intro row hrow
    obtain ⟨j, m', s', hs', hkey, -⟩ := (h.scores _ _).1 hrow
    obtain ⟨rfl, rfl, rfl⟩ := scoreKey_inj hk (h.named hs') hkey
    exact hs hs'

theorem get?_member (h : t.Keeps c) {k : String} (hk : NulFree k) (m : String) :
    t.members.get? (memberKey k m) = (c.score k m).map encodeScore := by
  refine Option.ext fun row => ?_
  rw [h.members, Option.map_eq_some_iff]
  constructor
  · rintro ⟨j, m', s, hs, hkey, rfl⟩
    obtain ⟨rfl, rfl⟩ := memberKey_inj hk (h.named hs) hkey
    exact ⟨s, hs, rfl⟩
  · rintro ⟨s, hs, rfl⟩
    exact ⟨k, m, s, hs, rfl, rfl⟩

/-- Tables represent contents that tell all their rows. -/
theorem of_rows
    (hvalue : ∀ k, t.values.get? (ofString k) = (c.value k).map Dated.row)
    (hscore : ∀ {k}, NulFree k → ∀ m s,
      t.scores.get? (scoreKey k s m) = if c.score k m = some s then some [] else none)
    (hmember : ∀ {k}, NulFree k → ∀ m,
      t.members.get? (memberKey k m) = (c.score k m).map encodeScore)
    (hvalues : ∀ b row, t.values.get? b = some row → ∃ k, b = ofString k)
    (hscores : ∀ b row, t.scores.get? b = some row → ∃ k m s, NulFree k ∧ b = scoreKey k s m)
    (hmembers : ∀ b row, t.members.get? b = some row → ∃ k m, NulFree k ∧ b = memberKey k m)
    (named : ∀ {k m s}, c.score k m = some s → NulFree k) (exclusive : c.Exclusive) :
    t.Keeps c := by
  refine ⟨fun b row => ⟨fun hrow => ?_, ?_⟩, fun b row => ⟨fun hrow => ?_, ?_⟩,
    fun b row => ⟨fun hrow => ?_, ?_⟩, named, exclusive⟩
  · obtain ⟨k, rfl⟩ := hvalues b row hrow
    rw [hvalue, Option.map_eq_some_iff] at hrow
    obtain ⟨v, hv, rfl⟩ := hrow
    exact ⟨k, v, hv, rfl, rfl⟩
  · rintro ⟨k, v, hv, rfl, rfl⟩
    rw [hvalue, hv, Option.map_some]
  · obtain ⟨k, m, s, hk, rfl⟩ := hscores b row hrow
    rw [hscore hk] at hrow
    split at hrow
    · next hs => exact ⟨k, m, s, hs, rfl, (Option.some.inj hrow).symm⟩
    · cases hrow
  · rintro ⟨k, m, s, hs, rfl, rfl⟩
    rw [hscore (named hs), if_pos hs]
  · obtain ⟨k, m, hk, rfl⟩ := hmembers b row hrow
    rw [hmember hk, Option.map_eq_some_iff] at hrow
    obtain ⟨s, hs, rfl⟩ := hrow
    exact ⟨k, m, s, hs, rfl, rfl⟩
  · rintro ⟨k, m, s, hs, rfl, rfl⟩
    rw [hmember (named hs), hs, Option.map_some]

theorem get (h : t.Keeps c) (now : UInt64) (k : String) :
    t.get now k = .ok (c.payload Prod.snd (Dated.isExpired now) k) := by
  rw [Tables.get, h.get?_value, Contents.payload]
  cases c.value k with
  | none => rfl
  | some v =>
    simp only [Option.map_some, Dated.row, decodeValue?_encodeValue]
    rfl

theorem memberScore (h : t.Keeps c) {k : String} (hk : NulFree k) (m : String) :
    t.memberScore k m = .ok (c.score k m) := by
  rw [Tables.memberScore, h.get?_member hk]
  cases c.score k m with
  | none => rfl
  | some s => simp only [Option.map_some, decodeScore?_encodeScore]

/-! ### The rows of a set -/

/-- A set whose name holds no NUL stands alone. -/
theorem alone (h : t.Keeps c) {k : String} (hk : NulFree k) : Alone c k := by
  intro j m s hs hstart
  rw [scoreKey_eq] at hstart
  exact (eq_of_starts hk (h.named hs) hstart).symm

/-- All rows of a set that stands alone can be read. -/
theorem wellFormed (h : t.Keeps c) {k : String} (hk : Alone c k) : t.WellFormed k := by
  intro b row hrow hstart
  obtain ⟨j, m, s, hs, rfl, -⟩ := (h.scores b row).1 hrow
  obtain rfl : j = k := hk j m s hs hstart
  exact ⟨s, m, rfl⟩

theorem mem_scan (h : t.Keeps c) {k : String} (hk : Alone c k) {row : Bytes × Bytes} :
    row ∈ t.scores.scan (setStart k) ↔
      ∃ r : Ranked, c.score k r.member = some r.score ∧ row = scoreRow k r := by
  rw [mem_scan_iff, h.scores]
  obtain ⟨b, content⟩ := row
  constructor
  · rintro ⟨⟨j, m, s, hs, hkey, rfl⟩, rest, hrest⟩
    obtain rfl : j = k := hk j m s hs ⟨rest, hrest.symm.trans hkey⟩
    exact ⟨⟨s, m⟩, hs, Prod.ext hkey rfl⟩
  · rintro ⟨r, hs, hrow⟩
    obtain ⟨rfl, rfl⟩ := Prod.mk.inj hrow
    exact ⟨⟨k, r.member, r.score, hs, rfl, rfl⟩, _, scoreKey_eq k r.score r.member⟩

/-- The rows of a set are those of its entries, in order. -/
theorem scan_eq (h : t.Keeps c) {k : String} (hk : Alone c k) :
    t.scores.scan (setStart k) = (t.entries k).map (scoreRow k) := by
  have hrows : t.scores.scan (setStart k)
      = ((t.scores.scan (setStart k)).map (·.1)).map fun b => (b, []) := by
    rw [List.map_map]
    refine (List.map_id _).symm.trans (List.map_congr_left fun row hrow => ?_)
    obtain ⟨r, -, rfl⟩ := (h.mem_scan hk).1 hrow
    rfl
  rw [hrows, (h.wellFormed hk).keys_eq, List.map_map]
  rfl

theorem mem_entries (h : t.Keeps c) {k : String} (hk : Alone c k) (r : Ranked) :
    r ∈ t.entries k ↔ c.score k r.member = some r.score := by
  rw [mem_entries_iff]
  constructor
  · rintro ⟨row, hrow⟩
    obtain ⟨j, m, s, hs, hkey, -⟩ := (h.scores _ row).1 hrow
    have hstart : setStart k <+: scoreKey j s m := by
      rw [← hkey, scoreKey_eq]
      exact List.prefix_append _ _
    obtain rfl : j = k := hk j m s hs hstart
    obtain ⟨-, rfl, rfl⟩ := scoreKey_inj (h.named hs) (h.named hs) hkey
    exact hs
  · intro hs
    exact ⟨[], (h.scores _ _).2 ⟨k, r.member, r.score, hs, rfl, rfl⟩⟩

theorem scanSet (h : t.Keeps c) {k : String} (hk : Alone c k) :
    t.scanSet k = .ok ((t.entries k).map fun r => (r.score, r.member)) := by
  rw [Tables.scanSet, h.scan_eq hk]
  refine mapM_map_eq_ok (fun r => ?_) _
  simp only [scoreRow, decodeScoreKey?_scoreKey]

/-- A set has at most one entry for a member. -/
theorem find?_entry (h : t.Keeps c) {k : String} (hk : Alone c k) (m : String) :
    ((t.entries k).map fun r => (r.score, r.member)).find? (·.2 = m)
      = (c.score k m).map fun s => (s, m) := by
  have hmem : ∀ s m', (s, m') ∈ (t.entries k).map (fun r => (r.score, r.member)) ↔
      c.score k m' = some s := by
    intro s m'
    rw [List.mem_map, ← h.mem_entries hk ⟨s, m'⟩]
    constructor
    · rintro ⟨r, hr, heq⟩
      obtain ⟨rfl, rfl⟩ := Prod.mk.inj heq
      exact hr
    · intro hr
      exact ⟨_, hr, rfl⟩
  cases hfind : ((t.entries k).map fun r => (r.score, r.member)).find? (·.2 = m) with
  | none =>
    have hnone : c.score k m = none := by
      rw [Option.eq_none_iff_forall_ne_some]
      intro s hs
      have := List.find?_eq_none.1 hfind (s, m) ((hmem s m).2 hs)
      simp at this
    rw [hnone]
    rfl
  | some e =>
    obtain ⟨s, m'⟩ := e
    obtain rfl : m' = m := by simpa using List.find?_some hfind
    rw [(hmem s m').1 (List.mem_of_find?_eq_some hfind)]
    rfl

/-- The search from the top of a set finds the members with a score in range. -/
theorem range (h : t.Keeps c) {k : String} (hk : Alone c k) (min max : Score) :
    t.range k min max
      = .ok (((t.entries k).filter (Ranked.inRange min max)).reverse.map (·.member)) :=
  (h.wellFormed hk).range_eq_ok min max

/-! ### Eviction -/

theorem expiredRow_row (now : UInt64) (v : Dated) : expiredRow now v.row = v.isExpired now := by
  rw [expiredRow, Dated.row, decodeValue?_encodeValue]
  rfl

/-- Eviction drops the expired values and nothing else. -/
theorem evict (h : t.Keeps c) (now : UInt64) :
    (t.evict now).1.Keeps (c.keepValues fun v => !v.isExpired now) where
  values b row := by
    simp only [Tables.evict, OrderedMap.get?_filter, Option.filter_eq_some_iff, h.values,
      Contents.keepValues]
    constructor
    · rintro ⟨⟨k, v, hv, rfl, rfl⟩, hkeep⟩
      rw [expiredRow_row] at hkeep
      exact ⟨k, v, ⟨hv, hkeep⟩, rfl, rfl⟩
    · rintro ⟨k, v, ⟨hv, hkeep⟩, rfl, rfl⟩
      rw [expiredRow_row]
      exact ⟨⟨k, v, hv, rfl, rfl⟩, hkeep⟩
  scores := h.scores
  members := h.members
  named := h.named
  exclusive := h.exclusive.keepValues _

/-- An eviction counts the values that are gone. -/
theorem evict_count (h : t.Keeps c) (now : UInt64) {ν : Type} {m : OrderedMap String ν}
    (hm : ∀ k, (∃ v, m.get? k = some v) ↔ ∃ v, c.value k = some v ∧ v.isExpired now = true) :
    (t.evict now).2 = m.size := by
  rw [Tables.evict, OrderedMap.size_sub_size_filter]
  symm
  refine OrderedMap.size_eq_of_keys ofString (fun a b => Bytes.ofString_inj) fun b => ?_
  simp only [OrderedMap.get?_filter, Option.filter_eq_some_iff, h.values, hm]
  constructor
  · rintro ⟨row, ⟨k, v, hv, rfl, rfl⟩, hexpired⟩
    rw [expiredRow_row] at hexpired
    exact ⟨k, ⟨v, hv, hexpired⟩, rfl⟩
  · rintro ⟨k, ⟨v, hv, hexpired⟩, rfl⟩
    refine ⟨v.row, ⟨k, v, hv, rfl, rfl⟩, ?_⟩
    rwa [expiredRow_row]

end Keeps

theorem Represents.evict (h : t.Represents c) (now : UInt64) :
    (t.evict now).1.Represents (c.keepValues fun v => !v.isExpired now) where
  toKeeps := h.toKeeps.evict now
  namedValue hv := h.namedValue (Option.eq_some_of_filter_eq_some hv)

end Tables

end JobResults.Embedded
