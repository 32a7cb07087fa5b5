/-!
  # Finite maps in ascending key order

  A map is the list of its entries, kept strictly ascending by key.  The order is part of the
  type, so two maps are equal exactly when every key has the same value in both
  (`OrderedMap.ext_get?`).  Each operation comes with one equation that says what it does to
  look-ups: `get?_insert`, `get?_erase`, `get?_filter`.
-/

namespace JobResults

/-- A decidable strict total order on keys. -/
class KeyOrder (κ : Type) [LT κ] : Prop where
  irrefl : ∀ a : κ, ¬ a < a
  trans : ∀ {a b c : κ}, a < b → b < c → a < c
  connected : ∀ {a b : κ}, ¬ a < b → ¬ b < a → a = b

instance : KeyOrder String where
  irrefl a := Std.Irrefl.irrefl (r := ((· < ·) : String → String → Prop)) a
  trans h k := Trans.trans (r := ((· < ·) : String → String → Prop)) h k
  connected {a b} h k := Std.Trichotomous.trichotomous (r := ((· < ·) : String → String → Prop)) a b h k

instance : KeyOrder (List UInt8) where
  irrefl a := Std.Irrefl.irrefl (r := ((· < ·) : List UInt8 → List UInt8 → Prop)) a
  trans h k := Trans.trans (r := ((· < ·) : List UInt8 → List UInt8 → Prop)) h k
  connected {a b} h k :=
    Std.Trichotomous.trichotomous (r := ((· < ·) : List UInt8 → List UInt8 → Prop)) a b h k

/-- A finite map, as the list of its entries in strictly ascending key order. -/
structure OrderedMap (κ α : Type) [LT κ] where
  entries : List (κ × α)
  ascending : entries.Pairwise (fun a b => a.1 < b.1) := by simp

namespace OrderedMap

variable {κ α β : Type} [LT κ]

/-! ### The list behind a map -/

/-- The value of the first entry with key `k`. -/
def lookup [DecidableEq κ] (k : κ) : List (κ × α) → Option α
  | [] => none
  | e :: rest => if k = e.1 then some e.2 else lookup k rest

/-- Puts an entry at its place in an ascending list, over any entry with the same key. -/
def place [DecidableLT κ] (k : κ) (v : α) : List (κ × α) → List (κ × α)
  | [] => [(k, v)]
  | e :: rest =>
    if k < e.1 then (k, v) :: e :: rest
    else if e.1 < k then e :: place k v rest
    else (k, v) :: rest

theorem mem_place [DecidableLT κ] {k : κ} {v : α} {a : κ × α} {l : List (κ × α)}
    (h : a ∈ place k v l) : a = (k, v) ∨ a ∈ l := by
  induction l with
  | nil => simpa [place] using h
  | cons e rest ih =>
    simp only [place] at h
    split at h
    · simpa using h
    · split at h
      · rcases List.mem_cons.1 h with h | h
        · exact .inr (by simp [h])
        · exact (ih h).imp id (List.mem_cons_of_mem _)
      · exact (List.mem_cons.1 h).imp id (List.mem_cons_of_mem _)

theorem pairwise_place [DecidableLT κ] [KeyOrder κ] {k : κ} {v : α} {l : List (κ × α)}
    (h : l.Pairwise (fun a b => a.1 < b.1)) :
    (place k v l).Pairwise (fun a b => a.1 < b.1) := by
  induction l with
  | nil => simp [place]
  | cons e rest ih =>
    obtain ⟨he, hrest⟩ := List.pairwise_cons.1 h
    simp only [place]
    split
    · next hk =>
      refine List.pairwise_cons.2 ⟨fun a ha => ?_, h⟩
      rcases List.mem_cons.1 ha with rfl | ha
      · exact hk
      · exact KeyOrder.trans hk (he a ha)
    · next hk =>
      split
      · next hk' =>
        refine List.pairwise_cons.2 ⟨fun a ha => ?_, ih hrest⟩
        rcases mem_place ha with rfl | ha
        · exact hk'
        · exact he a ha
      · next hk' =>
        have hke : k = e.1 := KeyOrder.connected hk hk'
        exact List.pairwise_cons.2 ⟨fun a ha => hke ▸ he a ha, hrest⟩

theorem lookup_place [DecidableEq κ] [DecidableLT κ] [KeyOrder κ] (k : κ) (v : α) (j : κ)
    (l : List (κ × α)) :
    lookup j (place k v l) = if j = k then some v else lookup j l := by
  induction l with
  | nil => simp [place, lookup]
  | cons e rest ih =>
    simp only [place]
    split
    · simp [lookup]
    · next hk =>
      split
      · next hk' =>
        simp only [lookup, ih]
        by_cases hj : j = k
        · subst hj
          have : j ≠ e.1 := fun h => KeyOrder.irrefl j (h ▸ hk')
          simp [this]
        · simp [hj]
      · next hk' =>
        have hke : k = e.1 := KeyOrder.connected hk hk'
        by_cases hj : j = k
        · simp [lookup, hj]
        · simp [lookup, hj, hke ▸ hj]

theorem lookup_eq_none_of_lt [DecidableEq κ] [KeyOrder κ] {k : κ} {l : List (κ × α)}
    (h : ∀ a ∈ l, k < a.1) : lookup k l = none := by
  induction l with
  | nil => rfl
  | cons e rest ih =>
    have hne : k ≠ e.1 := fun hk => KeyOrder.irrefl k (by
      have := h e (by simp)
      rwa [← hk] at this)
    simp [lookup, hne, ih (fun a ha => h a (List.mem_cons_of_mem _ ha))]

theorem lookup_eq_some_iff [DecidableEq κ] [KeyOrder κ] {k : κ} {v : α} {l : List (κ × α)}
    (h : l.Pairwise (fun a b => a.1 < b.1)) : lookup k l = some v ↔ (k, v) ∈ l := by
  induction l with
  | nil => simp [lookup]
  | cons e rest ih =>
    obtain ⟨he, hrest⟩ := List.pairwise_cons.1 h
    obtain ⟨ek, ev⟩ := e
    by_cases hk : k = ek
    · subst hk
      simp only [lookup, if_true, Option.some.injEq, List.mem_cons, Prod.mk.injEq, true_and]
      constructor
      · exact fun h => .inl h.symm
      · rintro (h | h)
        · exact h.symm
        · exact absurd (he _ h) (KeyOrder.irrefl k)
    · simp [lookup, hk, ih hrest]

theorem lookup_filter [DecidableEq κ] [KeyOrder κ] (p : κ → α → Bool) (k : κ)
    {l : List (κ × α)} (h : l.Pairwise (fun a b => a.1 < b.1)) :
    lookup k (l.filter (fun e => p e.1 e.2)) = (lookup k l).filter (p k) := by
  induction l with
  | nil => rfl
  | cons e rest ih =>
    obtain ⟨he, hrest⟩ := List.pairwise_cons.1 h
    by_cases hk : k = e.1
    · have hnone : lookup k (rest.filter (fun e => p e.1 e.2)) = none :=
        lookup_eq_none_of_lt (fun a ha => hk ▸ he a (List.mem_filter.1 ha).1)
      by_cases hp : p e.1 e.2 = true
      · simp [hp, lookup, hk, Option.filter]
      · simp only [Bool.not_eq_true] at hp
        simp [hp, lookup, hk, Option.filter] at hnone ⊢
        exact hnone
    · by_cases hp : p e.1 e.2 = true
      · simp [hp, lookup, hk, ih hrest]
      · simp only [Bool.not_eq_true] at hp
        simp [hp, lookup, hk, ih hrest]

/-! ### Operations -/

def empty : OrderedMap κ α := ⟨[], List.Pairwise.nil⟩

instance : Inhabited (OrderedMap κ α) := ⟨empty⟩

instance [DecidableEq κ] [DecidableEq α] : DecidableEq (OrderedMap κ α) := fun m n =>
  decidable_of_iff (m.entries = n.entries) ⟨fun h => by cases m; cases n; simp_all, fun h => h ▸ rfl⟩

def get? [DecidableEq κ] (m : OrderedMap κ α) (k : κ) : Option α := lookup k m.entries

def contains [DecidableEq κ] (m : OrderedMap κ α) (k : κ) : Bool := (m.get? k).isSome

/-- Stores a value under a key, over the one already there. -/
def insert [DecidableLT κ] [KeyOrder κ] (m : OrderedMap κ α) (k : κ) (v : α) : OrderedMap κ α :=
  ⟨place k v m.entries, pairwise_place m.ascending⟩

def filter (m : OrderedMap κ α) (p : κ → α → Bool) : OrderedMap κ α :=
  ⟨m.entries.filter (fun e => p e.1 e.2), m.ascending.filter _⟩

def erase [DecidableEq κ] (m : OrderedMap κ α) (k : κ) : OrderedMap κ α :=
  m.filter (fun j _ => decide (j ≠ k))

def mapValues (m : OrderedMap κ α) (f : κ → α → β) : OrderedMap κ β :=
  ⟨m.entries.map (fun e => (e.1, f e.1 e.2)), List.pairwise_map.2 m.ascending⟩

def toList (m : OrderedMap κ α) : List (κ × α) := m.entries

def size (m : OrderedMap κ α) : Nat := m.entries.length

def isEmpty (m : OrderedMap κ α) : Bool := m.entries.isEmpty

/-- A map with the entries of a list, a later one over an earlier one with the same key. -/
def ofList [DecidableLT κ] [KeyOrder κ] (l : List (κ × α)) : OrderedMap κ α :=
  l.foldl (fun m e => m.insert e.1 e.2) empty

/-! ### What each operation does to look-ups -/

@[simp] theorem get?_empty [DecidableEq κ] (k : κ) : (empty : OrderedMap κ α).get? k = none := rfl

theorem get?_insert [DecidableEq κ] [DecidableLT κ] [KeyOrder κ] (m : OrderedMap κ α) (k j : κ)
    (v : α) : (m.insert k v).get? j = if j = k then some v else m.get? j :=
  lookup_place k v j m.entries

theorem get?_filter [DecidableEq κ] [KeyOrder κ] (m : OrderedMap κ α) (p : κ → α → Bool) (k : κ) :
    (m.filter p).get? k = (m.get? k).filter (p k) :=
  lookup_filter p k m.ascending

theorem get?_erase [DecidableEq κ] [KeyOrder κ] (m : OrderedMap κ α) (k j : κ) :
    (m.erase k).get? j = if j = k then none else m.get? j := by
  rw [erase, get?_filter]
  by_cases h : j = k <;> cases m.get? j <;> simp [h, Option.filter]

theorem get?_eq_some_iff [DecidableEq κ] [KeyOrder κ] {m : OrderedMap κ α} {k : κ} {v : α} :
    m.get? k = some v ↔ (k, v) ∈ m.toList :=
  lookup_eq_some_iff m.ascending

/-- Two ascending lists with the same look-ups are the same list. -/
theorem eq_of_lookup_eq [DecidableEq κ] [KeyOrder κ] {l r : List (κ × α)}
    (hl : l.Pairwise (fun a b => a.1 < b.1)) (hr : r.Pairwise (fun a b => a.1 < b.1))
    (h : ∀ k, lookup k l = lookup k r) : l = r := by
  induction l generalizing r with
  | nil =>
    cases r with
    | nil => rfl
    | cons b r => have := h b.1; simp [lookup] at this
  | cons a l ih =>
    obtain ⟨ha, hl'⟩ := List.pairwise_cons.1 hl
    cases r with
    | nil => have := h a.1; simp [lookup] at this
    | cons b r =>
      obtain ⟨hb, hr'⟩ := List.pairwise_cons.1 hr
      have hkey : a.1 = b.1 := by
        refine KeyOrder.connected (fun hab => ?_) (fun hba => ?_)
        · have hnone : lookup a.1 (b :: r) = none := lookup_eq_none_of_lt (fun c hc => by
            rcases List.mem_cons.1 hc with rfl | hc
            · exact hab
            · exact KeyOrder.trans hab (hb c hc))
          have := h a.1
          rw [hnone] at this
          simp [lookup] at this
        · have hnone : lookup b.1 (a :: l) = none := lookup_eq_none_of_lt (fun c hc => by
            rcases List.mem_cons.1 hc with rfl | hc
            · exact hba
            · exact KeyOrder.trans hba (ha c hc))
          have := h b.1
          rw [hnone] at this
          simp [lookup] at this
      have hval : a.2 = b.2 := by
        have := h a.1
        simpa [lookup, hkey] using this
      have hrest : l = r := by
        refine ih hl' hr' (fun k => ?_)
        by_cases hk : k = a.1
        · rw [lookup_eq_none_of_lt (fun c hc => hk ▸ ha c hc),
            lookup_eq_none_of_lt (fun c hc => (hk.trans hkey) ▸ hb c hc)]
        · have := h k
          simpa [lookup, hk, hkey ▸ hk] using this
      rw [hrest, Prod.ext hkey hval]

/-- A map is determined by its look-ups. -/
theorem ext_get? [DecidableEq κ] [KeyOrder κ] {m n : OrderedMap κ α}
    (h : ∀ k, m.get? k = n.get? k) : m = n := by
  have := eq_of_lookup_eq m.ascending n.ascending h
  cases m
  cases n
  simp_all

end OrderedMap

end JobResults
