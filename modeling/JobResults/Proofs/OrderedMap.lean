import Mathlib.Data.List.Nodup
import JobResults.OrderedMap

/-!
  # Counting and comparing finite maps

  Two maps have equally many entries when their keys correspond one to one
  (`size_eq_of_keys`).  The entries that a filter drops are those that the opposite filter keeps
  (`size_sub_size_filter`), so what a removal counts is the size of a map again.
-/

namespace JobResults.OrderedMap

variable {κ μ α β : Type} [LT κ] [LT μ]

/-! ### Look-ups -/

omit [LT κ] in
theorem lookup_map_value [DecidableEq κ] (f : κ → α → β) (k : κ) (l : List (κ × α)) :
    lookup k (l.map fun e => (e.1, f e.1 e.2)) = (lookup k l).map (f k) := by
  induction l with
  | nil => rfl
  | cons e rest ih =>
    by_cases h : k = e.1
    · subst h
      simp [lookup]
    · simp [lookup, h, ih]

theorem get?_mapValues [DecidableEq κ] (m : OrderedMap κ α) (f : κ → α → β) (k : κ) :
    (m.mapValues f).get? k = (m.get? k).map (f k) :=
  lookup_map_value f k m.entries

/-- A map is empty when no key has a value. -/
theorem isEmpty_iff [DecidableEq κ] {m : OrderedMap κ α} :
    m.isEmpty = true ↔ ∀ k, m.get? k = none := by
  constructor
  · intro h k
    have hnil : m.entries = [] := List.isEmpty_iff.1 h
    rw [get?, hnil]
    rfl
  · intro h
    cases he : m.entries with
    | nil => exact List.isEmpty_iff.2 he
    | cons e rest =>
      have hfirst := h e.1
      rw [get?, he] at hfirst
      simp [lookup] at hfirst

/-! ### Counting -/

theorem nodup_keys [KeyOrder κ] (m : OrderedMap κ α) : (m.toList.map (·.1)).Nodup := by
  refine List.pairwise_map.2 (m.ascending.imp ?_)
  intro a b hab heq
  exact KeyOrder.irrefl b.1 (heq ▸ hab)

theorem mem_keys_iff [DecidableEq κ] [KeyOrder κ] {m : OrderedMap κ α} {k : κ} :
    k ∈ m.toList.map (·.1) ↔ ∃ v, m.get? k = some v := by
  rw [List.mem_map]
  constructor
  · rintro ⟨⟨j, v⟩, hmem, rfl⟩
    exact ⟨v, get?_eq_some_iff.2 hmem⟩
  · rintro ⟨v, hv⟩
    exact ⟨(k, v), get?_eq_some_iff.1 hv, rfl⟩

/-- Two maps whose keys correspond one to one have equally many entries. -/
theorem size_eq_of_keys [DecidableEq κ] [DecidableEq μ] [KeyOrder κ] [KeyOrder μ]
    {m : OrderedMap κ α} {n : OrderedMap μ β} (f : κ → μ) (hf : ∀ a b, f a = f b → a = b)
    (h : ∀ y, (∃ w, n.get? y = some w) ↔ ∃ k, (∃ v, m.get? k = some v) ∧ y = f k) :
    m.size = n.size := by
  have hkeys : ((m.toList.map (·.1)).map f).Perm (n.toList.map (·.1)) := by
    refine (List.perm_ext_iff_of_nodup ?_ n.nodup_keys).2 ?_
    · exact List.Nodup.map (fun a b hab => hf a b hab) m.nodup_keys
    · intro y
      rw [mem_keys_iff, h y, List.mem_map]
      constructor
      · rintro ⟨k, hk, rfl⟩
        exact ⟨k, mem_keys_iff.1 hk, rfl⟩
      · rintro ⟨k, hk, rfl⟩
        exact ⟨k, mem_keys_iff.2 hk, rfl⟩
  have hlen := hkeys.length_eq
  simp only [List.length_map] at hlen
  exact hlen

/-- What a filter drops is counted by the opposite filter. -/
theorem size_sub_size_filter (m : OrderedMap κ α) (p : κ → α → Bool) :
    m.size - (m.filter fun k v => !p k v).size = (m.filter p).size := by
  have h := m.entries.length_eq_length_filter_add fun e => p e.1 e.2
  simp only [size, filter]
  omega

end JobResults.OrderedMap
