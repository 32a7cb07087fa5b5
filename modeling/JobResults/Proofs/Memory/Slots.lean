import JobResults.Memory.Store

/-!
  # One key of the store in memory

  A command reads and writes what is kept under its key and nothing else (`slot_apply`).  So what
  is kept under a key after many commands depends on those with that key alone, and on the order
  among them (`slot_applyDated_congr`); a store is what it keeps under all keys (`ext_slot`).
-/

namespace JobResults.Memory

/-- A value, or a set, or neither. -/
abbrev Slot := Option Entry × Option RankedSet

namespace Slot

/-- A changed set is dropped when it is empty. -/
def revise (f : RankedSet → RankedSet) (slot : Slot) : Slot :=
  (slot.1, slot.2.bind fun set => if (f set).isEmpty then none else some (f set))

/-- What a command makes of what is kept under its key. -/
def apply (now : Instant) (slot : Slot) : Command → Slot
  | .set _ payload ttl => (some ⟨payload, ttl.bind (Instant.add? now)⟩, none)
  | .delete _ => (none, none)
  | .rank _ member score => (none, some ((slot.2.getD .empty).insert member score))
  | .unrank _ member => slot.revise (·.erase member)
  | .unrankRange _ min max => slot.revise (·.eraseRange min max)

end Slot

namespace Store

def slot (s : Store) (key : String) : Slot := (s.values.get? key, s.sets.get? key)

theorem ext_slot {s t : Store} (h : ∀ key, s.slot key = t.slot key) : s = t := by
  obtain ⟨values, sets⟩ := s
  obtain ⟨values', sets'⟩ := t
  have hvalues : values = values' := OrderedMap.ext_get? fun key => congrArg Prod.fst (h key)
  have hsets : sets = sets' := OrderedMap.ext_get? fun key => congrArg Prod.snd (h key)
  rw [hvalues, hsets]

theorem slot_updateSet (s : Store) (key k : String) (f : RankedSet → RankedSet) :
    (s.updateSet key f).slot k = if k = key then (s.slot k).revise f else s.slot k := by
  unfold updateSet
  cases hset : s.sets.get? key with
  | none =>
    by_cases hk : k = key
    · simp [slot, Slot.revise, hk, hset]
    · simp [hk]
  | some set =>
    dsimp only
    by_cases hk : k = key
    · subst hk
      split
      · next hempty => simp [slot, Slot.revise, OrderedMap.get?_erase, hset, hempty]
      · next hmember => simp [slot, Slot.revise, OrderedMap.get?_insert, hset, hmember]
    · split
      · simp [slot, OrderedMap.get?_erase, hk]
      · simp [slot, OrderedMap.get?_insert, hk]

theorem slot_apply (now : Instant) (s : Store) (c : Command) (k : String) :
    (s.apply now c).slot k = if k = c.key then (s.slot k).apply now c else s.slot k := by
  cases c with
  | set key payload ttl =>
    by_cases hk : k = key
    · simp [apply, slot, Slot.apply, Command.key, OrderedMap.get?_insert, OrderedMap.get?_erase, hk]
    · simp [apply, slot, Command.key, OrderedMap.get?_insert, OrderedMap.get?_erase, hk]
  | delete key =>
    by_cases hk : k = key
    · simp [apply, slot, Slot.apply, Command.key, OrderedMap.get?_erase, hk]
    · simp [apply, slot, Command.key, OrderedMap.get?_erase, hk]
  | rank key member score =>
    by_cases hk : k = key
    · simp [apply, slot, Slot.apply, Command.key, OrderedMap.get?_insert, OrderedMap.get?_erase, hk]
    · simp [apply, slot, Command.key, OrderedMap.get?_insert, OrderedMap.get?_erase, hk]
  | unrank key member => exact slot_updateSet s key k _
  | unrankRange key min max => exact slot_updateSet s key k _

/-! ### Commands at their instants -/

/-- Runs commands one after another, each at its own instant. -/
def applyDated (s : Store) (commands : List (Instant × Command)) : Store :=
  commands.foldl (fun s c => s.apply c.1 c.2) s

theorem applyDated_append (s : Store) (xs ys : List (Instant × Command)) :
    s.applyDated (xs ++ ys) = (s.applyDated xs).applyDated ys :=
  List.foldl_append

/-- A batch is run at one instant. -/
theorem applyDated_batch (s : Store) (now : Instant) (batch : List Command) :
    s.applyDated (batch.map fun c => (now, c)) = s.execute now batch :=
  List.foldl_map

/-- Only the commands with a key count for what is kept under it. -/
theorem slot_applyDated (s : Store) (commands : List (Instant × Command)) (k : String) :
    (s.applyDated commands).slot k =
      (commands.filter fun c => k = c.2.key).foldl (fun slot c => slot.apply c.1 c.2)
        (s.slot k) := by
  induction commands generalizing s with
  | nil => rfl
  | cons c commands ih =>
    refine (ih (s.apply c.1 c.2)).trans ?_
    rw [slot_apply]
    by_cases hk : k = c.2.key
    · simp [hk]
    · simp [hk]

theorem slot_applyDated_congr (s : Store) {commands commands' : List (Instant × Command)}
    {k : String}
    (h : (commands.filter fun c => k = c.2.key) = commands'.filter fun c => k = c.2.key) :
    (s.applyDated commands).slot k = (s.applyDated commands').slot k := by
  rw [slot_applyDated, slot_applyDated, h]

end Store

end JobResults.Memory
