/-!
  # Named fields

  A mapping in a document is the list of its fields, in the order in which their names came up.
  Assigning a field keeps the place of its name (`lookup_assign`).
-/

namespace JobResults.Data

variable {α : Type}

/-- Gives a field a value, in its place or else at the end. -/
def assign (name : String) (value : α) : List (String × α) → List (String × α)
  | [] => [(name, value)]
  | field :: rest =>
    if field.1 = name then (name, value) :: rest else field :: assign name value rest

/-- An assigned field has its new value, and all others are as they were. -/
theorem lookup_assign (name other : String) (value : α) (fields : List (String × α)) :
    (assign name value fields).lookup other =
      if other = name then some value else fields.lookup other := by
  induction fields with
  | nil =>
    by_cases h : other = name
    · simp [assign, h]
    · simp [assign, List.lookup_cons, h, beq_false_of_ne h]
  | cons field rest ih =>
    obtain ⟨key, old⟩ := field
    by_cases hk : key = name
    · subst hk
      by_cases h : other = key
      · simp [assign, h]
      · simp [assign, List.lookup_cons, h, beq_false_of_ne h]
    · by_cases ho : other = key
      · subst ho
        simp [assign, hk]
      · simp [assign, List.lookup_cons, hk, beq_false_of_ne ho, ih]

end JobResults.Data
