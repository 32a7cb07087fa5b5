import JobResults.Proofs.Contents

/-!
  # Revisions

  To the value under one key, and to the score of one member, a command does one of two things: it
  puts something in its place, or keeps it if it passes a test.  One such revision after another is
  again one (`Revision.apply_andThen`), so a whole batch does no more than that either, whatever its
  commands and their order (`Contents.value_applyAll_eq`, `Contents.score_applyAll_eq`).  To revise
  twice is to revise once (`Revision.apply_apply`), and so it is for batches
  (`Contents.applyAll_applyAll`).
-/

namespace JobResults

/-- What becomes of something that may be there. -/
inductive Revision (α : Type) where
  | put (a : Option α)
  | keep (p : α → Bool)

namespace Revision

variable {α : Type}

def same : Revision α := keep fun _ => true

def apply : Revision α → Option α → Option α
  | put a, _ => a
  | keep p, a => a.filter p

/-- One revision after another. -/
def andThen : Revision α → Revision α → Revision α
  | _, put a => put a
  | put a, keep p => put (a.filter p)
  | keep p, keep q => keep fun a => p a && q a

/-- The revisions that commands make, one after the other. -/
def all (f : Command → Revision α) (commands : List Command) : Revision α :=
  commands.foldl (fun r c => r.andThen (f c)) same

@[simp] theorem apply_same (a : Option α) : same.apply a = a := by
  cases a <;> rfl

theorem apply_andThen (r r' : Revision α) (a : Option α) :
    (r.andThen r').apply a = r'.apply (r.apply a) := by
  cases r' with
  | put b => cases r <;> rfl
  | keep q =>
    cases r with
    | put b => rfl
    | keep p => exact Option.filter_filter.symm

theorem apply_apply (r : Revision α) (a : Option α) : r.apply (r.apply a) = r.apply a := by
  cases r with
  | put b => rfl
  | keep p => simp [apply]

theorem apply_all (f : Command → Revision α) (commands : List Command) (a : Option α) :
    (all f commands).apply a = commands.foldl (fun a c => (f c).apply a) a := by
  have hrest : ∀ r : Revision α,
      (commands.foldl (fun r c => r.andThen (f c)) r).apply a
        = commands.foldl (fun a c => (f c).apply a) (r.apply a) := by
    induction commands with
    | nil => exact fun _ => rfl
    | cons c commands ih =>
      intro r
      rw [List.foldl_cons, List.foldl_cons, ih, apply_andThen]
  rw [all, hrest, apply_same]

end Revision

/-! ### What commands do -/

namespace Command

/-- What a command does to the value under a key. -/
def onValue {ν : Type} (stamp : Bytes → Option Duration → ν) (key : String) (c : Command) :
    Revision ν :=
  if key = c.key then
    match c with
    | .set _ payload ttl => .put (some (stamp payload ttl))
    | .delete _ => .put none
    | .rank .. => .put none
    | .unrank .. => .same
    | .unrankRange .. => .same
  else .same

/-- What a command does to the score of a member of the set under a key. -/
def onScore (key member : String) (c : Command) : Revision Score :=
  if key = c.key then
    match c with
    | .set .. => .put none
    | .delete _ => .put none
    | .rank _ m score => if member = m then .put (some score) else .same
    | .unrank _ m => if member = m then .put none else .same
    | .unrankRange _ min max => .keep fun score => !Score.within min max score
  else .same

end Command

namespace Contents

variable {ν : Type} (stamp : Bytes → Option Duration → ν)

theorem value_apply_eq (c : Contents ν) (command : Command) (k : String) :
    (c.apply stamp command).value k = (command.onValue stamp k).apply (c.value k) := by
  unfold Command.onValue
  by_cases hk : k = command.key
  · rw [if_pos hk]
    cases command with
    | set key payload ttl => simp [apply, putValue, show k = key from hk, Revision.apply]
    | delete key => simp [apply, putValue, show k = key from hk, Revision.apply]
    | rank key member score => simp [apply, putValue, revise, show k = key from hk, Revision.apply]
    | unrank key member => exact (Revision.apply_same _).symm
    | unrankRange key min max => exact (Revision.apply_same _).symm
  · rw [if_neg hk, Revision.apply_same]
    cases command with
    | set key payload ttl => simp [apply, putValue, revise, show k ≠ key from hk]
    | delete key => simp [apply, putValue, revise, show k ≠ key from hk]
    | rank key member score => simp [apply, putValue, revise, show k ≠ key from hk]
    | unrank key member => rfl
    | unrankRange key min max => rfl

theorem score_apply_eq (c : Contents ν) (command : Command) (k m : String) :
    (c.apply stamp command).score k m = (command.onScore k m).apply (c.score k m) := by
  unfold Command.onScore
  by_cases hk : k = command.key
  · rw [if_pos hk]
    cases command with
    | set key payload ttl =>
      simp [apply, putValue, revise, show k = key from hk, Revision.apply]
    | delete key => simp [apply, putValue, revise, show k = key from hk, Revision.apply]
    | rank key member score =>
      by_cases hm : m = member
      · simp [apply, putValue, revise, assign, show k = key from hk, hm, Revision.apply]
      · simp [apply, putValue, revise, assign, show k = key from hk, hm]
    | unrank key member =>
      by_cases hm : m = member
      · simp [apply, revise, assign, show k = key from hk, hm, Revision.apply]
      · simp [apply, revise, assign, show k = key from hk, hm]
    | unrankRange key min max =>
      simp [apply, revise, drop, show k = key from hk, Revision.apply]
  · rw [if_neg hk, Revision.apply_same]
    cases command with
    | set key payload ttl => simp [apply, putValue, revise, show k ≠ key from hk]
    | delete key => simp [apply, putValue, revise, show k ≠ key from hk]
    | rank key member score => simp [apply, putValue, revise, show k ≠ key from hk]
    | unrank key member => simp [apply, revise, show k ≠ key from hk]
    | unrankRange key min max => simp [apply, revise, show k ≠ key from hk]

/-! ### What batches do -/

theorem value_applyAll_eq (c : Contents ν) (commands : List Command) (k : String) :
    (c.applyAll stamp commands).value k
      = (Revision.all (Command.onValue stamp k) commands).apply (c.value k) := by
  rw [Revision.apply_all]
  induction commands generalizing c with
  | nil => rfl
  | cons command commands ih =>
    rw [applyAll, List.foldl_cons, List.foldl_cons, ← value_apply_eq]
    exact ih (c.apply stamp command)

theorem score_applyAll_eq (c : Contents ν) (commands : List Command) (k m : String) :
    (c.applyAll stamp commands).score k m
      = (Revision.all (Command.onScore k m) commands).apply (c.score k m) := by
  rw [Revision.apply_all]
  induction commands generalizing c with
  | nil => rfl
  | cons command commands ih =>
    rw [applyAll, List.foldl_cons, List.foldl_cons, ← score_apply_eq stamp]
    exact ih (c.apply stamp command)

theorem ext {c d : Contents ν} (hvalue : ∀ k, c.value k = d.value k)
    (hscore : ∀ k m, c.score k m = d.score k m) : c = d := by
  obtain ⟨value, score⟩ := c
  obtain ⟨value', score'⟩ := d
  obtain rfl : value = value' := funext hvalue
  obtain rfl : score = score' := funext fun k => funext (hscore k)
  rfl

/-- A batch that has been run changes nothing when it is run again. -/
theorem applyAll_applyAll (c : Contents ν) (commands : List Command) :
    (c.applyAll stamp commands).applyAll stamp commands = c.applyAll stamp commands := by
  apply ext
  · intro k
    rw [value_applyAll_eq, value_applyAll_eq, Revision.apply_apply]
  · intro k m
    rw [score_applyAll_eq, score_applyAll_eq, Revision.apply_apply]

end Contents

end JobResults
