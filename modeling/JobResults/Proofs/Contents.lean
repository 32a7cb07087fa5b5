import Mathlib.Data.Option.Basic
import JobResults.StoreCall

/-!
  # Contents

  What a store holds, apart from how it is kept: a value under some keys, and for every key the
  scores of the members of its set.  Values are kept as `ν`, because the stores date them in
  their own ways; a command stamps the payload that it writes.

  `apply` says once what each command does.  A key never holds a value and a set
  (`Exclusive.apply`), and contents that differ only in how values are kept stay so
  (`Alike.apply`).
-/

namespace JobResults

/-- The values under keys, and the scores of the members of sets. -/
structure Contents (ν : Type) where
  value : String → Option ν
  score : (key member : String) → Option Score

namespace Contents

variable {ν ω : Type}

/-! ### Commands -/

def empty : Contents ν := ⟨fun _ => none, fun _ _ => none⟩

def putValue (c : Contents ν) (key : String) (v : Option ν) : Contents ν :=
  { c with value := fun k => if k = key then v else c.value k }

/-- Changes the scores in the set under a key. -/
def revise (c : Contents ν) (key : String) (f : (member : String) → Option Score → Option Score) :
    Contents ν :=
  { c with score := fun k m => if k = key then f m (c.score k m) else c.score k m }

/-- Gives a member a score, or none, and leaves all others. -/
def assign (member : String) (score : Option Score) (m : String) (s : Option Score) :
    Option Score :=
  if m = member then score else s

/-- Takes the scores away that satisfy a test. -/
def drop (doomed : Score → Bool) (_ : String) (s : Option Score) : Option Score :=
  s.filter fun s => !doomed s

def apply (stamp : Bytes → Option Duration → ν) (c : Contents ν) : Command → Contents ν
  | .set key payload ttl =>
    (c.revise key (drop fun _ => true)).putValue key (some (stamp payload ttl))
  | .delete key => (c.revise key (drop fun _ => true)).putValue key none
  | .rank key member score => (c.putValue key none).revise key (assign member (some score))
  | .unrank key member => c.revise key (assign member none)
  | .unrankRange key min max => c.revise key (drop (Score.within min max))

def applyAll (stamp : Bytes → Option Duration → ν) (c : Contents ν) (commands : List Command) :
    Contents ν :=
  commands.foldl (apply stamp) c

def keepValues (c : Contents ν) (p : ν → Bool) : Contents ν :=
  { c with value := fun k => (c.value k).filter p }

def after (stamp : Bytes → Option Duration → ν) (isExpired : ν → Bool) (c : Contents ν) :
    StoreCall → Contents ν
  | .execute commands => c.applyAll stamp commands
  | .evict => c.keepValues fun v => !isExpired v
  | _ => c

/-- The payload of a value that has not expired. -/
def payload (payloadOf : ν → Bytes) (isExpired : ν → Bool) (c : Contents ν) (key : String) :
    Option Bytes :=
  (c.value key).bind fun v => if isExpired v then none else some (payloadOf v)

theorem applyAll_append (stamp : Bytes → Option Duration → ν) (c : Contents ν)
    (xs ys : List Command) :
    c.applyAll stamp (xs ++ ys) = (c.applyAll stamp xs).applyAll stamp ys :=
  List.foldl_append

@[simp] theorem drop_all (m : String) (s : Option Score) : drop (fun _ => true) m s = none := by
  cases s <;> simp [drop, Option.filter]

/-! ### What comes up -/

section

variable {stamp : Bytes → Option Duration → ν} {c : Contents ν} {k : String}

/-- A value after a command was there before, or the command is about its key. -/
theorem value_apply {command : Command} {v : ν} (hv : (c.apply stamp command).value k = some v) :
    c.value k = some v ∨ k = command.key := by
  by_cases hk : k = command.key
  · exact .inr hk
  · refine .inl ?_
    cases command with
    | set key payload ttl => simpa [apply, putValue, revise, show k ≠ key from hk] using hv
    | delete key => simpa [apply, putValue, revise, show k ≠ key from hk] using hv
    | rank key member score => simpa [apply, putValue, revise, show k ≠ key from hk] using hv
    | unrank key member => exact hv
    | unrankRange key min max => exact hv

theorem value_applyAll {commands : List Command} {v : ν}
    (hv : (c.applyAll stamp commands).value k = some v) :
    c.value k = some v ∨ ∃ command ∈ commands, k = command.key := by
  induction commands generalizing c with
  | nil => exact .inl hv
  | cons command commands ih =>
    rcases ih hv with hfirst | ⟨later, hlater, hk⟩
    · exact (value_apply hfirst).imp_right fun hk => ⟨command, List.mem_cons_self, hk⟩
    · exact .inr ⟨later, List.mem_cons_of_mem _ hlater, hk⟩

/-- A score after a command was there before, or it is the one that the command gives. -/
theorem score_apply {command : Command} {m : String} {s : Score}
    (hs : (c.apply stamp command).score k m = some s) :
    c.score k m = some s ∨ command = .rank k m s := by
  cases command with
  | set key payload ttl =>
    simp only [apply, putValue, revise, drop_all] at hs
    split at hs
    · cases hs
    · exact .inl hs
  | delete key =>
    simp only [apply, putValue, revise, drop_all] at hs
    split at hs
    · cases hs
    · exact .inl hs
  | rank key member score =>
    simp only [apply, putValue, revise, assign] at hs
    split at hs
    · next hk =>
      split at hs
      · next hm => exact .inr (by rw [hk, hm, Option.some.inj hs])
      · exact .inl hs
    · exact .inl hs
  | unrank key member =>
    simp only [apply, revise, assign] at hs
    split at hs
    · split at hs
      · cases hs
      · exact .inl hs
    · exact .inl hs
  | unrankRange key min max =>
    simp only [apply, revise, drop] at hs
    split at hs
    · exact .inl (Option.eq_some_of_filter_eq_some hs)
    · exact .inl hs

theorem score_applyAll {commands : List Command} {m : String} {s : Score}
    (hs : (c.applyAll stamp commands).score k m = some s) :
    c.score k m = some s ∨ .rank k m s ∈ commands := by
  induction commands generalizing c with
  | nil => exact .inl hs
  | cons command commands ih =>
    rcases ih hs with hfirst | hlater
    · rcases score_apply hfirst with hbefore | rfl
      · exact .inl hbefore
      · exact .inr List.mem_cons_self
    · exact .inr (List.mem_cons_of_mem _ hlater)

end

/-! ### A key holds one thing -/

/-- No key holds a value and a set. -/
def Exclusive (c : Contents ν) : Prop := ∀ k v m s, c.value k = some v → c.score k m ≠ some s

theorem exclusive_empty : (empty : Contents ν).Exclusive := by
  intro k v m s h
  cases h

theorem Exclusive.putNone {c : Contents ν} (h : c.Exclusive) (key : String) :
    (c.putValue key none).Exclusive := by
  intro k v m s hv
  by_cases hk : k = key
  · simp [putValue, hk] at hv
  · exact h k v m s (by simpa [putValue, hk] using hv)

/-- Scores may go from any set, and come up where there is no value. -/
theorem Exclusive.revise {c : Contents ν} (h : c.Exclusive) (key : String)
    {f : String → Option Score → Option Score}
    (hf : c.value key = none ∨ ∀ m, f m none = none) : (c.revise key f).Exclusive := by
  intro k v m s hv hs
  have hv' : c.value k = some v := hv
  by_cases hk : k = key
  · subst hk
    have hnone : c.score k m = none := by
      rw [Option.eq_none_iff_forall_ne_some]
      intro s'
      exact h k v m s' hv'
    have hs' : f m (c.score k m) = some s := by simpa [Contents.revise] using hs
    rcases hf with hf | hf
    · rw [hv'] at hf
      cases hf
    · rw [hnone, hf m] at hs'
      cases hs'
  · exact h k v m s hv' (by simpa [Contents.revise, hk] using hs)

theorem Exclusive.putSome {c : Contents ν} (h : c.Exclusive) {key : String} {v : Option ν}
    (hnone : ∀ m, c.score key m = none) : (c.putValue key v).Exclusive := by
  intro k w m s hw
  by_cases hk : k = key
  · subst hk
    have hscore : (c.putValue k v).score k m = none := hnone m
    rw [hscore]
    exact fun hs => nomatch hs
  · exact h k w m s (by simpa [putValue, hk] using hw)

/-- Every command keeps keys to one thing. -/
theorem Exclusive.apply {c : Contents ν} (h : c.Exclusive) (stamp : Bytes → Option Duration → ν)
    (command : Command) : (c.apply stamp command).Exclusive := by
  have hclear : ∀ key, (c.revise key (drop fun _ => true)).Exclusive := by
    intro key
    exact h.revise key (.inr fun m => rfl)
  have hgone : ∀ key m, (c.revise key (drop fun _ => true)).score key m = none := by
    intro key m
    simp [Contents.revise]
  cases command with
  | set key payload ttl => exact (hclear key).putSome (hgone key)
  | delete key => exact (hclear key).putSome (hgone key)
  | rank key member score =>
    exact (h.putNone key).revise key (.inl (by simp [putValue]))
  | unrank key member => exact h.revise key (.inr fun m => by simp [assign])
  | unrankRange key min max => exact h.revise key (.inr fun m => rfl)

theorem Exclusive.applyAll {c : Contents ν} (h : c.Exclusive)
    (stamp : Bytes → Option Duration → ν) (commands : List Command) :
    (c.applyAll stamp commands).Exclusive := by
  induction commands generalizing c with
  | nil => exact h
  | cons command commands ih => exact ih (h.apply stamp command)

theorem Exclusive.keepValues {c : Contents ν} (h : c.Exclusive) (p : ν → Bool) :
    (c.keepValues p).Exclusive := by
  intro k v m s hv
  exact h k v m s (Option.eq_some_of_filter_eq_some hv)

/-! ### Contents that keep values in two ways -/

/-- The same keys, with values that a relation connects, and the same scores. -/
structure Alike (r : ν → ω → Prop) (c : Contents ν) (d : Contents ω) : Prop where
  value : ∀ k, Option.Rel r (c.value k) (d.value k)
  score : c.score = d.score

namespace Alike

variable {r : ν → ω → Prop} {c : Contents ν} {d : Contents ω}

theorem empty : Alike r (Contents.empty : Contents ν) (Contents.empty : Contents ω) :=
  ⟨fun _ => .none, rfl⟩

theorem putValue (h : Alike r c d) (key : String) {v : Option ν} {w : Option ω}
    (hr : Option.Rel r v w) : Alike r (c.putValue key v) (d.putValue key w) := by
  refine ⟨fun k => ?_, h.score⟩
  by_cases hk : k = key
  · simpa [Contents.putValue, hk] using hr
  · simpa [Contents.putValue, hk] using h.value k

theorem revise (h : Alike r c d) (key : String) (f : String → Option Score → Option Score) :
    Alike r (c.revise key f) (d.revise key f) := by
  refine ⟨h.value, ?_⟩
  simp only [Contents.revise, h.score]

/-- A command keeps contents alike if the stamped values are. -/
theorem apply (h : Alike r c d) {stamp : Bytes → Option Duration → ν}
    {stamp' : Bytes → Option Duration → ω}
    (hr : ∀ payload ttl, r (stamp payload ttl) (stamp' payload ttl))
    (command : Command) : Alike r (c.apply stamp command) (d.apply stamp' command) := by
  cases command with
  | set key payload ttl => exact (h.revise key _).putValue key (.some (hr payload ttl))
  | delete key => exact (h.revise key _).putValue key .none
  | rank key member score => exact (h.putValue key .none).revise key _
  | unrank key member => exact h.revise key _
  | unrankRange key min max => exact h.revise key _

theorem applyAll (h : Alike r c d) {stamp : Bytes → Option Duration → ν}
    {stamp' : Bytes → Option Duration → ω}
    (hr : ∀ payload ttl, r (stamp payload ttl) (stamp' payload ttl))
    (commands : List Command) :
    Alike r (c.applyAll stamp commands) (d.applyAll stamp' commands) := by
  induction commands generalizing c d with
  | nil => exact h
  | cons command commands ih => exact ih (h.apply hr command)

theorem keepValues (h : Alike r c d) {p : ν → Bool} {q : ω → Bool}
    (hr : ∀ v w, r v w → p v = q w) : Alike r (c.keepValues p) (d.keepValues q) := by
  refine ⟨fun k => ?_, h.score⟩
  have hk := h.value k
  simp only [Contents.keepValues]
  generalize c.value k = v at hk ⊢
  generalize d.value k = w at hk ⊢
  cases hk with
  | none => exact .none
  | some hvw =>
    simp only [Option.filter, hr _ _ hvw]
    split
    · exact .some hvw
    · exact .none

/-- A call keeps contents alike if the stamped values are, and like values expire together. -/
theorem after (h : Alike r c d) {stamp : Bytes → Option Duration → ν}
    {stamp' : Bytes → Option Duration → ω} {isExpired : ν → Bool} {isExpired' : ω → Bool}
    (hstamp : ∀ payload ttl, r (stamp payload ttl) (stamp' payload ttl))
    (hexpired : ∀ v w, r v w → isExpired v = isExpired' w) (call : StoreCall) :
    Alike r (c.after stamp isExpired call) (d.after stamp' isExpired' call) := by
  cases call with
  | execute commands => exact h.applyAll hstamp commands
  | evict => exact h.keepValues fun v w hvw => by rw [hexpired v w hvw]
  | get key => exact h
  | range key min max => exact h
  | ping => exact h
  | close => exact h

/-- Alike contents show the same payloads if like values have the same payload and expire
    together. -/
theorem payload (h : Alike r c d) {payloadOf : ν → Bytes} {payloadOf' : ω → Bytes}
    {isExpired : ν → Bool} {isExpired' : ω → Bool}
    (hpayload : ∀ v w, r v w → payloadOf v = payloadOf' w)
    (hexpired : ∀ v w, r v w → isExpired v = isExpired' w) (key : String) :
    c.payload payloadOf isExpired key = d.payload payloadOf' isExpired' key := by
  have hkey := h.value key
  simp only [Contents.payload]
  generalize c.value key = v at hkey ⊢
  generalize d.value key = w at hkey ⊢
  cases hkey with
  | none => rfl
  | some hvw => simp only [Option.bind_some, hpayload _ _ hvw, hexpired _ _ hvw]

end Alike

end Contents

end JobResults
