import JobResults.Proofs.Embedded.Representation

/-!
  # What a staged batch shows

  While a batch is staged over tables that keep `base`, its view shows contents `current`: the
  state of a member in view tells its score in both, and a member out of view has the same score in
  both.  A command takes the view from `current` to the contents after the command (`Shows.apply`),
  whatever members the commands before it brought into view, and never fails.  What it takes is that
  a set to be cleared stands alone among those stored, and that a member to be ranked has a set
  without NUL in its name (`Fits`).

  Over tables of any kind, what is staged for a set leaves the view on values and on all other sets
  as it is (`SameBut`).
-/

namespace JobResults.Embedded

open Bytes (ofString)
open Memory (Ranked)

/-- What is made of a result comes from a result. -/
theorem exists_of_map_eq_ok {α β ε : Type} {x : Except ε α} {f : α → β} {b : β}
    (h : x.map f = .ok b) : ∃ a, x = .ok a ∧ f a = b := by
  cases x with
  | error e => cases h
  | ok a => exact ⟨a, rfl, Except.ok.inj h⟩

namespace Staged

/-! ### What staging changes -/

/-- The second view differs from the first one in what it has of a set, if at all. -/
structure SameBut (key : String) (s s' : Staged) : Prop where
  values : s'.values = s.values
  sets : ∀ {k}, k ≠ key → s'.sets.get? k = s.sets.get? k

section

variable {t : Tables} {s s' : Staged} {key : String}

theorem sameBut_insert (s : Staged) (key : String) (set : StagedSet) (loaded : List String) :
    SameBut key s { s with sets := s.sets.insert key set, loaded := loaded } :=
  ⟨rfl, fun hk => by rw [OrderedMap.get?_insert, if_neg hk]⟩

theorem sameBut_setPending {member : String} {score : Option Score}
    (h : s.setPending t key member score = .ok s') : SameBut key s s' := by
  obtain ⟨state, -, rfl⟩ := exists_of_map_eq_ok h
  exact sameBut_insert s key _ _

theorem sameBut_load (h : s.load t key = .ok s') : SameBut key s s' := by
  rw [load] at h
  split at h
  · cases h
    exact ⟨rfl, fun _ => rfl⟩
  · obtain ⟨entries, -, rfl⟩ := exists_of_map_eq_ok h
    exact sameBut_insert s key _ _

theorem sameBut_dropPending {doomed : Score → Bool} (h : s.dropPending t key doomed = .ok s') :
    SameBut key s s' := by
  obtain ⟨s₁, hload, rfl⟩ := exists_of_map_eq_ok h
  have hs₁ := sameBut_load hload
  have hs' := sameBut_insert s₁ key
    ((s₁.set key).mapValues fun _ state =>
      { state with pending := state.pending.filter fun score => !doomed score }) s₁.loaded
  exact ⟨hs'.values.trans hs₁.values, fun hk => (hs'.sets hk).trans (hs₁.sets hk)⟩

/-- Of commands that can be staged, the first one can, and then the others. -/
theorem exists_of_applyAll_cons {now : UInt64} {command : Command} {commands : List Command}
    (h : s.applyAll t now (command :: commands) = .ok s') :
    ∃ s₁, s.apply t now command = .ok s₁ ∧ s₁.applyAll t now commands = .ok s' := by
  rw [applyAll, List.foldlM_cons] at h
  cases hfirst : s.apply t now command with
  | error e => simp [hfirst, bind, Except.bind] at h
  | ok s₁ =>
    rw [hfirst] at h
    exact ⟨s₁, rfl, h⟩

end

/-! ### Look-ups in a view -/

theorem set_insert (s : Staged) (key k : String) (set : StagedSet) (loaded : List String) :
    Staged.set { s with sets := s.sets.insert key set, loaded := loaded } k
      = if k = key then set else s.set k := by
  simp only [Staged.set, OrderedMap.get?_insert]
  split <;> rfl

/-- Members that are loaded come into view as they are stored; those in view stay. -/
theorem get?_foldl_load (entries : List (Score × String)) (set : StagedSet) (m : String) :
    (entries.foldl (fun (set : StagedSet) e =>
        if set.contains e.2 then set else set.insert e.2 ⟨some e.1, some e.1⟩) set).get? m
      = match set.get? m with
        | some state => some state
        | none => (entries.find? (·.2 = m)).map fun e => ⟨some e.1, some e.1⟩ := by
  induction entries generalizing set with
  | nil => cases h : set.get? m <;> simp [h]
  | cons e entries ih =>
    rw [List.foldl_cons, ih]
    by_cases hin : set.contains e.2 = true
    · rw [if_pos hin]
      cases hm : set.get? m with
      | some state => rfl
      | none =>
        have hne : ¬ e.2 = m := by
          rintro rfl
          simp [OrderedMap.contains, hm] at hin
        simp [hne]
    · rw [if_neg hin, OrderedMap.get?_insert]
      by_cases hem : m = e.2
      · subst hem
        have hnone : set.get? e.2 = none := by
          simpa [OrderedMap.contains] using hin
        simp [hnone]
      · have hem' : ¬ e.2 = m := fun h => hem h.symm
        simp [hem, hem']

/-- The view on `base` shows `current`. -/
structure Shows (s : Staged) (base current : Contents Dated) : Prop where
  touched : ∀ {k m state}, (s.set k).get? m = some state →
    state = ⟨base.score k m, current.score k m⟩
  untouched : ∀ {k m}, (s.set k).get? m = none → current.score k m = base.score k m
  loaded : ∀ {k m}, k ∈ s.loaded → (s.set k).get? m = none → base.score k m = none
  written : ∀ {k row}, s.values.get? k = some row → row = (current.value k).map Dated.row
  unwritten : ∀ {k}, s.values.get? k = none → current.value k = base.value k
  named : ∀ {k m state}, (s.set k).get? m = some state → NulFree k

/-! ### What commands need -/

/-- A command goes by the rows of its own set: it clears a set that stands alone, or changes a
    member of a set without NUL in its name. -/
def Fits (base : Contents Dated) : Command → Prop
  | .set key _ _ => Alone base key
  | .delete key => Alone base key
  | .rank key _ _ => NulFree key
  | .unrank key _ => NulFree key
  | .unrankRange key _ _ => Alone base key

/-- What a command of any kind needs is there if its key holds no NUL. -/
theorem fits_of_nulFree {t : Tables} {base : Contents Dated} (ht : t.Keeps base)
    {command : Command} (hkey : NulFree command.key) : Fits base command := by
  cases command with
  | set key payload ttl => exact ht.alone hkey
  | delete key => exact ht.alone hkey
  | rank key member score => exact hkey
  | unrank key member => exact hkey
  | unrankRange key min max => exact ht.alone hkey

namespace Shows

variable {t : Tables} {s : Staged} {base current : Contents Dated}

/-- Before the first command the view shows what is stored. -/
theorem empty (base : Contents Dated) : Staged.empty.Shows base base where
  touched h := by simp [Staged.empty, Staged.set] at h
  untouched _ := rfl
  loaded h := by simp [Staged.empty] at h
  written h := by simp [Staged.empty] at h
  unwritten _ := rfl
  named h := by simp [Staged.empty, Staged.set] at h

/-- The view with one set replaced shows the scores of that set revised. -/
theorem replace (h : s.Shows base current) {key : String} {set : StagedSet}
    {loaded : List String} {f : String → Option Score → Option Score}
    (hkey : ∀ m state, set.get? m = some state → NulFree key)
    (hin : ∀ m state, set.get? m = some state →
      state = ⟨base.score key m, f m (current.score key m)⟩)
    (hout : ∀ m, set.get? m = none → f m (current.score key m) = base.score key m)
    (hloaded : ∀ k, k ∈ loaded → k ∈ s.loaded ∨ k = key)
    (hall : key ∈ loaded → ∀ m, set.get? m = none → base.score key m = none) :
    Staged.Shows { s with sets := s.sets.insert key set, loaded := loaded } base
      (current.revise key f) := by
  constructor
  case touched =>
    intro k m state hm
    rw [set_insert] at hm
    by_cases hk : k = key
    · subst hk
      rw [if_pos rfl] at hm
      simp [hin m state hm, Contents.revise]
    · rw [if_neg hk] at hm
      simp [h.touched hm, Contents.revise, hk]
  case untouched =>
    intro k m hm
    rw [set_insert] at hm
    by_cases hk : k = key
    · subst hk
      rw [if_pos rfl] at hm
      simp [Contents.revise, hout m hm]
    · rw [if_neg hk] at hm
      simp [Contents.revise, hk, h.untouched hm]
  case loaded =>
    intro k m hk hm
    rw [set_insert] at hm
    by_cases hkey : k = key
    · subst hkey
      rw [if_pos rfl] at hm
      exact hall hk m hm
    · rw [if_neg hkey] at hm
      exact h.loaded ((hloaded k hk).resolve_right hkey) hm
  case written => exact h.written
  case unwritten => exact h.unwritten
  case named =>
    intro k m state hm
    rw [set_insert] at hm
    by_cases hk : k = key
    · subst hk
      rw [if_pos rfl] at hm
      exact hkey m state hm
    · rw [if_neg hk] at hm
      exact h.named hm

/-! ### One member -/

theorem member (ht : t.Keeps base) (h : s.Shows base current) {key : String}
    (hkey : NulFree key) (m : String) :
    s.member t key m = .ok ⟨base.score key m, current.score key m⟩ := by
  rw [Staged.member]
  cases hm : (s.set key).get? m with
  | some state => rw [← h.touched hm]
  | none =>
    simp only [ht.memberScore hkey m]
    rw [h.untouched hm]
    rfl

theorem setPending (ht : t.Keeps base) (h : s.Shows base current) {key : String}
    (hkey : NulFree key) (member : String) (score : Option Score) :
    ∃ s', s.setPending t key member score = .ok s' ∧
      s'.Shows base (current.revise key (Contents.assign member score)) := by
  refine ⟨_, by rw [Staged.setPending, h.member ht hkey member]; rfl,
    h.replace (fun _ _ _ => hkey) ?_ ?_ ?_ ?_⟩
  · intro m state hm
    rw [OrderedMap.get?_insert] at hm
    by_cases hmem : m = member
    · subst hmem
      simp only [if_true, Option.some.injEq] at hm
      simp [← hm, Contents.assign]
    · rw [if_neg hmem] at hm
      simp [h.touched hm, Contents.assign, hmem]
  · intro m hm
    rw [OrderedMap.get?_insert] at hm
    by_cases hmem : m = member
    · simp [hmem] at hm
    · rw [if_neg hmem] at hm
      simp [Contents.assign, hmem, h.untouched hm]
  · intro k hk
    exact .inl hk
  · intro hin m hm
    rw [OrderedMap.get?_insert] at hm
    by_cases hmem : m = member
    · simp [hmem] at hm
    · rw [if_neg hmem] at hm
      exact h.loaded hin hm

/-! ### Whole sets -/

/-- Loading a set brings all of it into view and changes nothing that the view shows. -/
theorem load (ht : t.Keeps base) (h : s.Shows base current) {key : String}
    (hkey : Alone base key) :
    ∃ s', s.load t key = .ok s' ∧ s'.Shows base current ∧ key ∈ s'.loaded := by
  rw [Staged.load]
  by_cases hin : s.loaded.contains key = true
  · rw [if_pos hin]
    exact ⟨s, rfl, h, List.contains_iff_mem.1 hin⟩
  · rw [if_neg hin, ht.scanSet hkey]
    refine ⟨_, rfl, ?_, List.mem_cons_self⟩
    have hfind := ht.find?_entry hkey
    have hsame : current.revise key (fun _ score => score) = current := by
      simp [Contents.revise]
    rw [← hsame]
    refine h.replace ?_ ?_ ?_ ?_ ?_
    · intro m state hm
      rw [get?_foldl_load, hfind] at hm
      cases hset : (s.set key).get? m with
      | some old => exact h.named hset
      | none =>
        simp only [hset, Option.map_map, Option.map_eq_some_iff] at hm
        obtain ⟨score, hscore, -⟩ := hm
        exact ht.named hscore
    · intro m state hm
      rw [get?_foldl_load, hfind] at hm
      cases hset : (s.set key).get? m with
      | some old =>
        rw [hset] at hm
        obtain rfl := Option.some.inj hm
        exact h.touched hset
      | none =>
        simp only [hset, Option.map_map, Option.map_eq_some_iff] at hm
        obtain ⟨score, hscore, rfl⟩ := hm
        rw [h.untouched hset, hscore]
        rfl
    · intro m hm
      rw [get?_foldl_load, hfind] at hm
      cases hset : (s.set key).get? m with
      | some old => simp [hset] at hm
      | none => exact h.untouched hset
    · intro k hk
      exact (List.mem_cons.1 hk).symm
    · intro _ m hm
      rw [get?_foldl_load, hfind] at hm
      cases hset : (s.set key).get? m with
      | some old => simp [hset] at hm
      | none => simpa [hset] using hm

theorem dropPending (ht : t.Keeps base) (h : s.Shows base current) {key : String}
    (hkey : Alone base key) (doomed : Score → Bool) :
    ∃ s', s.dropPending t key doomed = .ok s' ∧
      s'.Shows base (current.revise key (Contents.drop doomed)) := by
  obtain ⟨s', hload, hs', hin⟩ := h.load ht hkey
  refine ⟨_, by rw [Staged.dropPending, hload]; rfl, hs'.replace ?_ ?_ ?_ ?_ ?_⟩
  · intro m state hm
    rw [OrderedMap.get?_mapValues, Option.map_eq_some_iff] at hm
    obtain ⟨old, hold, -⟩ := hm
    exact hs'.named hold
  · intro m state hm
    rw [OrderedMap.get?_mapValues, Option.map_eq_some_iff] at hm
    obtain ⟨old, hold, rfl⟩ := hm
    rw [hs'.touched hold]
    rfl
  · intro m hm
    rw [OrderedMap.get?_mapValues, Option.map_eq_none_iff] at hm
    rw [hs'.untouched hm, hs'.loaded hin hm]
    rfl
  · intro k hk
    exact .inl hk
  · intro _ m hm
    rw [OrderedMap.get?_mapValues, Option.map_eq_none_iff] at hm
    exact hs'.loaded hin hm

/-! ### Values and commands -/

theorem putValue (h : s.Shows base current) (key : String) (v : Option Dated) :
    (s.putValue key (v.map Dated.row)).Shows base (current.putValue key v) := by
  constructor
  case touched => exact h.touched
  case untouched => exact h.untouched
  case loaded => exact h.loaded
  case written =>
    intro k row hk
    rw [Staged.putValue, OrderedMap.get?_insert] at hk
    by_cases heq : k = key
    · simp only [heq, if_true, Option.some.injEq] at hk
      simp [Contents.putValue, heq, ← hk]
    · rw [if_neg heq] at hk
      simp [Contents.putValue, heq, h.written hk]
  case unwritten =>
    intro k hk
    rw [Staged.putValue, OrderedMap.get?_insert] at hk
    by_cases heq : k = key
    · simp [heq] at hk
    · rw [if_neg heq] at hk
      simp [Contents.putValue, heq, h.unwritten hk]
  case named => exact h.named

/-- A command takes the view to the contents after it. -/
theorem apply (ht : t.Keeps base) (h : s.Shows base current) (now : UInt64)
    {command : Command} (hfits : Fits base command) :
    ∃ s', s.apply t now command = .ok s' ∧
      s'.Shows base (current.apply (stamp now) command) := by
  cases command with
  | set key payload ttl =>
    obtain ⟨s', hclear, hs'⟩ := h.dropPending ht hfits fun _ => true
    refine ⟨_, by rw [Staged.apply, Staged.clear, hclear]; rfl, ?_⟩
    exact hs'.putValue key (some (stamp now payload ttl))
  | delete key =>
    obtain ⟨s', hclear, hs'⟩ := h.dropPending ht hfits fun _ => true
    refine ⟨_, by rw [Staged.apply, Staged.clear, hclear]; rfl, ?_⟩
    exact hs'.putValue key none
  | rank key member score =>
    exact (h.putValue key none).setPending ht hfits member (some score)
  | unrank key member => exact h.setPending ht hfits member none
  | unrankRange key min max => exact h.dropPending ht hfits (Score.within min max)

theorem applyAll (ht : t.Keeps base) (h : s.Shows base current) (now : UInt64)
    {commands : List Command} (hfits : ∀ c ∈ commands, Fits base c) :
    ∃ s', s.applyAll t now commands = .ok s' ∧
      s'.Shows base (current.applyAll (stamp now) commands) := by
  induction commands generalizing s current with
  | nil => exact ⟨s, rfl, h⟩
  | cons command commands ih =>
    obtain ⟨s', happly, hs'⟩ := h.apply ht now (hfits command List.mem_cons_self)
    obtain ⟨s'', hrest, hs''⟩ := ih hs' fun c hc => hfits c (List.mem_cons_of_mem _ hc)
    refine ⟨s'', ?_, hs''⟩
    rw [Staged.applyAll, List.foldlM_cons, happly]
    exact hrest

end Shows

end Staged

end JobResults.Embedded
