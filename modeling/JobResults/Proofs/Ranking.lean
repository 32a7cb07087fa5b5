import Mathlib.Data.List.Sort
import JobResults.Memory.RankedSet

/-!
  # Rankings

  A ranking is a strictly ascending list of ranked members.  It is determined by its members
  (`eq_of_mem_iff`).  In a ranking, a search that starts at one end of a range of scores and stops
  beyond the other finds exactly what a look at every score would find (`ascending_search`,
  `descending_search`).
-/

namespace JobResults

/-! ### Searches that stop early -/

section Search

variable {α : Type} {p : α → Bool}

/-- Where a test once failed always fails, stopping at the first failure loses nothing. -/
theorem takeWhile_eq_filter {l : List α} (h : l.Pairwise fun a b => p b = true → p a = true) :
    l.takeWhile p = l.filter p := by
  induction l with
  | nil => rfl
  | cons a l ih =>
    obtain ⟨ha, hl⟩ := List.pairwise_cons.1 h
    by_cases hp : p a = true
    · rw [List.takeWhile_cons_of_pos hp, List.filter_cons_of_pos hp, ih hl]
    · have hnone : l.filter p = [] := by
        rw [List.filter_eq_nil_iff]
        intro b hb hpb
        exact hp (ha b hb hpb)
      rw [List.takeWhile_cons_of_neg hp, List.filter_cons_of_neg hp, hnone]

theorem dropWhile_eq_filter {l : List α} (h : l.Pairwise fun a b => p b = true → p a = true) :
    l.dropWhile p = l.filter fun a => !p a := by
  induction l with
  | nil => rfl
  | cons a l ih =>
    obtain ⟨ha, hl⟩ := List.pairwise_cons.1 h
    by_cases hp : p a = true
    · rw [List.dropWhile_cons_of_pos hp, ih hl]
      simp [hp]
    · have hall : (a :: l).filter (fun a => !p a) = a :: l := by
        rw [List.filter_eq_self]
        intro b hb
        rcases List.mem_cons.1 hb with rfl | hb
        · simpa using hp
        · simp only [Bool.not_eq_eq_eq_not, Bool.not_true]
          exact Bool.eq_false_iff.2 fun hpb => hp (ha b hb hpb)
      rw [List.dropWhile_cons_of_neg hp, hall]

end Search

namespace Memory.Ranked

/-! ### Ascending lists -/

theorem score_le_of_lt {a b : Ranked} (h : a < b) : a.score ≤ b.score := by
  rcases lt_iff.1 h with h | ⟨h, -⟩
  · exact Int64.le_of_lt h
  · exact h ▸ Int64.le_refl _

instance : Std.Irrefl ((· < ·) : Ranked → Ranked → Prop) := ⟨KeyOrder.irrefl⟩

instance : Std.Antisymm ((· < ·) : Ranked → Ranked → Prop) :=
  ⟨fun a _ hab hba => absurd (KeyOrder.trans hab hba) (KeyOrder.irrefl a)⟩

/-- A ranking is determined by its members. -/
theorem eq_of_mem_iff {l l' : List Ranked} (h : l.Pairwise (· < ·)) (h' : l'.Pairwise (· < ·))
    (hmem : ∀ r, r ∈ l ↔ r ∈ l') : l = l' :=
  List.Pairwise.eq_of_mem_iff h h' hmem

/-- Sorting from the highest rank down lists a ranking backwards. -/
theorem mergeSort_eq_reverse {l l' : List Ranked} (h : l.Pairwise (· < ·)) (h' : l'.Nodup)
    (hmem : ∀ r, r ∈ l' ↔ r ∈ l) :
    l'.mergeSort (fun a b => !decide (a < b)) = l.reverse := by
  have hsorted : (l'.mergeSort fun a b => !decide (a < b)).Pairwise fun a b => ¬ a < b := by
    have hle := @List.pairwise_mergeSort Ranked (fun a b => !decide (a < b)) ?_ ?_ l'
    · simpa using hle
    · intro a b c hab hbc
      simp only [Bool.not_eq_eq_eq_not, Bool.not_true, decide_eq_false_iff_not] at hab hbc ⊢
      intro hac
      by_cases hba : b < a
      · exact hbc (KeyOrder.trans hba hac)
      · exact hbc (KeyOrder.connected hab hba ▸ hac)
    · intro a b
      by_cases hab : a < b
      · have hba : ¬ b < a := fun hba => KeyOrder.irrefl a (KeyOrder.trans hab hba)
        simp [hba]
      · simp [hab]
  have hdesc : l.reverse.Pairwise fun a b => ¬ a < b :=
    List.pairwise_reverse.2 (h.imp fun hab hba => KeyOrder.irrefl _ (KeyOrder.trans hab hba))
  have hnodup : l.Nodup := by
    refine h.imp ?_
    intro a b hab heq
    exact KeyOrder.irrefl b (heq ▸ hab)
  have hperm : (l'.mergeSort fun a b => !decide (a < b)).Perm l.reverse :=
    (List.mergeSort_perm l' _).trans
      (((List.perm_ext_iff_of_nodup h' hnodup).2 hmem).trans l.reverse_perm.symm)
  refine List.Perm.eq_of_pairwise ?_ hsorted hdesc hperm
  intro a b _ _ hab hba
  exact KeyOrder.connected hab hba

def inRange (min max : Score) (r : Ranked) : Bool := Score.within min max r.score

theorem inRange_iff {min max : Score} {r : Ranked} :
    r.inRange min max = true ↔ min ≤ r.score ∧ r.score ≤ max := by
  simp [inRange, Score.within]

/-- Upwards from the first score in range to the last one. -/
theorem ascending_search {l : List Ranked} (h : l.Pairwise (· < ·)) (min max : Score) :
    (l.dropWhile (·.score < min)).takeWhile (·.score ≤ max) = l.filter (inRange min max) := by
  have hlow : l.Pairwise fun a b =>
      decide (b.score < min) = true → decide (a.score < min) = true := by
    refine h.imp fun {a b} hab hb => ?_
    simp only [decide_eq_true_eq] at hb ⊢
    exact Int64.lt_of_le_of_lt (score_le_of_lt hab) hb
  have hhigh : l.Pairwise fun a b =>
      decide (b.score ≤ max) = true → decide (a.score ≤ max) = true := by
    refine h.imp fun {a b} hab hb => ?_
    simp only [decide_eq_true_eq] at hb ⊢
    exact Int64.le_trans (score_le_of_lt hab) hb
  rw [dropWhile_eq_filter hlow, takeWhile_eq_filter (hhigh.filter _), List.filter_filter]
  refine List.filter_congr fun r _ => ?_
  rw [Bool.eq_iff_iff, inRange_iff]
  simp [and_comm]

/-- Downwards from the last score in range to the first one. -/
theorem descending_search {l : List Ranked} (h : l.Pairwise (· < ·)) (min max : Score) :
    (l.reverse.dropWhile (max < ·.score)).takeWhile (min ≤ ·.score)
      = (l.filter (inRange min max)).reverse := by
  have hrev : l.reverse.Pairwise fun a b => b < a := List.pairwise_reverse.2 h
  have hhigh : l.reverse.Pairwise fun a b =>
      decide (max < b.score) = true → decide (max < a.score) = true := by
    refine hrev.imp fun {a b} hab hb => ?_
    simp only [decide_eq_true_eq] at hb ⊢
    exact Int64.lt_of_lt_of_le hb (score_le_of_lt hab)
  have hlow : l.reverse.Pairwise fun a b =>
      decide (min ≤ b.score) = true → decide (min ≤ a.score) = true := by
    refine hrev.imp fun {a b} hab hb => ?_
    simp only [decide_eq_true_eq] at hb ⊢
    exact Int64.le_trans hb (score_le_of_lt hab)
  rw [dropWhile_eq_filter hhigh, takeWhile_eq_filter (hlow.filter _), List.filter_filter,
    ← List.filter_reverse]
  refine List.filter_congr fun r _ => ?_
  rw [Bool.eq_iff_iff, inRange_iff]
  simp

end Memory.Ranked

end JobResults
