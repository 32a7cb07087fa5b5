import JobResults.Purge
import JobResults.Proofs.JobTable

/-!
  # The cutoff of a purge

  A purge computes its cutoff in 64-bit arithmetic that stops at the ends of the range.  No score
  tells this cutoff from the exact difference (`stale_exactCutoff`).
-/

namespace JobResults

/-- The end of a window before a clock reading, as an exact integer.  Windows count at most
    `2 ^ 63 - 1` nanoseconds. -/
def exactCutoff (clock : Score) (window : Duration) : Int :=
  clock.toInt - min (Int.ofNat window.nanos) (2 ^ 63 - 1)

theorem Score.toInt_clamp (v : Int) : (Score.clamp v).toInt = max (-2 ^ 63) (min v (2 ^ 63 - 1)) :=
  Int64.toInt_ofInt_of_le (by omega) (by omega)

theorem Duration.toInt_signedNanos (d : Duration) :
    d.signedNanos.toInt = min (Int.ofNat d.nanos) (2 ^ 63 - 1) := by
  have hnonneg : 0 ≤ Int.ofNat d.nanos := Int.natCast_nonneg _
  exact Int64.toInt_ofInt_of_le (by omega) (by omega)

theorem Engine.cutoff_eq (e : Engine) (window : Duration) :
    e.cutoff window = Score.clamp (exactCutoff e.clock.now window) := by
  rw [Engine.cutoff, Score.subSaturating, Duration.toInt_signedNanos, exactCutoff]

/-- Stopping at the ends of the range makes no difference to scores that are not negative. -/
theorem stale_exactCutoff (clock : Score) (window : Duration) (score : Score) :
    Score.within 0 (Score.clamp (exactCutoff clock window)) score
      = JobTable.stale (exactCutoff clock window) score := by
  have hclock : clock.toInt ≤ 2 ^ 63 - 1 := Int.le_sub_one_of_lt clock.toInt_lt
  have hnanos : 0 ≤ Int.ofNat window.nanos := Int.natCast_nonneg _
  have hcutoff : exactCutoff clock window ≤ 2 ^ 63 - 1 := by
    rw [exactCutoff]
    omega
  rw [Bool.eq_iff_iff]
  simp only [Score.within, JobTable.stale, Bool.and_eq_true, decide_eq_true_eq,
    Int64.le_iff_toInt_le, Score.toInt_clamp, Int64.toInt_zero]
  constructor
  · rintro ⟨hlow, hhigh⟩
    exact ⟨hlow, by omega⟩
  · rintro ⟨hlow, hhigh⟩
    exact ⟨hlow, by omega⟩

end JobResults
