/-
This file says when entries that were removed earlier change the verdicts of a later pass.
The zeros leave both power sums as they are, but the pass divides by the size of the whole window.
-/

import DataStreamPilot.Proof.Node.WindowRun

namespace DataStreamPilot.Node

open Library Finset

/-- The entries that are not zero as a sample of their own. -/
def nonZeroSample (data : Window) : nonZeroSlots data → ℚ :=
  (nonZeroSlots data).restrict (sample data)

/-- The pass removes exactly those of the non-zero entries that lie more than two standard
deviations from the mean of the non-zero entries. -/
def IgnoresRemoved (data : Window) : Prop :=
  ∀ i : Fin windowSize, data.get i ≠ 0 →
    ((outlierPass data).get i = 0 ↔
      4 * variance (nonZeroSample data) < (sample data i - mean (nonZeroSample data)) ^ 2)

/-- The side of the outlier test that zeros in the window do not change. -/
def verdictLevel (data : Window) (i : Fin windowSize) : ℚ :=
  4 * ∑ j, sample data j ^ 2 + 2 * (∑ j, sample data j) * sample data i

/-- The bound of the outlier test of a sample with this number of entries. -/
def verdictBound (data : Window) (count : Nat) (i : Fin windowSize) : ℚ :=
  count * sample data i ^ 2 + 5 * (∑ j, sample data j) ^ 2 / count

/-- No entry lies between the bound of the whole window and the bound of the non-zero entries. -/
def VerdictsUnchanged (data : Window) : Prop :=
  ∀ i : Fin windowSize, data.get i ≠ 0 → verdictLevel data i ∉
    Set.Ico (min (verdictBound data windowSize i) (verdictBound data (nonZeroSlots data).card i))
      (max (verdictBound data windowSize i) (verdictBound data (nonZeroSlots data).card i))

/-- A power sum over the window is the power sum over its non-zero entries. -/
theorem sum_nonZeroSample_pow (data : Window) {power : Nat} (positive : power ≠ 0) :
    ∑ i, nonZeroSample data i ^ power = ∑ i, sample data i ^ power := by
  have restricted := sum_coe_sort (nonZeroSlots data) fun i => sample data i ^ power
  refine restricted.trans (sum_subset (subset_univ _) fun i _ zero => ?_)
  rw [mem_nonZeroSlots, not_not] at zero
  rw [sample, zero]
  exact zero_pow positive

theorem sum_nonZeroSample (data : Window) : ∑ i, nonZeroSample data i = ∑ i, sample data i := by
  have powers := sum_nonZeroSample_pow data one_ne_zero
  simpa only [pow_one] using powers

/-- The verdict of the pass. -/
theorem mem_windowOutliers_iff_bound (data : Window) (i : Fin windowSize) :
    i ∈ windowOutliers data ↔ verdictLevel data i < verdictBound data windowSize i := by
  rw [windowOutliers_eq, mem_outliers_iff_bound, Fintype.card_fin, verdictLevel, verdictBound]
  norm_num

/-- The verdict among the non-zero entries. -/
theorem nonZeroOutlier_iff_bound (data : Window) (i : Fin windowSize) (present : data.get i ≠ 0) :
    4 * variance (nonZeroSample data) < (sample data i - mean (nonZeroSample data)) ^ 2 ↔
      verdictLevel data i < verdictBound data (nonZeroSlots data).card i := by
  have member : i ∈ nonZeroSlots data := (mem_nonZeroSlots data i).mpr present
  have nonempty : Nonempty (nonZeroSlots data) := ⟨i, member⟩
  have test := mem_outliers_iff_bound (nonZeroSample data) 4 ⟨i, member⟩
  have entry : nonZeroSample data ⟨i, member⟩ = sample data i := rfl
  rw [mem_outliers, entry, sum_nonZeroSample_pow data two_ne_zero, sum_nonZeroSample,
    Fintype.card_coe] at test
  rw [test, verdictLevel, verdictBound]
  norm_num

/-- Earlier removals leave the verdicts of the pass as they are exactly when no entry lies between
the two bounds. -/
theorem ignoresRemoved_iff (data : Window) : IgnoresRemoved data ↔ VerdictsUnchanged data := by
  refine forall_congr' fun i => imp_congr_right fun present => ?_
  have removed : (outlierPass data).get i = 0 ↔ i ∈ windowOutliers data := by
    rw [outlierPass_get]
    by_cases far : i ∈ windowOutliers data
    · simp [far]
    · simp [far, present]
  rw [removed, mem_windowOutliers_iff_bound, nonZeroOutlier_iff_bound data i present]
  exact lt_iff_lt_iff_notMem_Ico _ _ _

/-- After a removed spike the pass keeps a reading of 21 degrees among readings of 20 degrees,
which is more than two standard deviations from their mean. -/
theorem ignoresRemoved_counterexample :
    (run 2000 [some 10000]).tempList.get 0 = 0 ∧
      ¬ IgnoresRemoved (store (run 2000 [some 10000]).tempList
        (run 2000 [some 10000]).currentIndex 2100) := by
  refine ⟨by decide +kernel, fun ignores => ?_⟩
  have removed := (ignores 1 (by decide +kernel)).mpr (by decide +kernel)
  exact absurd removed (by decide +kernel)

end DataStreamPilot.Node
