/-
This file compares the statistics of a cleaned window with those of the entries that survived.
The average skips every zero, and the standard deviation counts every zero.
-/

import DataStreamPilot.Proof.Node.EmptiedWindow

namespace DataStreamPilot.Node

open Library Finset

/-- The slots whose entries are within two standard deviations of the mean. -/
def inliers (data : Window) : Finset (Fin windowSize) :=
  univ.filter fun i => (sample data i - mean (sample data)) ^ 2 ≤ 4 * variance (sample data)

theorem mem_inliers_iff (data : Window) (i : Fin windowSize) :
    i ∈ inliers data ↔ i ∉ windowOutliers data := by
  rw [windowOutliers_eq, mem_outliers, not_lt, inliers, mem_filter, and_iff_right (mem_univ i)]

theorem inliers_nonempty (data : Window) : (inliers data).Nonempty := by
  obtain ⟨i, near⟩ := exists_notMem_outliers (sample data) (by norm_num : (1 : ℚ) ≤ 4)
  rw [← windowOutliers_eq] at near
  exact ⟨i, (mem_inliers_iff data i).mpr near⟩

/-- The pass is `remove_outliers` with the statistics of the window. -/
theorem removeOutliers_mean_variance (data : Window) :
    removeOutliers data (mean (sample data)) (variance (sample data)) = outlierPass data := by
  rw [outlierPass, windowMean_eq, calculateStddevSquared_mean]

/-- The cleaned window as a sample. -/
theorem sample_outlierPass (data : Window) (i : Fin windowSize) :
    sample (outlierPass data) i = if i ∈ inliers data then sample data i else 0 := by
  rw [sample, outlierPass_get]
  by_cases far : i ∈ windowOutliers data
  · rw [if_pos far, if_neg fun near => (mem_inliers_iff data i).mp near far]
    rfl
  · rw [if_neg far, if_pos ((mem_inliers_iff data i).mpr far)]
    rfl

theorem nonZeroSlots_outlierPass (data : Window) :
    nonZeroSlots (outlierPass data) = (inliers data).filter fun i => data.get i ≠ 0 := by
  ext i
  rw [mem_nonZeroSlots_outlierPass, mem_filter, mem_inliers_iff, and_comm]

/-- An inlier that is zero adds nothing to the sum. -/
theorem sum_nonZeroSlots_outlierPass (data : Window) :
    ∑ i ∈ nonZeroSlots (outlierPass data), sample (outlierPass data) i =
      ∑ i ∈ inliers data, sample data i := by
  rw [nonZeroSlots_outlierPass, sum_filter]
  refine sum_congr rfl fun i near => ?_
  rw [sample_outlierPass, if_pos near]
  by_cases present : data.get i ≠ 0
  · exact if_pos present
  · rw [if_neg present, sample, not_not.mp present]
    rfl

/-- The average of the cleaned window is the mean of the inliers when no inlier is zero. -/
theorem calculateAverage_of_inliers_nonZero {data : Window}
    (present : ∀ i ∈ inliers data, data.get i ≠ 0) :
    calculateAverage (outlierPass data) = .real (mean ((inliers data).restrict (sample data))) := by
  have counted : nonZeroSlots (outlierPass data) = inliers data := by
    rw [nonZeroSlots_outlierPass]
    exact filter_true_of_mem present
  rw [calculateAverage_of_nonempty _ (counted ▸ inliers_nonempty data),
    sum_nonZeroSlots_outlierPass, counted, mean_restrict]

/-- A zero of the window is an inlier unless the mean is too far from it. -/
theorem inliers_nonZero_iff (data : Window) :
    (∀ i ∈ inliers data, data.get i ≠ 0) ↔
      (∀ i : Fin windowSize, data.get i ≠ 0) ∨ 52 * entrySquares data < entrySum data ^ 2 := by
  have test (i : Fin windowSize) (zero : data.get i = 0) :
      i ∈ inliers data ↔ entrySum data ^ 2 ≤ 52 * entrySquares data := by
    rw [mem_inliers_iff, not_mem_windowOutliers_iff, zero]
    show ((65 : ℤ) * 0 - entrySum data) ^ 2 ≤ 4 * (65 * entrySquares data - entrySum data ^ 2) ↔ _
    rw [mul_zero, zero_sub, neg_sq]
    omega
  constructor
  · intro present
    by_cases zeros : ∀ i : Fin windowSize, data.get i ≠ 0
    · exact Or.inl zeros
    · obtain ⟨i, zero⟩ := not_forall_not.mp zeros
      exact Or.inr (not_le.mp fun near => present i ((test i zero).mpr near) zero)
  · intro condition i near zero
    rcases condition with present | far
    · exact present i zero
    · exact absurd ((test i zero).mp near) (not_le.mpr far)

/-- No inlier of the window is zero, or the inliers add up to zero without all being zero. -/
def ZerosHarmless (data : Window) : Prop :=
  (∀ i : Fin windowSize, data.get i ≠ 0) ∨ 52 * entrySquares data < entrySum data ^ 2 ∨
    ∑ i ∈ inliers data, (data.get i).toInt = 0 ∧ ∃ i ∈ inliers data, data.get i ≠ 0

/-- The average after `remove_outliers` is the mean of all inliers exactly when the zeros of the
window are harmless. -/
theorem calculateAverage_removeOutliers_iff (data : Window) :
    calculateAverage (removeOutliers data (mean (sample data)) (variance (sample data))) =
        .real (mean ((inliers data).restrict (sample data))) ↔ ZerosHarmless data := by
  rw [removeOutliers_mean_variance, ZerosHarmless, ← or_assoc, ← inliers_nonZero_iff]
  constructor
  · intro isMean
    rcases (nonZeroSlots (outlierPass data)).eq_empty_or_nonempty with empty | counted
    · rw [calculateAverage_of_empty _ empty] at isMean
      cases isMean
    · rw [calculateAverage_of_nonempty _ counted, sum_nonZeroSlots_outlierPass,
        mean_restrict, ExactFloat.real.injEq, sum_sample] at isMean
      rw [nonZeroSlots_outlierPass] at isMean counted
      by_cases cancel : ∑ i ∈ inliers data, (data.get i).toInt = 0
      · obtain ⟨i, member⟩ := counted
        obtain ⟨near, present⟩ := mem_filter.mp member
        exact Or.inr ⟨cancel, i, near, present⟩
      · rw [div_eq_mul_inv, div_eq_mul_inv, mul_right_inj' (Int.cast_ne_zero.mpr cancel), inv_inj,
          Nat.cast_inj] at isMean
        exact Or.inl (card_filter_eq_iff.mp isMean)
  · rintro (present | ⟨cancel, i, near, present⟩)
    · exact calculateAverage_of_inliers_nonZero present
    · have counted : (nonZeroSlots (outlierPass data)).Nonempty := by
        rw [nonZeroSlots_outlierPass]
        exact ⟨i, mem_filter.mpr ⟨near, present⟩⟩
      rw [calculateAverage_of_nonempty _ counted, sum_nonZeroSlots_outlierPass, mean_restrict,
        sum_sample, cancel, Int.cast_zero, zero_div, zero_div]

/-- Half of the entries are one degree and the others are zero degrees. -/
def freezing : Window := Vector.ofFn fun i => if i.val < 33 then 100 else 0

/-- All entries of this window are inliers, and the average leaves the zeros out. -/
theorem calculateAverage_removeOutliers_counterexample :
    inliers freezing = univ ∧
      calculateAverage (removeOutliers freezing (mean (sample freezing))
        (variance (sample freezing))) = .real 100 ∧
      calculateAverage (removeOutliers freezing (mean (sample freezing))
        (variance (sample freezing))) ≠
          .real (mean ((inliers freezing).restrict (sample freezing))) := by
  decide +kernel

/-- The statistics that an iteration leaves behind are those of the entries that survived. -/
def DescribesSurvivors (state : State) (data : Window) : Prop :=
  state.avgTemp = .real (mean ((inliers data).restrict (sample data))) ∧
    state.stddevSquared = .real (variance ((inliers data).restrict (sample data)))

instance (state : State) (data : Window) : Decidable (DescribesSurvivors state data) :=
  inferInstanceAs (Decidable (_ ∧ _))

/-- No entry was removed, or the variance of the inliers is the square of their mean. -/
def RemovalHarmless (data : Window) : Prop :=
  windowOutliers data = ∅ ∨
    (inliers data).card * ∑ i ∈ inliers data, (data.get i).toInt ^ 2 =
      2 * (∑ i ∈ inliers data, (data.get i).toInt) ^ 2

/-- The loop counts a removed entry as a zero, so it adds the square of the mean to the sum. -/
theorem calculateStddevSquared_outlierPass_iff (data : Window) :
    calculateStddevSquared (outlierPass data) (mean ((inliers data).restrict (sample data))) =
        variance ((inliers data).restrict (sample data)) ↔ RemovalHarmless data := by
  have removed : (inliers data)ᶜ = windowOutliers data := by
    ext i
    rw [mem_compl, mem_inliers_iff, not_not]
  have size : (windowSize : ℚ) = Fintype.card (Fin windowSize) := by rw [Fintype.card_fin]
  rw [calculateStddevSquared_eq, size]
  simp only [sample_outlierPass]
  rw [zeroed_eq_variance_iff (sample data) (inliers_nonempty data), removed, sum_sample,
    sum_sample_sq, RemovalHarmless]
  norm_cast

/-- After an iteration on a window of non-zero readings the average and the standard deviation
describe the readings that survived exactly when the removal was harmless. -/
theorem acceptReading_describesSurvivors_iff (state : State) (reading : Int16)
    (nonzero : ∀ i : Fin windowSize, (store state.tempList state.currentIndex reading).get i ≠ 0) :
    DescribesSurvivors (acceptReading state reading)
        (store state.tempList state.currentIndex reading) ↔
      RemovalHarmless (store state.tempList state.currentIndex reading) := by
  have average := calculateAverage_of_inliers_nonZero fun i _ => nonzero i
  simp only [DescribesSurvivors, acceptReading, average, cleanedStddevSquared, true_and,
    ExactFloat.real.injEq, calculateStddevSquared_outlierPass_iff]

/-- A reading of 21 degrees at a steady temperature of 20 degrees. -/
theorem acceptReading_describesSurvivors_iff_steady :
    DescribesSurvivors (acceptReading (start 2000) 2100) (store (start 2000).tempList 0 2100) ↔
      RemovalHarmless (store (start 2000).tempList 0 2100) :=
  acceptReading_describesSurvivors_iff (start 2000) 2100 (by decide +kernel)

/-- A removed spike leaves a standard deviation, although all other readings are equal. -/
theorem acceptReading_describesSurvivors_counterexample :
    (∀ i : Fin windowSize, (store (start 2000).tempList 0 10000).get i ≠ 0) ∧
      variance ((inliers (store (start 2000).tempList 0 10000)).restrict
        (sample (store (start 2000).tempList 0 10000))) = 0 ∧
      (acceptReading (start 2000) 10000).stddevSquared = .real (2000 ^ 2 / 65) ∧
      ¬ DescribesSurvivors (acceptReading (start 2000) 10000)
        (store (start 2000).tempList 0 10000) := by
  decide +kernel

end DataStreamPilot.Node
