/-
This file gives one specification for each function of the window filter.
The statistics are the mean and the variance of the window as a sample.
-/

import DataStreamPilot.Construction.Node.Filter
import DataStreamPilot.Library.Loop
import DataStreamPilot.Library.Sample

namespace DataStreamPilot.Node

open Library Finset

/-- The window as a sample of rational numbers. -/
def sample (data : Window) (i : Fin windowSize) : ℚ := ((data.get i).toInt : ℚ)

/-- The slots that the average counts. -/
def nonZeroSlots (data : Window) : Finset (Fin windowSize) := univ.filter fun i => data.get i ≠ 0

@[simp] theorem mem_nonZeroSlots (data : Window) (i : Fin windowSize) :
    i ∈ nonZeroSlots data ↔ data.get i ≠ 0 := by
  simp [nonZeroSlots]

/-- The slots that hold one value. -/
def valueSlots (data : Window) (value : Int16) : Finset (Fin windowSize) :=
  univ.filter fun i => data.get i = value

@[simp] theorem mem_valueSlots (data : Window) (value : Int16) (i : Fin windowSize) :
    i ∈ valueSlots data value ↔ data.get i = value := by
  simp [valueSlots]

/-- The entries that lie more than two standard deviations from the mean of the window. -/
def windowOutliers (data : Window) : Finset (Fin windowSize) :=
  outliers (sample data) (deviationFactor ^ 2)

theorem windowOutliers_eq (data : Window) : windowOutliers data = outliers (sample data) 4 := by
  have factor : deviationFactor ^ 2 = 4 := by norm_num [deviationFactor]
  rw [windowOutliers, factor]

theorem sample_eq_iff {data : Window} {i : Fin windowSize} {value : Int16} :
    sample data i = (value.toInt : ℚ) ↔ data.get i = value := by
  rw [sample, Int.cast_inj, Int16.toInt_inj]

/-- The sum of some entries is an integer. -/
theorem sum_sample (data : Window) (group : Finset (Fin windowSize)) :
    ∑ i ∈ group, sample data i = ((∑ i ∈ group, (data.get i).toInt : ℤ) : ℚ) :=
  (Int.cast_sum _ _).symm

theorem sum_sample_sq (data : Window) (group : Finset (Fin windowSize)) :
    ∑ i ∈ group, sample data i ^ 2 = ((∑ i ∈ group, (data.get i).toInt ^ 2 : ℤ) : ℚ) := by
  rw [Int.cast_sum]
  exact sum_congr rfl fun i _ => (Int.cast_pow _ 2).symm

theorem windowSum_eq (data : Window) : windowSum data = ∑ i, sample data i := by
  rw [windowSum, loop_sum, zero_add]
  rfl

theorem windowMean_eq (data : Window) : windowSum data / windowSize = mean (sample data) := by
  rw [windowSum_eq, mean, Fintype.card_fin]

theorem calculateStddevSquared_eq (data : Window) (center : ℚ) :
    calculateStddevSquared data center = (∑ i, (sample data i - center) ^ 2) / windowSize := by
  rw [calculateStddevSquared, loop_sum, zero_add]
  rfl

theorem calculateStddevSquared_mean (data : Window) :
    calculateStddevSquared data (mean (sample data)) = variance (sample data) := by
  rw [calculateStddevSquared_eq, variance, Fintype.card_fin]

/-- The squared test is the comparison with the real standard deviation. -/
theorem isInlier_iff_sqrt (value : Int16) (mean : ℚ) {stddevSquared : ℚ}
    (nonneg : 0 ≤ stddevSquared) :
    isInlier value mean stddevSquared = true ↔
      |(value.toInt : ℝ) - mean| ≤ deviationFactor * √(stddevSquared : ℝ) := by
  rw [isInlier, decide_eq_true_eq, abs_le_mul_sqrt_iff (by norm_num [deviationFactor])
    (Rat.cast_nonneg.mpr nonneg), ← Rat.cast_le (K := ℝ)]
  push_cast
  exact Iff.rfl

/-- The two cursors of the cleaning loop stay equal, so each entry is judged in place. -/
theorem removeOutliers_get (data : Window) (mean stddevSquared : ℚ) (i : Fin windowSize) :
    (removeOutliers data mean stddevSquared).get i =
      if isInlier (data.get i) mean stddevSquared then data.get i else 0 := by
  let judge (value : Int16) : Int16 := if isInlier value mean stddevSquared then value else 0
  let invariant (count : Nat) (state : Window × Nat) : Prop :=
    state.2 = count ∧ ∀ slot : Fin windowSize,
      state.1.get slot = if slot.val < count then judge (data.get slot) else data.get slot
  have step (index : Fin windowSize) (state : Window × Nat) (holds : invariant index.val state) :
      invariant (index.val + 1) (removeOutliersBody mean stddevSquared state index) := by
    obtain ⟨window, j⟩ := state
    obtain ⟨rfl, slots⟩ := holds
    have current : window[index] = data.get index := by
      simpa [vector_get] using slots index
    have written : removeOutliersBody mean stddevSquared (window, index.val) index =
        (window.setIfInBounds index.val (judge (data.get index)), index.val + 1) := by
      simp only [removeOutliersBody, current, judge]
      split <;> rfl
    rw [written]
    refine ⟨rfl, fun slot => ?_⟩
    have other := slots slot
    rcases Nat.lt_trichotomy slot.val index.val with before | same | after
    · simpa [vector_get, Vector.getElem_setIfInBounds, before, Nat.ne_of_gt before,
        Nat.lt_succ_of_lt before] using other
    · obtain rfl := Fin.ext same
      simp [vector_get]
    · simpa [vector_get, Vector.getElem_setIfInBounds, Nat.ne_of_lt after, Nat.not_lt.mpr after.le,
        Nat.not_lt.mpr (Nat.succ_le_of_lt after)] using other
  have done := loop_invariant (removeOutliersBody mean stddevSquared) invariant (data, 0)
    ⟨rfl, fun slot => by simp⟩ step
  have slots := done.2 i
  simpa [removeOutliers, judge] using slots

/-- An entry stays exactly when it is not an outlier of its window. -/
theorem isInlier_iff (data : Window) (i : Fin windowSize) :
    isInlier (data.get i) (mean (sample data)) (variance (sample data)) = true ↔
      i ∉ windowOutliers data := by
  rw [windowOutliers, mem_outliers, isInlier]
  exact decide_eq_true_iff.trans not_lt.symm

/-- The pass sets exactly the outliers of the window to zero. -/
theorem outlierPass_get (data : Window) (i : Fin windowSize) :
    (outlierPass data).get i = if i ∈ windowOutliers data then 0 else data.get i := by
  have test := isInlier_iff data i
  rw [outlierPass, windowMean_eq, calculateStddevSquared_mean, removeOutliers_get]
  by_cases far : i ∈ windowOutliers data
  · rw [if_pos far, if_neg fun near => test.mp near far]
  · rw [if_neg far, if_pos (test.mpr far)]

/-- A window without outliers stays as it is. -/
theorem outlierPass_eq_self {data : Window} (none : windowOutliers data = ∅) :
    outlierPass data = data := by
  apply Vector.ext
  intro i inside
  have slot := outlierPass_get data ⟨i, inside⟩
  rw [none, if_neg (notMem_empty _)] at slot
  exact slot

theorem mem_nonZeroSlots_outlierPass (data : Window) (i : Fin windowSize) :
    i ∈ nonZeroSlots (outlierPass data) ↔ data.get i ≠ 0 ∧ i ∉ windowOutliers data := by
  rw [mem_nonZeroSlots, outlierPass_get]
  by_cases far : i ∈ windowOutliers data
  · simp [far]
  · simp [far]

/-- The averaging loop adds and counts the entries that are not zero. -/
theorem calculateAverageLoop_eq (data : Window) :
    calculateAverageLoop data =
      (∑ i ∈ nonZeroSlots data, sample data i, (nonZeroSlots data).card) := by
  let term (i : Fin windowSize) : ℚ × Nat := if data.get i ≠ 0 then (sample data i, 1) else 0
  have body : (fun (state : ℚ × Nat) (i : Fin windowSize) =>
      if data[i] ≠ 0 then (state.1 + (data[i].toInt : ℚ), state.2 + 1) else state) =
      fun state i => state + term i := by
    funext state i
    by_cases present : data.get i ≠ 0
    · simp only [term, if_pos present]
      exact if_pos present
    · simp only [term, if_neg present, add_zero]
      exact if_neg present
  rw [calculateAverageLoop, body, loop_sum]
  have total : ∑ i, term i = ∑ i ∈ nonZeroSlots data, (sample data i, 1) := by
    rw [nonZeroSlots, sum_filter]
  rw [total]
  refine Prod.ext ?_ ?_
  · simp [Prod.fst_sum]
  · simp [Prod.snd_sum]

/-- The average of a window with a counted entry is a number. -/
theorem calculateAverage_of_nonempty (data : Window) (counted : (nonZeroSlots data).Nonempty) :
    calculateAverage data =
      .real ((∑ i ∈ nonZeroSlots data, sample data i) / (nonZeroSlots data).card) := by
  have positive : ((nonZeroSlots data).card : ℚ) ≠ 0 :=
    Nat.cast_ne_zero.mpr counted.card_pos.ne'
  rw [calculateAverage, calculateAverageLoop_eq]
  exact ExactFloat.div_of_ne_zero positive

/-- The average of equal counted entries is their value. -/
theorem calculateAverage_of_constant (data : Window) (value : Int16)
    (counted : (nonZeroSlots data).Nonempty)
    (same : ∀ i : Fin windowSize, data.get i ≠ 0 → data.get i = value) :
    calculateAverage data = .real value.toInt := by
  have positive : ((nonZeroSlots data).card : ℚ) ≠ 0 :=
    Nat.cast_ne_zero.mpr counted.card_pos.ne'
  have total : ∑ i ∈ nonZeroSlots data, sample data i =
      (nonZeroSlots data).card * (value.toInt : ℚ) := by
    rw [← nsmul_eq_mul, ← sum_const]
    exact sum_congr rfl fun i member =>
      sample_eq_iff.mpr (same i ((mem_nonZeroSlots data i).mp member))
  rw [calculateAverage_of_nonempty data counted, total, mul_div_cancel_left₀ _ positive]

/-- The average of a window without a counted entry is NaN. -/
theorem calculateAverage_of_empty (data : Window) (empty : nonZeroSlots data = ∅) :
    calculateAverage data = .nan := by
  rw [calculateAverage, calculateAverageLoop_eq, empty]
  rfl

/-- Next to one other value, equal entries stay when there are at least thirteen of them. -/
theorem mem_windowOutliers_twoValues (data : Window) {inner outer : Int16}
    (different : inner ≠ outer)
    (two : ∀ i : Fin windowSize, data.get i = inner ∨ data.get i = outer) (i : Fin windowSize)
    (held : data.get i = inner) :
    i ∈ windowOutliers data ↔ (valueSlots data inner).card < 13 := by
  have inside (j : Fin windowSize) (member : j ∈ valueSlots data inner) :
      sample data j = (inner.toInt : ℚ) :=
    sample_eq_iff.mpr ((mem_valueSlots data inner j).mp member)
  have outside (j : Fin windowSize) (member : j ∉ valueSlots data inner) :
      sample data j = (outer.toInt : ℚ) :=
    sample_eq_iff.mpr ((two j).resolve_left (mt (mem_valueSlots data inner j).mpr member))
  have differentValues : (inner.toInt : ℚ) ≠ outer.toInt := by
    rw [Ne, Int.cast_inj, Int16.toInt_inj]
    exact different
  rw [windowOutliers_eq, mem_outliers_twoValues (sample data) 4 (by norm_num)
    (valueSlots data inner) _ _ differentValues inside outside i
    ((mem_valueSlots data inner i).mpr held), Fintype.card_fin]
  have scaled : (4 : ℚ) * (valueSlots data inner).card + (valueSlots data inner).card =
      ((5 * (valueSlots data inner).card : ℕ) : ℚ) := by
    push_cast
    ring
  rw [scaled, Nat.cast_lt]
  show 5 * (valueSlots data inner).card < 65 ↔ _
  omega

/-- Next to zeros only, the counted slots are the slots of the value. -/
theorem nonZeroSlots_of_zeros (data : Window) (value : Int16) (nonzero : value ≠ 0)
    (zeros : ∀ i : Fin windowSize, data.get i = value ∨ data.get i = 0) :
    nonZeroSlots data = valueSlots data value := by
  ext i
  rw [mem_nonZeroSlots, mem_valueSlots]
  constructor
  · exact fun present => (zeros i).resolve_right present
  · intro held
    rw [held]
    exact nonzero

/-- Next to zeros only, equal entries stay when there are at least thirteen of them. -/
theorem mem_windowOutliers_of_zeros (data : Window) (value : Int16) (nonzero : value ≠ 0)
    (zeros : ∀ i : Fin windowSize, data.get i = value ∨ data.get i = 0) (i : Fin windowSize)
    (held : data.get i = value) :
    i ∈ windowOutliers data ↔ (nonZeroSlots data).card < 13 := by
  rw [nonZeroSlots_of_zeros data value nonzero zeros]
  exact mem_windowOutliers_twoValues data nonzero zeros i held

/-- Thirteen equal entries are no outliers, whatever the others are. -/
theorem not_mem_windowOutliers_of_valueSlots (data : Window) (value : Int16)
    (many : 13 ≤ (valueSlots data value).card) (i : Fin windowSize) (held : data.get i = value) :
    i ∉ windowOutliers data := by
  rw [windowOutliers_eq]
  apply not_mem_outliers_of_card_le (sample data) 4 (valueSlots data value) value.toInt
  · intro j member
    exact sample_eq_iff.mpr ((mem_valueSlots data value j).mp member)
  · have counted : (13 : ℚ) ≤ (valueSlots data value).card := by exact_mod_cast many
    rw [Fintype.card_fin]
    push_cast
    linarith
  · exact (mem_valueSlots data value i).mpr held

/-- The pass keeps thirteen equal entries. -/
theorem valueSlots_subset_outlierPass (data : Window) (value : Int16)
    (many : 13 ≤ (valueSlots data value).card) :
    valueSlots data value ⊆ valueSlots (outlierPass data) value := by
  intro i member
  rw [mem_valueSlots] at member ⊢
  have near := not_mem_windowOutliers_of_valueSlots data value many i member
  rw [outlierPass_get, if_neg near, member]

/-- At most sixteen entries of a window are outliers. -/
theorem card_windowOutliers_le (data : Window) : (windowOutliers data).card ≤ 16 := by
  have bound := factor_mul_card_outliers_lt (sample data) 4
  rw [← windowOutliers_eq, Fintype.card_fin] at bound
  have strict : 4 * (windowOutliers data).card < 65 := by exact_mod_cast bound
  omega

end DataStreamPilot.Node
