/-
This file proves that the filter of the denoiser always returns a value in the range of its
readings. The squares of the three z-scores add up to three, so one of them is at most one.
-/

import DataStreamPilot.Construction.Denoiser.FilterOutliers
import DataStreamPilot.Library.Loop
import DataStreamPilot.Library.Sample

namespace DataStreamPilot.Denoiser

open Library Finset

/-- The three readings as a sample. -/
def sample (readings : Fin numSensors → Int16) (i : Fin numSensors) : ℚ := ((readings i).toInt : ℚ)

theorem meanReading_eq (readings : Fin numSensors → Int16) :
    meanReading readings = mean (sample readings) := by
  rw [meanReading, loop_sum, zero_add, mean, Fintype.card_fin]
  rfl

theorem stdDevReadingSquared_eq (readings : Fin numSensors → Int16) :
    stdDevReadingSquared readings = variance (sample readings) := by
  rw [stdDevReadingSquared, loop_sum, zero_add, meanReading_eq, variance, Fintype.card_fin]
  rfl

/-- Zero spread leaves no z-score. -/
theorem zScoreSquared_of_flat {readings : Fin numSensors → Int16}
    (flat : stdDevReadingSquared readings = 0) (i : Fin numSensors) :
    zScoreSquared readings i = .nan := by
  have center : ((readings i).toInt : ℚ) = meanReading readings := by
    rw [stdDevReadingSquared_eq, variance_eq_zero_iff] at flat
    rw [meanReading_eq]
    exact flat i
  rw [zScoreSquared, center, flat]
  simp [ExactFloat.div]

/-- The squared test is the comparison of the real z-score, which zero spread makes false. -/
theorem exceeds_iff_zScore (readings : Fin numSensors → Int16) (i : Fin numSensors)
    (zThreshold : ℚ) :
    exceeds (zScoreSquared readings i) (.real zThreshold) = true ↔
      stdDevReadingSquared readings ≠ 0 ∧ (zThreshold : ℝ) <
        |(((readings i).toInt : ℝ) - meanReading readings) /
          √(stdDevReadingSquared readings : ℝ)| := by
  by_cases flat : stdDevReadingSquared readings = 0
  · rw [zScoreSquared_of_flat flat]
    simp [exceeds, flat]
  · have positive : 0 < stdDevReadingSquared readings := by
      rw [stdDevReadingSquared_eq] at flat ⊢
      exact lt_of_le_of_ne (variance_nonneg _) (Ne.symm flat)
    rw [zScoreSquared, ExactFloat.div_of_ne_zero flat, exceeds, decide_eq_true_eq,
      and_iff_right flat, lt_abs_div_sqrt_iff (Rat.cast_pos.mpr positive)]
    norm_cast

/-- A reading is dropped exactly when it is an outlier. Zero spread drops no reading. -/
theorem exceeds_iff (readings : Fin numSensors → Int16) (i : Fin numSensors) {zThreshold : ℚ}
    (nonneg : 0 ≤ zThreshold) :
    exceeds (zScoreSquared readings i) (.real zThreshold) = true ↔
      i ∈ outliers (sample readings) (zThreshold ^ 2) := by
  rcases (variance_nonneg (sample readings)).eq_or_lt with flat | spread
  · rw [outliers_eq_empty_of_flat flat.symm,
      zScoreSquared_of_flat ((stdDevReadingSquared_eq readings).trans flat.symm)]
    simp [exceeds]
  · rw [zScoreSquared, meanReading_eq, stdDevReadingSquared_eq, mem_outliers,
      ExactFloat.div_of_ne_zero spread.ne', exceeds, decide_eq_true_eq,
      or_iff_right (not_lt.mpr nonneg), lt_div_iff₀ spread]
    rfl

/-- The readings that the loop adds up. -/
def kept (readings : Fin numSensors → Int16) (zThreshold : ExactFloat) : Finset (Fin numSensors) :=
  univ.filter fun i => exceeds (zScoreSquared readings i) zThreshold = false

/-- The loop counts and adds up the kept readings. -/
theorem filterLoop_eq (readings : Fin numSensors → Int16) (zThreshold : ExactFloat) :
    filterLoop readings zThreshold =
      (((kept readings zThreshold).card : ℤ),
        ∑ i ∈ kept readings zThreshold, sample readings i) := by
  let term (i : Fin numSensors) : ℤ × ℚ :=
    if exceeds (zScoreSquared readings i) zThreshold then (-1, 0) else (0, sample readings i)
  have body : filterBody readings zThreshold = fun state i => state + term i := by
    funext state i
    cases dropped : exceeds (zScoreSquared readings i) zThreshold with
    | false => simp [filterBody, term, dropped, sample, Prod.ext_iff]
    | true => simp [filterBody, term, dropped, Prod.ext_iff, sub_eq_add_neg]
  have counted : (kept readings zThreshold).card +
      (univ.filter fun i => ¬ exceeds (zScoreSquared readings i) zThreshold = false).card = 3 :=
    card_filter_add_card_filter_not _
  rw [filterLoop, body, loop_sum]
  refine Prod.ext ?_ ?_
  · have terms : ∑ i, (term i).1 = -((univ.filter fun i =>
        ¬ exceeds (zScoreSquared readings i) zThreshold = false).card : ℤ) := by
      rw [card_filter, Nat.cast_sum, ← sum_neg_distrib]
      refine sum_congr rfl fun i _ => ?_
      cases dropped : exceeds (zScoreSquared readings i) zThreshold with
      | false => simp [term, dropped]
      | true => simp [term, dropped]
    rw [Prod.fst_add, Prod.fst_sum, terms]
    show (3 : ℤ) + _ = _
    omega
  · have terms : ∑ i, (term i).2 = ∑ i ∈ kept readings zThreshold, sample readings i := by
      rw [kept, sum_filter]
      refine sum_congr rfl fun i _ => ?_
      cases dropped : exceeds (zScoreSquared readings i) zThreshold with
      | false => simp [term, dropped]
      | true => simp [term, dropped]
    rw [Prod.snd_add, Prod.snd_sum, terms, zero_add]

/-- A threshold of at least one keeps a reading. -/
theorem kept_nonempty (readings : Fin numSensors → Int16) {zThreshold : ExactFloat}
    (large : zThreshold.ge 1 = true) : (kept readings zThreshold).Nonempty := by
  cases zThreshold with
  | nan => cases large
  | infinity negative =>
      have positive : negative = false := Bool.not_eq_true' negative ▸ large
      refine ⟨0, mem_filter.mpr ⟨mem_univ _, ?_⟩⟩
      rw [positive]
      cases zScoreSquared readings 0 <;> rfl
  | real zThreshold =>
      have atLeastOne : 1 ≤ zThreshold := of_decide_eq_true large
      obtain ⟨i, near⟩ := exists_notMem_outliers (sample readings) (one_le_pow₀ atLeastOne (n := 2))
      rw [← exceeds_iff readings i (zero_le_one.trans atLeastOne), Bool.not_eq_true] at near
      exact ⟨i, mem_filter.mpr ⟨mem_univ i, near⟩⟩

/-- The division by the counter gives the mean of the kept readings. -/
theorem newMeanReading_of_nonempty (readings : Fin numSensors → Int16) {zThreshold : ExactFloat}
    (nonempty : (kept readings zThreshold).Nonempty) :
    newMeanReading readings zThreshold = .real
      ((∑ i ∈ kept readings zThreshold, sample readings i) / (kept readings zThreshold).card) := by
  have positive : ((kept readings zThreshold).card : ℚ) ≠ 0 :=
    Nat.cast_ne_zero.mpr nonempty.card_ne_zero
  rw [newMeanReading, filterLoop_eq]
  exact ExactFloat.div_of_ne_zero positive

/-- The cast of the mean of the kept readings is defined. -/
theorem filterOutliers_of_nonempty (readings : Fin numSensors → Int16) {zThreshold : ExactFloat}
    (nonempty : (kept readings zThreshold).Nonempty) :
    ∃ result, filterOutliers readings zThreshold = some result ∧ result.toInt = truncate
      ((∑ i ∈ kept readings zThreshold, sample readings i) / (kept readings zThreshold).card) := by
  obtain ⟨⟨low, _, below⟩, high, _, above⟩ :=
    exists_sum_div_card_between (sample readings) nonempty
  obtain ⟨result, defined⟩ := toInt16?_between (le_truncate below) (truncate_le above)
  refine ⟨result, ?_, toInt16?_eq_some_iff.mp defined⟩
  rw [filterOutliers, newMeanReading_of_nonempty readings nonempty]
  exact defined

/-- With a threshold of at least one the division and the cast are defined, and the returned value
lies between the smallest and the largest reading. -/
theorem filterOutliers_withinRange (readings : Fin numSensors → Int16) (zThreshold : ExactFloat)
    (large : zThreshold.ge 1 = true) :
    1 ≤ (filterLoop readings zThreshold).1 ∧
      ∃ (average : ℚ) (result : Int16), newMeanReading readings zThreshold = .real average ∧
        WithinRange (List.ofFn fun i => ((readings i).toInt : ℚ)) average ∧
        filterOutliers readings zThreshold = some result ∧ result.toInt = truncate average ∧
        WithinRange (List.ofFn fun i => (readings i).toInt) result.toInt := by
  have nonempty := kept_nonempty readings large
  obtain ⟨⟨low, _, below⟩, high, _, above⟩ :=
    exists_sum_div_card_between (sample readings) nonempty
  obtain ⟨result, returned, same⟩ := filterOutliers_of_nonempty readings nonempty
  refine ⟨?_, _, result, newMeanReading_of_nonempty readings nonempty, ?_, returned, same, ?_⟩
  · rw [filterLoop_eq]
    show (1 : ℤ) ≤ ((kept readings zThreshold).card : ℤ)
    exact_mod_cast nonempty.card_pos
  · exact ⟨⟨_, List.mem_ofFn.mpr ⟨low, rfl⟩, below⟩, _, List.mem_ofFn.mpr ⟨high, rfl⟩, above⟩
  · rw [same]
    exact ⟨⟨_, List.mem_ofFn.mpr ⟨low, rfl⟩, le_truncate below⟩, _,
      List.mem_ofFn.mpr ⟨high, rfl⟩, truncate_le above⟩

/-- The readings and the threshold of the denoiser's own `main`. -/
theorem filterOutliers_withinRange_main :
    1 ≤ (filterLoop ![4150, 4250, 4450] (.real (13 / 10))).1 ∧
      ∃ (average : ℚ) (result : Int16),
        newMeanReading ![4150, 4250, 4450] (.real (13 / 10)) = .real average ∧
        WithinRange (List.ofFn fun i => (((![4150, 4250, 4450] : Fin 3 → Int16) i).toInt : ℚ))
          average ∧
        filterOutliers ![4150, 4250, 4450] (.real (13 / 10)) = some result ∧
        result.toInt = truncate average ∧
        WithinRange (List.ofFn fun i => ((![4150, 4250, 4450] : Fin 3 → Int16) i).toInt)
          result.toInt :=
  filterOutliers_withinRange ![4150, 4250, 4450] (.real (13 / 10))
    (decide_eq_true (by norm_num))

end DataStreamPilot.Denoiser
