/-
This file says which reading the filter of the server rejects when the three readings differ.
The squares of the three z-scores add up to three, so only one of them exceeds the threshold.
-/

import DataStreamPilot.Proof.Server.KeptReadings

namespace DataStreamPilot.Server

open Library Finset

/-- The sensors whose readings pass. -/
def keptSensors (readings : Fin 3 → ℤ) (threshold : ℚ) : Finset (Fin 3) :=
  univ.filter fun sensor => passes readings threshold sensor = true

/-- Two of the three readings differ. -/
def Differ (readings : Fin 3 → ℤ) : Prop := ∃ first second, readings first ≠ readings second

/-- A median has one of the other two readings on each side. -/
def IsMedian (readings : Fin 3 → ℤ) (median : Fin 3) : Prop :=
  ∃ low high, low ≠ median ∧ high ≠ median ∧ low ≠ high ∧
    readings low ≤ readings median ∧ readings median ≤ readings high

theorem length_correctValues (readings : Fin 3 → ℤ) (threshold : ℚ) :
    (correctValues readings threshold).length = (keptSensors readings threshold).card := by
  rw [keptSensors, card_filter, Fin.sum_univ_three, correctValues]
  split <;> split <;> split <;> rfl

theorem sum_correctValues (readings : Fin 3 → ℤ) (threshold : ℚ) :
    ((correctValues readings threshold).map fun reading : ℤ => (reading : ℚ)).sum =
      ∑ sensor ∈ keptSensors readings threshold, (readings sensor : ℚ) := by
  rw [keptSensors, sum_filter, Fin.sum_univ_three, correctValues]
  split <;> split <;> split <;> simp [add_assoc]

theorem differ_iff (readings : Fin 3 → ℤ) :
    Differ readings ↔ ¬ (readings 0 = readings 1 ∧ readings 1 = readings 2) := by
  constructor
  · rintro ⟨first, second, unequal⟩ equal
    have same (sensor : Fin 3) : readings sensor = readings 1 := by
      fin_cases sensor
      exacts [equal.1, rfl, equal.2.symm]
    exact unequal ((same first).trans (same second).symm)
  · intro unequal
    by_contra none
    exact unequal ⟨by_contra fun apart => none ⟨0, 1, apart⟩,
      by_contra fun apart => none ⟨1, 2, apart⟩⟩

/-- Readings that differ have a spread. -/
theorem Differ.spread_ne_zero {readings : Fin 3 → ℤ} (differ : Differ readings) :
    spread (readingList readings) ≠ 0 := by
  rw [readingList_eq, Ne, spread_eq_zero_iff]
  exact (differ_iff readings).mp differ

/-- A reading that does not pass is an outlier. -/
theorem Differ.passes_eq_false_iff {readings : Fin 3 → ℤ} (differ : Differ readings)
    (sensor : Fin 3) :
    passes readings zThreshold sensor = false ↔
      sensor ∈ outliers (readingSample readings) (zThreshold ^ 2) := by
  rw [passes_iff, keepsValue, decide_eq_false_iff_not, ← not_iff_not, not_not,
    not_mem_outliers_iff]
  exact and_iff_right differ.spread_ne_zero

/-- The test of the z-score without the division. -/
theorem Differ.passes_iff_sq {readings : Fin 3 → ℤ} (differ : Differ readings) (sensor : Fin 3) :
    passes readings zThreshold sensor = true ↔
      ((readings sensor : ℚ) - meanReading readings) ^ 2 ≤
        zThreshold ^ 2 * stdDevReadingSquared readings := by
  rw [← not_iff_not, Bool.not_eq_true, differ.passes_eq_false_iff, mem_outliers, not_le,
    meanReading_eq, stdDevReadingSquared_eq]
  rfl

/-- A rejected reading is farther from the mean than both others. -/
theorem Differ.farthest {readings : Fin 3 → ℤ} (differ : Differ readings) {sensor : Fin 3}
    (rejected : passes readings zThreshold sensor = false) (other : Fin 3)
    (distinct : other ≠ sensor) :
    (readingSample readings other - meanReading readings) ^ 2 <
      (readingSample readings sensor - meanReading readings) ^ 2 := by
  have large : (Fintype.card (Fin 3) : ℚ) ≤ 2 * zThreshold ^ 2 := by
    rw [Fintype.card_fin, zThreshold]
    norm_num
  rw [meanReading_eq]
  exact sq_sub_mean_lt_of_mem_outliers large ((differ.passes_eq_false_iff sensor).mp rejected)
    other distinct

/-- A rejected reading is the only smallest or the only largest reading. -/
theorem Differ.extremum {readings : Fin 3 → ℤ} (differ : Differ readings) {sensor : Fin 3}
    (rejected : passes readings zThreshold sensor = false) :
    (∀ other ≠ sensor, readings sensor < readings other) ∨
      ∀ other ≠ sensor, readings other < readings sensor := by
  rcases isExtremum_of_sq_sub_lt (differ.farthest rejected) with least | greatest
  · exact Or.inl fun other distinct => Int.cast_lt.mp (least other distinct)
  · exact Or.inr fun other distinct => Int.cast_lt.mp (greatest other distinct)

/-- Two rejected readings would both be the farthest one. -/
theorem Differ.rejected_unique {readings : Fin 3 → ℤ} (differ : Differ readings)
    {first second : Fin 3} (firstRejected : passes readings zThreshold first = false)
    (secondRejected : passes readings zThreshold second = false) : first = second := by
  by_contra distinct
  have nearer := differ.farthest secondRejected first distinct
  exact nearer.asymm (differ.farthest firstRejected second (Ne.symm distinct))

theorem Differ.passes_median {readings : Fin 3 → ℤ} (differ : Differ readings) {median : Fin 3}
    (middle : IsMedian readings median) : passes readings zThreshold median = true := by
  by_contra rejected
  rw [Bool.not_eq_true] at rejected
  obtain ⟨low, high, lowOther, highOther, _, below, above⟩ := middle
  rcases differ.extremum rejected with least | greatest
  · exact absurd below (not_le.mpr (least low lowOther))
  · exact absurd above (not_le.mpr (greatest high highOther))

/-- Two or three readings are kept. -/
theorem Differ.card_keptSensors {readings : Fin 3 → ℤ} (differ : Differ readings) :
    (keptSensors readings zThreshold).card = 2 ∨ (keptSensors readings zThreshold).card = 3 := by
  have total : (keptSensors readings zThreshold).card +
      (univ.filter fun sensor => ¬ passes readings zThreshold sensor = true).card = 3 :=
    card_filter_add_card_filter_not _
  have single :
      (univ.filter fun sensor => ¬ passes readings zThreshold sensor = true).card ≤ 1 := by
    apply card_le_one.mpr
    intro first firstMember second secondMember
    exact differ.rejected_unique (Bool.not_eq_true _ ▸ (mem_filter.mp firstMember).2)
      (Bool.not_eq_true _ ▸ (mem_filter.mp secondMember).2)
  omega

theorem Differ.keptSensors_nonempty {readings : Fin 3 → ℤ} (differ : Differ readings) :
    (keptSensors readings zThreshold).Nonempty := by
  have count := differ.card_keptSensors
  rw [← card_pos]
  omega

/-- The filter returns the mean of the kept readings. -/
theorem Differ.filterOutliers_eq {readings : Fin 3 → ℤ} (differ : Differ readings) :
    filterOutliers readings zThreshold = some (.real
      ((∑ sensor ∈ keptSensors readings zThreshold, (readings sensor : ℚ)) /
        (keptSensors readings zThreshold).card)) := by
  have kept : correctValues readings zThreshold ≠ [] :=
    fun empty => (differ_iff readings).mp differ ((correctValues_eq_nil_iff readings).mp empty)
  rw [filterOutliers, npMean_of_ne_nil kept, sum_correctValues, length_correctValues]

/-- What the filter does with its readings. -/
structure RejectsExtremum (readings : Fin 3 → ℤ) : Prop where
  test : ∀ sensor, passes readings zThreshold sensor = true ↔
    ((readings sensor : ℚ) - meanReading readings) ^ 2 ≤
      zThreshold ^ 2 * stdDevReadingSquared readings
  unique : ∀ first second, passes readings zThreshold first = false →
    passes readings zThreshold second = false → first = second
  extremum : ∀ rejected, passes readings zThreshold rejected = false →
    (∀ other, readings rejected ≤ readings other) ∨ ∀ other, readings other ≤ readings rejected
  farthest : ∀ rejected, passes readings zThreshold rejected = false → ∀ other ≠ rejected,
    |(readings other : ℚ) - meanReading readings| < |(readings rejected : ℚ) - meanReading readings|
  median : ∀ median, IsMedian readings median → passes readings zThreshold median = true
  count : (keptSensors readings zThreshold).card = 2 ∨ (keptSensors readings zThreshold).card = 3
  result : ∃ result, filterOutliers readings zThreshold = some (.real result) ∧
    result = (∑ sensor ∈ keptSensors readings zThreshold, (readings sensor : ℚ)) /
      (keptSensors readings zThreshold).card ∧
    WithinRange (List.ofFn fun sensor => (readings sensor : ℚ)) result

/-- Of three readings that are not all equal at most one is rejected, which is the smallest or the
largest one and farther from the mean than both others. The result is the mean of the others. -/
theorem filterOutliers_rejectsExtremum (readings : Fin 3 → ℤ) (differ : Differ readings) :
    RejectsExtremum readings where
  test := differ.passes_iff_sq
  unique _ _ := differ.rejected_unique
  extremum rejected isRejected := by
    rcases differ.extremum isRejected with least | greatest
    · refine Or.inl fun other => ?_
      rcases eq_or_ne other rejected with rfl | distinct
      · exact le_rfl
      · exact (least other distinct).le
    · refine Or.inr fun other => ?_
      rcases eq_or_ne other rejected with rfl | distinct
      · exact le_rfl
      · exact (greatest other distinct).le
  farthest rejected isRejected other distinct :=
    sq_lt_sq.mp (differ.farthest isRejected other distinct)
  median _ := differ.passes_median
  count := differ.card_keptSensors
  result := by
    obtain ⟨⟨low, _, below⟩, high, _, above⟩ :=
      exists_sum_div_card_between (fun sensor => (readings sensor : ℚ)) differ.keptSensors_nonempty
    exact ⟨_, differ.filterOutliers_eq, rfl, ⟨_, List.mem_ofFn.mpr ⟨low, rfl⟩, below⟩, _,
      List.mem_ofFn.mpr ⟨high, rfl⟩, above⟩

/-- Two readings near each other and a hot one. -/
theorem filterOutliers_rejectsExtremum_hot : RejectsExtremum ![2000, 2100, 9000] :=
  filterOutliers_rejectsExtremum ![2000, 2100, 9000] ⟨0, 1, by decide⟩

end DataStreamPilot.Server
