/-
This file says which of the three readings the filter of the server keeps.
The test needs only the sum and the sum of the squares, so it does not depend on the order.
-/

import DataStreamPilot.Construction.Server.FilterOutliers
import DataStreamPilot.Library.Sample

namespace DataStreamPilot.Server

open Library

/-- Nine times the variance of three values. -/
def spread (values : List ℤ) : ℤ := 3 * (values.map (· ^ 2)).sum - values.sum ^ 2

/-- The integer form of the test of one value. -/
def keepsValue (values : List ℤ) (value : ℤ) : Bool :=
  decide (spread values ≠ 0 ∧ 100 * (3 * value - values.sum) ^ 2 ≤ 169 * spread values)

/-- The values that pass their own test. -/
def keptValues (values : List ℤ) : List ℤ := values.filter (keepsValue values)

/-- The three readings as a list. -/
def readingList (readings : Fin 3 → ℤ) : List ℤ := List.ofFn readings

theorem readingList_eq (readings : Fin 3 → ℤ) :
    readingList readings = [readings 0, readings 1, readings 2] := by
  simp [readingList, List.ofFn_succ]

/-- The three readings as a sample. -/
def readingSample (readings : Fin 3 → ℤ) (sensor : Fin 3) : ℚ := (readings sensor : ℚ)

theorem meanReading_eq (readings : Fin 3 → ℤ) :
    meanReading readings = mean (readingSample readings) := by
  rw [meanReading, mean, Fin.sum_univ_three, Fintype.card_fin]
  rfl

theorem stdDevReadingSquared_eq (readings : Fin 3 → ℤ) :
    stdDevReadingSquared readings = variance (readingSample readings) := by
  rw [stdDevReadingSquared, meanReading_eq, variance, Fin.sum_univ_three, Fintype.card_fin]
  rfl

/-- The squared test is the comparison of the real z-score, which zero spread makes false. -/
theorem passes_iff_zScore (readings : Fin 3 → ℤ) (sensor : Fin 3) :
    passes readings zThreshold sensor = true ↔ stdDevReadingSquared readings ≠ 0 ∧
      |((readings sensor : ℝ) - meanReading readings) / √(stdDevReadingSquared readings : ℝ)| ≤
        zThreshold := by
  rw [passes, zScoreSquared, ExactFloat.div_le_iff (sq_nonneg _)]
  apply and_congr_right
  intro differ
  have positive : 0 < stdDevReadingSquared readings := by
    rw [stdDevReadingSquared_eq] at differ ⊢
    exact lt_of_le_of_ne (variance_nonneg _) differ.symm
  have root : 0 < √(stdDevReadingSquared readings : ℝ) :=
    Real.sqrt_pos.mpr (Rat.cast_pos.mpr positive)
  rw [abs_div, abs_of_pos root, div_le_iff₀ root, abs_le_mul_sqrt_iff (by norm_num [zThreshold])
    (Rat.cast_nonneg.mpr positive.le), div_le_iff₀ positive, ← Rat.cast_le (K := ℝ)]
  push_cast
  exact Iff.rfl

theorem sum_readingSample (readings : Fin 3 → ℤ) :
    ∑ sensor, readingSample readings sensor = ((readingList readings).sum : ℚ) := by
  simp [Fin.sum_univ_three, readingSample, readingList_eq, add_assoc]

/-- The spread is the variance up to its factor. -/
theorem spread_cast (readings : Fin 3 → ℤ) :
    3 * ∑ sensor, readingSample readings sensor ^ 2 -
      (∑ sensor, readingSample readings sensor) ^ 2 = (spread (readingList readings) : ℚ) := by
  simp [Fin.sum_univ_three, readingSample, readingList_eq, spread, add_assoc]

theorem variance_ne_zero_iff (readings : Fin 3 → ℤ) :
    variance (readingSample readings) ≠ 0 ↔ spread (readingList readings) ≠ 0 := by
  have scaled := card_sq_mul_variance (readingSample readings)
  rw [Fintype.card_fin, Nat.cast_ofNat, spread_cast] at scaled
  rw [← Int.cast_ne_zero (α := ℚ), ← scaled, mul_ne_zero_iff]
  exact ⟨fun nonzero => ⟨by norm_num, nonzero⟩, fun product => product.2⟩

/-- The distance test in integers. -/
theorem not_mem_outliers_iff (readings : Fin 3 → ℤ) (sensor : Fin 3) :
    sensor ∉ outliers (readingSample readings) (zThreshold ^ 2) ↔
      100 * (3 * readings sensor - (readingList readings).sum) ^ 2 ≤
        169 * spread (readingList readings) := by
  rw [mem_outliers_iff_powerSums, Fintype.card_fin, Nat.cast_ofNat, spread_cast, sum_readingSample,
    not_lt, readingSample, zThreshold, ← Int.cast_le (R := ℚ)]
  push_cast
  constructor
  · intro near
    linarith
  · intro near
    linarith

/-- A reading passes exactly when the three readings differ and it is not an outlier. -/
theorem passes_iff (readings : Fin 3 → ℤ) (sensor : Fin 3) :
    passes readings zThreshold sensor = keepsValue (readingList readings) (readings sensor) := by
  rw [Bool.eq_iff_iff, passes, zScoreSquared, ExactFloat.div_le_iff (sq_nonneg _),
    stdDevReadingSquared_eq, meanReading_eq, keepsValue, decide_eq_true_eq,
    ← variance_ne_zero_iff, ← not_mem_outliers_iff, mem_outliers, not_lt]
  apply and_congr_right
  intro differ
  have positive : 0 < variance (readingSample readings) :=
    lt_of_le_of_ne (variance_nonneg _) differ.symm
  rw [div_le_iff₀ positive]
  rfl

theorem correctValues_eq (readings : Fin 3 → ℤ) :
    correctValues readings zThreshold = keptValues (readingList readings) := by
  rw [keptValues]
  simp only [correctValues, passes_iff]
  rw [readingList_eq]
  simp only [List.filter_cons, List.filter_nil]
  split <;> split <;> split <;> rfl

/-- The order of the values does not matter. -/
theorem keptValues_perm {first second : List ℤ} (same : first.Perm second) :
    (keptValues first).Perm (keptValues second) := by
  have sums : first.sum = second.sum := same.sum_eq
  have squares : (first.map (· ^ 2)).sum = (second.map (· ^ 2)).sum := (same.map _).sum_eq
  have test : keepsValue first = keepsValue second := by
    funext value
    rw [keepsValue, keepsValue, spread, spread, sums, squares]
  rw [keptValues, keptValues, test]
  exact same.filter _

theorem npMean_perm {first second : List ℤ} (same : first.Perm second) :
    npMean first = npMean second := by
  rw [npMean, npMean, (same.map _).sum_eq, same.length_eq]

/-- The mean of at least one value is a number in the range of the values. -/
theorem npMean_of_ne_nil {values : List ℤ} (kept : values ≠ []) :
    npMean values = .real ((values.map fun value : ℤ => (value : ℚ)).sum / values.length) := by
  have nonzero : (values.length : ℚ) ≠ 0 :=
    Nat.cast_ne_zero.mpr (mt List.length_eq_zero_iff.mp kept)
  exact ExactFloat.div_of_ne_zero nonzero

theorem npMean_withinRange {values : List ℤ} (kept : values ≠ []) :
    WithinRange (values.map fun value : ℤ => (value : ℚ))
      ((values.map fun value : ℤ => (value : ℚ)).sum / values.length) := by
  have nonempty : values.map (fun value : ℤ => (value : ℚ)) ≠ [] := mt List.map_eq_nil_iff.mp kept
  have within := listMean_withinRange nonempty
  rwa [List.length_map] at within

/-- The spread of three values adds up their squared differences. -/
theorem spread_eq (a b c : ℤ) : spread [a, b, c] = (a - b) ^ 2 + (b - c) ^ 2 + (a - c) ^ 2 := by
  simp only [spread, List.map_cons, List.map_nil, List.sum_cons, List.sum_nil]
  ring

theorem spread_eq_zero_iff (a b c : ℤ) : spread [a, b, c] = 0 ↔ a = b ∧ b = c := by
  rw [spread_eq]
  constructor
  · intro vanishes
    have nonneg : 0 ≤ (a - b) ^ 2 ∧ 0 ≤ (b - c) ^ 2 ∧ 0 ≤ (a - c) ^ 2 :=
      ⟨sq_nonneg _, sq_nonneg _, sq_nonneg _⟩
    have first : (a - b) ^ 2 = 0 := by omega
    have second : (b - c) ^ 2 = 0 := by omega
    exact ⟨sub_eq_zero.mp (pow_eq_zero_iff two_ne_zero |>.mp first),
      sub_eq_zero.mp (pow_eq_zero_iff two_ne_zero |>.mp second)⟩
  · intro equal
    obtain ⟨rfl, rfl⟩ := equal
    ring

/-- A reading is kept when it passes. -/
theorem mem_correctValues {readings : Fin 3 → ℤ} {threshold : ℚ} {sensor : Fin 3}
    (kept : passes readings threshold sensor = true) :
    readings sensor ∈ correctValues readings threshold := by
  fin_cases sensor
  all_goals simp_all [correctValues]

/-- The filter keeps nothing exactly when the three readings are equal. -/
theorem correctValues_eq_nil_iff (readings : Fin 3 → ℤ) :
    correctValues readings zThreshold = [] ↔
      readings 0 = readings 1 ∧ readings 1 = readings 2 := by
  rw [← spread_eq_zero_iff, ← readingList_eq]
  constructor
  · intro empty
    by_contra differ
    have large : 1 ≤ zThreshold ^ 2 := by norm_num [zThreshold]
    obtain ⟨sensor, near⟩ := exists_notMem_outliers (readingSample readings) large
    have kept : passes readings zThreshold sensor = true := by
      rw [passes_iff, keepsValue, decide_eq_true_eq]
      exact ⟨differ, (not_mem_outliers_iff readings sensor).mp near⟩
    have member := mem_correctValues kept
    rw [empty] at member
    exact List.not_mem_nil member
  · intro flat
    rw [correctValues_eq, keptValues, List.filter_eq_nil_iff]
    intro value _ kept
    rw [keepsValue, decide_eq_true_eq] at kept
    exact kept.1 flat

/-- Three equal readings have no filtered value. -/
theorem filterOutliers_of_equal {readings : Fin 3 → ℤ}
    (equal : readings 0 = readings 1 ∧ readings 1 = readings 2) :
    filterOutliers readings zThreshold = some .nan := by
  rw [filterOutliers, (correctValues_eq_nil_iff readings).mpr equal]
  rfl

end DataStreamPilot.Server
