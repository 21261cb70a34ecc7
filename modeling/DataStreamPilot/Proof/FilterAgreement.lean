/-
This file compares the three-sensor filter of the denoiser with the filter of the server.
The two tests complement each other unless the z-scores are undefined.
-/

import DataStreamPilot.Proof.Denoiser.KeptReadings
import DataStreamPilot.Proof.Server.RejectedReading

namespace DataStreamPilot

open Library Finset

/-- The readings of the denoiser as integers. -/
def integerReadings (readings : Fin 3 → Int16) (sensor : Fin 3) : ℤ := (readings sensor).toInt

/-- The denoiser returns the truncated result of the server. -/
def FiltersAgree (readings : Fin 3 → Int16) : Prop :=
  ∃ (average : ℚ) (result : Int16),
    Server.filterOutliers (integerReadings readings) Server.zThreshold = some (.real average) ∧
      Denoiser.filterOutliers readings (.real Server.zThreshold) = some result ∧
      result.toInt = truncate average

/-- Both filters keep the same sensors when the readings differ. -/
theorem kept_eq_keptSensors (readings : Fin 3 → Int16)
    (differ : Server.Differ (integerReadings readings)) :
    Denoiser.kept readings (.real Server.zThreshold) =
      Server.keptSensors (integerReadings readings) Server.zThreshold := by
  have nonneg : 0 ≤ Server.zThreshold := by norm_num [Server.zThreshold]
  ext sensor
  have dropped := Denoiser.exceeds_iff readings sensor nonneg
  have rejected := differ.passes_eq_false_iff sensor
  rw [Denoiser.kept, Server.keptSensors, mem_filter, mem_filter, ← Bool.not_eq_true, dropped,
    ← Bool.not_eq_false, rejected]
  rfl

/-- Three equal readings have no agreed result. -/
theorem not_filtersAgree_of_equal {readings : Fin 3 → Int16}
    (equal : readings 0 = readings 1 ∧ readings 1 = readings 2) : ¬ FiltersAgree readings := by
  rintro ⟨average, result, isAverage, _⟩
  have equalIntegers : integerReadings readings 0 = integerReadings readings 1 ∧
      integerReadings readings 1 = integerReadings readings 2 :=
    ⟨congrArg Int16.toInt equal.1, congrArg Int16.toInt equal.2⟩
  rw [Server.filterOutliers_of_equal equalIntegers] at isAverage
  cases isAverage

/-- The denoiser returns the truncated result of the server exactly when the three readings are
not all equal. The server has no result for three equal readings. -/
theorem filtersAgree_iff (readings : Fin 3 → Int16) :
    FiltersAgree readings ↔ ¬ (readings 0 = readings 1 ∧ readings 1 = readings 2) := by
  constructor
  · intro agree equal
    exact not_filtersAgree_of_equal equal agree
  · intro unequal
    have differ : Server.Differ (integerReadings readings) :=
      (Server.differ_iff _).mpr fun equal =>
        unequal ⟨Int16.toInt_inj.mp equal.1, Int16.toInt_inj.mp equal.2⟩
    have same := kept_eq_keptSensors readings differ
    have nonempty : (Denoiser.kept readings (.real Server.zThreshold)).Nonempty := by
      rw [same]
      exact differ.keptSensors_nonempty
    obtain ⟨result, returned, truncated⟩ := Denoiser.filterOutliers_of_nonempty readings nonempty
    refine ⟨_, result, differ.filterOutliers_eq, returned, ?_⟩
    rw [truncated, same]
    rfl

/-- Three equal readings leave the server without a number, while the denoiser returns them. -/
theorem filtersAgree_counterexample :
    ¬ FiltersAgree ![2000, 2000, 2000] ∧
      Server.filterOutliers (integerReadings ![2000, 2000, 2000]) Server.zThreshold = some .nan ∧
      Denoiser.filterOutliers ![2000, 2000, 2000] (.real Server.zThreshold) = some 2000 :=
  ⟨not_filtersAgree_of_equal ⟨rfl, rfl⟩, Server.filterOutliers_of_equal ⟨rfl, rfl⟩,
    by decide +kernel⟩

end DataStreamPilot
