/-
This file models the three-sensor filter of the denoiser node.
The arithmetic is exact, and a z-score is kept as its square. The debug output is left out.
-/

import DataStreamPilot.Library.ExactFloat

namespace DataStreamPilot.Denoiser

open Library

abbrev numSensors : Nat := 3

/-- The loop that adds up the readings, and the division by their number. -/
def meanReading (readings : Fin numSensors → Int16) : ℚ :=
  Fin.foldl numSensors (fun sum i => sum + ((readings i).toInt : ℚ)) 0 / numSensors

/-- The C function takes the square root of this value. -/
def stdDevReadingSquared (readings : Fin numSensors → Int16) : ℚ :=
  Fin.foldl numSensors
    (fun sum i => sum + (((readings i).toInt : ℚ) - meanReading readings) ^ 2) 0 / numSensors

/-- The square of the z-score, where zero spread gives NaN. -/
def zScoreSquared (readings : Fin numSensors → Int16) (i : Fin numSensors) : ExactFloat :=
  ExactFloat.div ((((readings i).toInt : ℚ) - meanReading readings) ^ 2)
    (stdDevReadingSquared readings)

/-- The test `z_score > z_threshold` on the square of a z-score, which is never negative. -/
def exceeds : ExactFloat → ExactFloat → Bool
  | .nan, _ => false
  | _, .nan => false
  | _, .infinity negative => negative
  | .infinity _, .real _ => true
  | .real square, .real zThreshold => decide (zThreshold < 0 ∨ zThreshold ^ 2 < square)

/-- An outlier decrements the counter, and every other reading is added to the new sum. -/
def filterBody (readings : Fin numSensors → Int16) (zThreshold : ExactFloat) (state : ℤ × ℚ)
    (i : Fin numSensors) : ℤ × ℚ :=
  let (sensorsCount, newMeanReading) := state
  if exceeds (zScoreSquared readings i) zThreshold then (sensorsCount - 1, newMeanReading)
  else (sensorsCount, newMeanReading + ((readings i).toInt : ℚ))

/-- The counter and the sum after the loop. -/
def filterLoop (readings : Fin numSensors → Int16) (zThreshold : ExactFloat) : ℤ × ℚ :=
  Fin.foldl numSensors (filterBody readings zThreshold) (numSensors, 0)

/-- The statement `new_mean_reading /= sensors_count` -/
def newMeanReading (readings : Fin numSensors → Int16) (zThreshold : ExactFloat) : ExactFloat :=
  let (sensorsCount, sum) := filterLoop readings zThreshold
  ExactFloat.div sum sensorsCount

/-- A cast with no defined result leaves the function without one. -/
def filterOutliers (readings : Fin numSensors → Int16) (zThreshold : ExactFloat) : Option Int16 :=
  (newMeanReading readings zThreshold).truncToInt16?

end DataStreamPilot.Denoiser
