/-
This file models the three-sensor filter of the CoAP server.
The arithmetic of numpy is exact, a z-score is kept as its square, and NaN follows from a
division of zero by zero.
-/

import DataStreamPilot.Library.ExactFloat

namespace DataStreamPilot.Server

open Library

def zThreshold : ℚ := 13 / 10

/-- `np.mean`, whose value on the empty list is NaN -/
def npMean (readings : List ℤ) : ExactFloat :=
  ExactFloat.div (readings.map fun reading : ℤ => (reading : ℚ)).sum readings.length

/-- The mean of the three readings of one site. -/
def meanReading (readings : Fin 3 → ℤ) : ℚ :=
  ((readings 0 : ℚ) + readings 1 + readings 2) / 3

/-- The square of `np.std` of the three readings. -/
def stdDevReadingSquared (readings : Fin 3 → ℤ) : ℚ :=
  (((readings 0 : ℚ) - meanReading readings) ^ 2 + ((readings 1 : ℚ) - meanReading readings) ^ 2 +
    ((readings 2 : ℚ) - meanReading readings) ^ 2) / 3

/-- The square of the z-score, where zero spread gives NaN. -/
def zScoreSquared (readings : Fin 3 → ℤ) (sensor : Fin 3) : ExactFloat :=
  ExactFloat.div (((readings sensor : ℚ) - meanReading readings) ^ 2)
    (stdDevReadingSquared readings)

/-- The test `z_score <= z_threshold`, with both sides squared. -/
def passes (readings : Fin 3 → ℤ) (threshold : ℚ) (sensor : Fin 3) : Bool :=
  (zScoreSquared readings sensor).le (threshold ^ 2)

/-- The readings that pass are appended in the order of the sensors. -/
def correctValues (readings : Fin 3 → ℤ) (threshold : ℚ) : List ℤ :=
  (if passes readings threshold 0 then [readings 0] else []) ++
  (if passes readings threshold 1 then [readings 1] else []) ++
  (if passes readings threshold 2 then [readings 2] else [])

/-- The mean of an empty selection is NaN. The function never returns `None`. -/
def filterOutliers (readings : Fin 3 → ℤ) (threshold : ℚ) : Option ExactFloat :=
  some (npMean (correctValues readings threshold))

end DataStreamPilot.Server
