/-
This file models the window filter of the compute engine's main loop.
The arithmetic is exact. A standard deviation is kept as its square, because the root of a
rational number need not be rational.
-/

import DataStreamPilot.Library.ExactFloat

namespace DataStreamPilot.Node

open Library

abbrev windowSize : Nat := 65

/-- An outlier lies more than this many standard deviations from the mean. -/
def deviationFactor : ℚ := 2

/-- The buffer `tempList` holds temperatures in hundredths of a degree. -/
abbrev Window := Vector Int16 windowSize

/-- The loop of `main` that adds up the whole window. -/
def windowSum (data : Window) : ℚ :=
  Fin.foldl windowSize (fun sum i => sum + (data[i].toInt : ℚ)) 0

/-- The C function returns the square root of this value. -/
def calculateStddevSquared (data : Window) (mean : ℚ) : ℚ :=
  let sum := Fin.foldl windowSize (fun sum i => sum + ((data[i].toInt : ℚ) - mean) ^ 2) 0
  sum / windowSize

/-- The test `fabsf(value - mean) <= DEVIATION_FACTOR * stddev`, with both sides squared. -/
def isInlier (value : Int16) (mean stddevSquared : ℚ) : Bool :=
  decide (((value.toInt : ℚ) - mean) ^ 2 ≤ deviationFactor ^ 2 * stddevSquared)

/-- One iteration reads slot `i` and writes slot `j` of the same array. -/
def removeOutliersBody (mean stddevSquared : ℚ) (state : Window × Nat) (i : Fin windowSize) :
    Window × Nat :=
  let (data, j) := state
  if isInlier data[i] mean stddevSquared then (data.setIfInBounds j data[i], j + 1)
  else (data.setIfInBounds j 0, j + 1)

def removeOutliers (data : Window) (mean stddevSquared : ℚ) : Window :=
  (Fin.foldl windowSize (removeOutliersBody mean stddevSquared) (data, 0)).1

/-- The loop skips the entries that are zero and counts the others. -/
def calculateAverageLoop (data : Window) : ℚ × Nat :=
  Fin.foldl windowSize (fun (state : ℚ × Nat) i =>
    if data[i] ≠ 0 then (state.1 + (data[i].toInt : ℚ), state.2 + 1) else state) (0, 0)

/-- The division is not guarded, so an empty selection gives NaN. -/
def calculateAverage (data : Window) : ExactFloat :=
  let (sum, count) := calculateAverageLoop data
  ExactFloat.div sum count

/-- The variables of `main` that live across iterations. A cast with no defined result
leaves `roundedAvgTemp` undefined. -/
structure State where
  tempList : Window
  currentIndex : Nat
  avgTemp : ExactFloat
  stddevSquared : ExactFloat
  roundedAvgTemp : Option Int16
  deriving DecidableEq

/-- A failed first read of the sensor leaves the initial temperature at zero. -/
def initialTemp (read : Option Int16) : Int16 := read.getD 0

/-- The window is filled with the initial temperature. The other variables are static. -/
def start (initialTemp : Int16) : State where
  tempList := Vector.replicate windowSize initialTemp
  currentIndex := 0
  avgTemp := .real 0
  stddevSquared := .real 0
  roundedAvgTemp := some 0

/-- The statement `data.tempList[current_index++] = temp_n_noise` -/
def store (tempList : Window) (currentIndex : Nat) (tempNNoise : Int16) : Window :=
  tempList.setIfInBounds currentIndex tempNNoise

/-- The write position after the increment and the wrap test. -/
def nextIndex (currentIndex : Nat) : Nat :=
  if currentIndex + 1 ≥ windowSize then 0 else currentIndex + 1

/-- The mean and the deviation of the whole window decide which entries are removed. -/
def outlierPass (tempList : Window) : Window :=
  let mean := windowSum tempList / windowSize
  removeOutliers tempList mean (calculateStddevSquared tempList mean)

/-- The deviation of the cleaned window from its new average. -/
def cleanedStddevSquared (tempList : Window) : ExactFloat → ExactFloat
  | .real mean => .real (calculateStddevSquared tempList mean)
  | .infinity _ => .infinity false
  | .nan => .nan

/-- The body of the main loop for a successful read with added noise. -/
def acceptReading (state : State) (tempNNoise : Int16) : State :=
  let tempList := outlierPass (store state.tempList state.currentIndex tempNNoise)
  let avgTemp := calculateAverage tempList
  { tempList
    currentIndex := nextIndex state.currentIndex
    avgTemp
    stddevSquared := cleanedStddevSquared tempList avgTemp
    roundedAvgTemp := avgTemp.roundToInt16? }

/-- One pass of the main loop. A failed read changes nothing. -/
def mainLoop (state : State) : Option Int16 → State
  | none => state
  | some tempNNoise => acceptReading state tempNNoise

/-- The state after a finite sequence of passes. -/
def run (initialTemp : Int16) (reads : List (Option Int16)) : State :=
  reads.foldl mainLoop (start initialTemp)

end DataStreamPilot.Node
