/-
This file proves that a reported average lies in the range of the last readings.
-/

import DataStreamPilot.Proof.Node.WindowRun

namespace DataStreamPilot.Node

open Library

/-- The last 65 readings, with the initial temperature while there are fewer. -/
def recentReadings (initialTemp : Int16) (readings : List Int16) : List Int16 :=
  readings.drop (readings.length - windowSize) ++
    if readings.length < windowSize then [initialTemp] else []

/-- Each of the last 65 readings is recent. -/
theorem getElem?_mem_recentReadings (initialTemp : Int16) (readings : List Int16) (back : Nat)
    (value : Int16) (inside : back < windowSize) (pushed : back < readings.length)
    (held : readings[readings.length - 1 - back]? = some value) :
    value ∈ recentReadings initialTemp readings := by
  apply List.mem_append_left
  apply List.mem_of_getElem? (i := (readings.length - 1 - back) - (readings.length - windowSize))
  rw [List.getElem?_drop]
  have position : readings.length - windowSize +
      (readings.length - 1 - back - (readings.length - windowSize)) =
      readings.length - 1 - back := by omega
  rw [position, held]

/-- Every slot of the reading ring holds a recent reading. -/
theorem readingRing_mem_recentReadings (initialTemp : Int16) (readings : List Int16)
    (i : Fin windowSize) :
    (readingRing initialTemp readings).slots.get i ∈ recentReadings initialTemp readings := by
  have slot :=
    RingBuffer.pushAll_slot (by decide : 0 < windowSize) initialTemp readings i.val i.isLt
  rw [Vector.getElem?_eq_getElem i.isLt] at slot
  rcases slot with ⟨beyond, untouched⟩ | ⟨back, pushed, inside, same, held⟩
  · apply List.mem_append_right
    rw [if_pos (lt_of_le_of_lt beyond i.isLt)]
    exact List.mem_singleton.mpr (Option.some.inj untouched)
  · exact getElem?_mem_recentReadings initialTemp readings back _ inside pushed (held ▸ rfl)

/-- Every counted entry of the window is a recent reading. -/
theorem tempList_mem_recentReadings (initialTemp : Int16) (reads : List (Option Int16))
    (i : Fin windowSize) (counted : (run initialTemp reads).tempList.get i ≠ 0) :
    (run initialTemp reads).tempList.get i ∈ recentReadings initialTemp reads.reduceOption := by
  rcases (run_refines initialTemp reads).slots i with held | zero
  · rw [held]
    exact readingRing_mem_recentReadings initialTemp reads.reduceOption i
  · exact absurd zero counted

/-- With a counted entry the average is a number, its conversion is defined, and the result
lies between two counted entries. -/
theorem calculateAverage_between (data : Window) (counted : (nonZeroSlots data).Nonempty) :
    ∃ (average : ℚ) (rounded : Int16), calculateAverage data = .real average ∧
      (calculateAverage data).roundToInt16? = some rounded ∧
      rounded.toInt = roundHalfAway average ∧
      (∃ low ∈ nonZeroSlots data, (data.get low).toInt ≤ rounded.toInt) ∧
      ∃ high ∈ nonZeroSlots data, rounded.toInt ≤ (data.get high).toInt := by
  obtain ⟨⟨low, lowCounted, below⟩, high, highCounted, above⟩ :=
    exists_sum_div_card_between (sample data) counted
  obtain ⟨rounded, defined, lower, upper⟩ := roundToInt16?_between below above
  rw [calculateAverage_of_nonempty data counted]
  exact ⟨_, rounded, rfl, defined, toInt16?_eq_some_iff.mp defined, ⟨low, lowCounted, lower⟩,
    high, highCounted, upper⟩

/-- The reported value lies in the range of the last 65 readings whenever an entry is counted. -/
theorem roundedAvgTemp_withinRange (initialTemp : Int16) (reads : List (Option Int16))
    (reading : Int16)
    (counted : ∃ slot : Fin windowSize,
      (run initialTemp (reads ++ [some reading])).tempList.get slot ≠ 0) :
    ∃ (average : ℚ) (rounded : Int16),
      (run initialTemp (reads ++ [some reading])).avgTemp = .real average ∧
      (run initialTemp (reads ++ [some reading])).roundedAvgTemp = some rounded ∧
      rounded.toInt = roundHalfAway average ∧
      WithinRange ((recentReadings initialTemp (reads.reduceOption ++ [reading])).map Int16.toInt)
        rounded.toInt := by
  obtain ⟨slot, present⟩ := counted
  have recent (i : Fin windowSize)
      (inside : i ∈ nonZeroSlots (run initialTemp (reads ++ [some reading])).tempList) :
      ((run initialTemp (reads ++ [some reading])).tempList.get i).toInt ∈
        (recentReadings initialTemp (reads.reduceOption ++ [reading])).map Int16.toInt := by
    have member := tempList_mem_recentReadings initialTemp (reads ++ [some reading]) i
      ((mem_nonZeroSlots _ i).mp inside)
    rw [List.reduceOption_append, List.reduceOption_singleton] at member
    exact List.mem_map_of_mem member
  obtain ⟨average, rounded, isAverage, isRounded, same, ⟨low, lowCounted, lower⟩,
    high, highCounted, upper⟩ := calculateAverage_between
      (run initialTemp (reads ++ [some reading])).tempList
      ⟨slot, (mem_nonZeroSlots _ slot).mpr present⟩
  rw [← acceptedRun_avgTemp] at isAverage isRounded
  rw [← acceptedRun_roundedAvgTemp] at isRounded
  exact ⟨average, rounded, isAverage, isRounded, same,
    ⟨_, recent low lowCounted, lower⟩, _, recent high highCounted, upper⟩

/-- The first reading of a node whose initial temperature is 20 degrees. -/
theorem roundedAvgTemp_withinRange_first :
    ∃ (average : ℚ) (rounded : Int16),
      (run 2000 ([] ++ [some 2100])).avgTemp = .real average ∧
      (run 2000 ([] ++ [some 2100])).roundedAvgTemp = some rounded ∧
      rounded.toInt = roundHalfAway average ∧
      WithinRange ((recentReadings 2000 (([] : List (Option Int16)).reduceOption ++ [2100])).map
        Int16.toInt) rounded.toInt :=
  roundedAvgTemp_withinRange 2000 [] 2100 ⟨⟨1, by decide⟩, by decide +kernel⟩

end DataStreamPilot.Node
