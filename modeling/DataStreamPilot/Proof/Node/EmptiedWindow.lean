/-
This file says when the outlier pass removes every entry of the window.
The average of an emptied window is not a number.
-/

import DataStreamPilot.Proof.Node.ReportedRange

namespace DataStreamPilot.Node

open Library Finset

/-- The average counts an entry, is a number, and has a defined conversion. -/
def AverageDefined (state : State) : Prop :=
  0 < (calculateAverageLoop state.tempList).2 ∧
    (∃ average, state.avgTemp = .real average) ∧ ∃ rounded, state.roundedAvgTemp = some rounded

/-- The integer sum of the window. -/
def entrySum (data : Window) : ℤ := ∑ i : Fin windowSize, (data.get i).toInt

/-- The integer sum of the squares of the window. -/
def entrySquares (data : Window) : ℤ := ∑ i : Fin windowSize, (data.get i).toInt ^ 2

/-- One entry other than zero is near the mean. -/
def KeepsEntry (data : Window) : Prop :=
  ∃ i : Fin windowSize, data.get i ≠ 0 ∧
    (windowSize * (data.get i).toInt - entrySum data) ^ 2 ≤
      4 * (windowSize * entrySquares data - entrySum data ^ 2)

instance (data : Window) : Decidable (KeepsEntry data) := inferInstanceAs (Decidable (∃ _, _))

/-- The outlier test in integers. -/
theorem not_mem_windowOutliers_iff (data : Window) (i : Fin windowSize) :
    i ∉ windowOutliers data ↔
      (windowSize * (data.get i).toInt - entrySum data) ^ 2 ≤
        4 * (windowSize * entrySquares data - entrySum data ^ 2) := by
  rw [windowOutliers_eq, mem_outliers_iff_powerSums, sum_sample, sum_sample_sq, ← entrySum,
    ← entrySquares, Fintype.card_fin, not_lt, sample]
  norm_cast

/-- The condition decides whether the cleaned window has a counted entry. -/
theorem keepsEntry_iff (data : Window) :
    KeepsEntry data ↔ (nonZeroSlots (outlierPass data)).Nonempty := by
  constructor
  · intro keeps
    obtain ⟨i, present, near⟩ := keeps
    exact ⟨i, (mem_nonZeroSlots_outlierPass data i).mpr
      ⟨present, (not_mem_windowOutliers_iff data i).mpr near⟩⟩
  · intro counted
    obtain ⟨i, member⟩ := counted
    obtain ⟨present, near⟩ := (mem_nonZeroSlots_outlierPass data i).mp member
    exact ⟨i, present, (not_mem_windowOutliers_iff data i).mp near⟩

/-- Seventeen entries other than zero are enough. -/
theorem keepsEntry_of_many (data : Window) (many : 17 ≤ (nonZeroSlots data).card) :
    KeepsEntry data := by
  have fewer : (windowOutliers data).card < (nonZeroSlots data).card :=
    lt_of_le_of_lt (card_windowOutliers_le data) many
  obtain ⟨i, present, near⟩ := exists_mem_notMem_of_card_lt_card fewer
  exact ⟨i, (mem_nonZeroSlots data i).mp present, (not_mem_windowOutliers_iff data i).mp near⟩

theorem calculateAverageLoop_count_pos_iff (data : Window) :
    0 < (calculateAverageLoop data).2 ↔ (nonZeroSlots data).Nonempty := by
  rw [calculateAverageLoop_eq]
  show 0 < (nonZeroSlots data).card ↔ _
  exact card_pos

/-- The average of one iteration is defined exactly when its pass keeps an entry. -/
theorem averageDefined_accepted_iff (initialTemp : Int16) (reads : List (Option Int16))
    (reading : Int16) :
    AverageDefined (run initialTemp (reads ++ [some reading])) ↔
      KeepsEntry (store (run initialTemp reads).tempList (run initialTemp reads).currentIndex
        reading) := by
  have cleaned : (run initialTemp (reads ++ [some reading])).tempList =
      outlierPass (store (run initialTemp reads).tempList (run initialTemp reads).currentIndex
        reading) := by
    rw [run_accepted, acceptReading_tempList]
  rw [keepsEntry_iff, ← cleaned, AverageDefined, calculateAverageLoop_count_pos_iff,
    acceptedRun_roundedAvgTemp, acceptedRun_avgTemp]
  refine ⟨fun defined => defined.1, fun counted => ⟨counted, ?_⟩⟩
  obtain ⟨average, rounded, isAverage, isRounded, _⟩ := calculateAverage_between _ counted
  exact ⟨⟨average, isAverage⟩, rounded, isRounded⟩

/-- Every average of the run is defined. -/
def AveragesDefined (initialTemp : Int16) (reads : List (Option Int16)) : Prop :=
  ∀ (earlier : List (Option Int16)) (reading : Int16), earlier ++ [some reading] <+: reads →
    AverageDefined (run initialTemp (earlier ++ [some reading]))

/-- The averages of a run are defined exactly when each window keeps an entry at its pass. -/
theorem averagesDefined_iff (initialTemp : Int16) (reads : List (Option Int16)) :
    AveragesDefined initialTemp reads ↔
      ∀ (earlier : List (Option Int16)) (reading : Int16), earlier ++ [some reading] <+: reads →
        KeepsEntry (store (run initialTemp earlier).tempList
          (run initialTemp earlier).currentIndex reading) := by
  refine forall_congr' fun earlier => forall_congr' fun reading => imp_congr_right fun _ => ?_
  exact averageDefined_accepted_iff initialTemp earlier reading

/-- A reading that enters a window of zeros is removed again. -/
theorem acceptReading_emptied (state : State) (reading : Int16)
    (emptied : nonZeroSlots state.tempList = ∅) :
    nonZeroSlots (acceptReading state reading).tempList = ∅ := by
  have zero (i : Fin windowSize) : state.tempList.get i = 0 := by
    have absent : i ∉ nonZeroSlots state.tempList := emptied ▸ notMem_empty i
    rwa [mem_nonZeroSlots, not_not] at absent
  have stored (i : Fin windowSize) :
      (store state.tempList state.currentIndex reading).get i =
        if state.currentIndex = i.val then reading else 0 := by
    rw [store_get, zero]
  rw [acceptReading_tempList]
  apply eq_empty_of_forall_notMem
  intro i member
  obtain ⟨present, near⟩ := (mem_nonZeroSlots_outlierPass _ i).mp member
  rw [stored] at present
  have written : state.currentIndex = i.val := by
    by_contra other
    exact present (if_neg other)
  rw [if_pos written] at present
  have single : nonZeroSlots (store state.tempList state.currentIndex reading) ⊆ {i} := by
    intro j counted
    rw [mem_nonZeroSlots, stored] at counted
    by_contra other
    rw [mem_singleton] at other
    exact counted (if_neg fun same => other (Fin.ext (same.symm.trans written)))
  apply near
  rw [mem_windowOutliers_of_zeros _ reading present (fun j => ?_) i
    ((stored i).trans (if_pos written))]
  · have few := card_le_card single
    rw [card_singleton] at few
    omega
  · rw [stored]
    by_cases same : state.currentIndex = j.val
    · exact Or.inl (if_pos same)
    · exact Or.inr (if_neg same)

/-- A run from the initial temperature zero never counts an entry. -/
theorem run_zero_emptied (reads : List (Option Int16)) :
    nonZeroSlots (run 0 reads).tempList = ∅ := by
  induction reads using List.reverseRecOn with
  | nil =>
      apply eq_empty_of_forall_notMem
      intro i member
      exact (mem_nonZeroSlots _ i).mp member (Vector.getElem_replicate i.isLt)
  | append_singleton reads read ih =>
      cases read with
      | none => rwa [run_failed]
      | some reading =>
          rw [run_accepted]
          exact acceptReading_emptied (run 0 reads) reading ih

/-- A failed first read leaves the run without any defined average. -/
theorem averagesDefined_failedFirstRead : ¬ AveragesDefined (initialTemp none) [some 2500] := by
  intro defined
  have counted := (defined [] 2500 List.prefix_rfl).1
  rw [calculateAverageLoop_count_pos_iff] at counted
  change (nonZeroSlots (run 0 [some 2500]).tempList).Nonempty at counted
  rw [run_zero_emptied] at counted
  exact not_nonempty_empty counted

end DataStreamPilot.Node
