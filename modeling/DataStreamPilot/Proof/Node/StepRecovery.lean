/-
This file says when a run of equal readings brings the average to their value.
The removed entries count as zeros in the next mean, so a step change can empty the window.
-/

import DataStreamPilot.Proof.Node.EmptiedWindow

namespace DataStreamPilot.Node

open Library Finset

/-- After 65 equal readings the ring holds nothing else. -/
theorem readingRing_replicate (initialTemp value : Int16) (readings : List Int16)
    (i : Fin windowSize) :
    (readingRing initialTemp (readings ++ List.replicate windowSize value)).slots.get i =
      value := by
  have member := readingRing_mem_recentReadings initialTemp
    (readings ++ List.replicate windowSize value) i
  rw [recentReadings, List.length_append, List.length_replicate, Nat.add_sub_cancel,
    List.drop_left, if_neg (Nat.not_lt.mpr (Nat.le_add_left _ _)), List.append_nil] at member
  exact (List.mem_replicate.mp member).2

/-- The slots that hold `value`, apart from the next slot to be written. -/
def heldSlots (state : State) (value : Int16) : Finset (Fin windowSize) :=
  univ.filter fun i => state.currentIndex ≠ i.val ∧ state.tempList.get i = value

theorem heldSlots_eq_erase (state : State) (value : Int16)
    (inside : state.currentIndex < windowSize) :
    heldSlots state value =
      (valueSlots state.tempList value).erase ⟨state.currentIndex, inside⟩ := by
  ext i
  have other : state.currentIndex ≠ i.val ↔ i ≠ ⟨state.currentIndex, inside⟩ := by
    rw [Ne, Ne, Fin.ext_iff, eq_comm]
  rw [heldSlots, mem_filter, mem_erase, mem_valueSlots, other]
  exact and_iff_right (mem_univ i)

/-- A push changes no slot other than the next one. -/
theorem push_slot_other (ring : ReadingRing) (reading : Int16) (i : Fin windowSize)
    (other : ring.next.val ≠ i.val) : (ring.push reading).slots.get i = ring.slots.get i :=
  (Vector.getElem_set ring.next.isLt i.isLt).trans (if_neg other)

/-- Before the last of 65 equal readings every other slot holds their value or zero. -/
theorem run_replicate_slots (initialTemp value : Int16) (reads : List (Option Int16))
    (readings : List Int16)
    (equal : reads.reduceOption = readings ++ List.replicate (windowSize - 1) value)
    (i : Fin windowSize) (other : (run initialTemp reads).currentIndex ≠ i.val) :
    (run initialTemp reads).tempList.get i = value ∨
      (run initialTemp reads).tempList.get i = 0 := by
  have refines := run_refines initialTemp reads
  have pushed : (readingRing initialTemp reads.reduceOption).push value =
      readingRing initialTemp (readings ++ List.replicate windowSize value) := by
    have last : readings ++ List.replicate windowSize value =
        reads.reduceOption ++ [value] := by
      rw [equal, List.append_assoc, ← List.replicate_succ']
      rfl
    rw [last, readingRing, readingRing, RingBuffer.pushAll_append, RingBuffer.pushAll_singleton]
  have slot := readingRing_replicate initialTemp value readings i
  rw [← pushed, push_slot_other _ value i (refines.position ▸ other)] at slot
  rw [← slot]
  exact refines.slots i

/-- Next to zeros only, thirteen equal entries make their value the rounded average. -/
theorem rounded_of_zeros (data : Window) (value : Int16) (nonzero : value ≠ 0)
    (zeros : ∀ i : Fin windowSize, data.get i = value ∨ data.get i = 0) :
    (calculateAverage (outlierPass data)).roundToInt16? = some value ↔
      13 ≤ (nonZeroSlots data).card := by
  have test (i : Fin windowSize) (present : data.get i ≠ 0) :=
    mem_windowOutliers_of_zeros data value nonzero zeros i ((zeros i).resolve_right present)
  rcases Nat.lt_or_ge (nonZeroSlots data).card 13 with few | many
  · have emptied : nonZeroSlots (outlierPass data) = ∅ := by
      apply eq_empty_of_forall_notMem
      intro i member
      obtain ⟨present, near⟩ := (mem_nonZeroSlots_outlierPass data i).mp member
      exact near ((test i present).mpr few)
    rw [calculateAverage_of_empty _ emptied]
    exact ⟨fun undefined => (nomatch undefined), fun many => absurd few (Nat.not_lt.mpr many)⟩
  · have kept : (nonZeroSlots (outlierPass data)).Nonempty := by
      obtain ⟨i, member⟩ := card_pos.mp (lt_of_lt_of_le (by decide : 0 < 13) many)
      have present := (mem_nonZeroSlots data i).mp member
      exact ⟨i, (mem_nonZeroSlots_outlierPass data i).mpr
        ⟨present, fun far => Nat.not_lt.mpr many ((test i present).mp far)⟩⟩
    have counted (i : Fin windowSize) (counts : (outlierPass data).get i ≠ 0) :
        (outlierPass data).get i = value := by
      have unchanged := (outlierPass_keeps data i).resolve_right counts
      rw [unchanged] at counts ⊢
      exact (zeros i).resolve_right counts
    rw [calculateAverage_of_constant _ value kept counted]
    obtain ⟨rounded, isRounded, lower, upper⟩ :=
      roundToInt16?_between (le_refl (value.toInt : ℚ)) le_rfl
    have same : rounded = value := Int16.toInt_inj.mp (le_antisymm upper lower)
    exact ⟨fun _ => many, fun _ => isRounded.trans (congrArg some same)⟩

/-- The written slot adds one to the slots that hold its value. -/
theorem card_valueSlots_store (state : State) (value : Int16)
    (inside : state.currentIndex < windowSize) :
    (valueSlots (store state.tempList state.currentIndex value) value).card =
      (heldSlots state value).card + 1 := by
  have split : valueSlots (store state.tempList state.currentIndex value) value =
      insert ⟨state.currentIndex, inside⟩ (heldSlots state value) := by
    ext i
    rw [mem_valueSlots, store_get, mem_insert, heldSlots, mem_filter]
    by_cases written : state.currentIndex = i.val
    · rw [if_pos written]
      exact ⟨fun _ => Or.inl (Fin.ext written.symm), fun _ => rfl⟩
    · rw [if_neg written]
      refine ⟨fun held => Or.inr ⟨mem_univ i, written, held⟩, ?_⟩
      intro held
      rcases held with same | ⟨_, _, held⟩
      · exact absurd (congrArg Fin.val same).symm written
      · exact held
  have fresh : ⟨state.currentIndex, inside⟩ ∉ heldSlots state value := by
    intro member
    exact (mem_filter.mp member).2.1 rfl
  rw [split, card_insert_of_notMem fresh]

/-- Twelve slots that survive one more equal reading are enough for the next one. -/
theorem heldSlots_acceptReading (state : State) (value : Int16)
    (inside : state.currentIndex < windowSize) (held : 12 ≤ (heldSlots state value).card) :
    12 ≤ (heldSlots (acceptReading state value) value).card := by
  have stored := card_valueSlots_store state value inside
  have kept := card_le_card (valueSlots_subset_outlierPass
    (store state.tempList state.currentIndex value) value (by omega))
  have erased := pred_card_le_card_erase
    (s := valueSlots (acceptReading state value).tempList value)
    (a := ⟨(acceptReading state value).currentIndex, nextIndex_lt _ inside⟩)
  rw [heldSlots_eq_erase _ _ (nextIndex_lt _ inside)]
  rw [acceptReading_tempList] at erased ⊢
  omega

/-- Twelve slots with the value stay twelve during further readings of that value. -/
theorem heldSlots_run (initialTemp value : Int16) (prior rest : List (Option Int16))
    (equal : ∀ reading ∈ rest.reduceOption, reading = value)
    (held : 12 ≤ (heldSlots (run initialTemp prior) value).card) :
    12 ≤ (heldSlots (run initialTemp (prior ++ rest)) value).card := by
  induction rest using List.reverseRecOn with
  | nil => rwa [List.append_nil]
  | append_singleton rest read ih =>
      rw [List.reduceOption_append] at equal
      have earlier := ih fun reading member => equal reading (List.mem_append_left _ member)
      rw [← List.append_assoc]
      cases read with
      | none => rwa [run_failed]
      | some reading =>
          have same : reading = value :=
            equal reading (List.mem_append_right _ (List.mem_singleton_self reading))
          rw [run_accepted, same]
          exact heldSlots_acceptReading _ value (run_windowHolds initialTemp _).inside earlier

/-- The last of 65 equal readings decides by the slots that hold their value before it. -/
theorem roundedAvgTemp_iff_heldSlots (initialTemp value : Int16)
    (history equal : List (Option Int16)) (nonzero : value ≠ 0)
    (readings : equal.reduceOption = List.replicate 64 value) :
    (run initialTemp (history ++ equal ++ [some value])).roundedAvgTemp = some value ↔
      12 ≤ (heldSlots (run initialTemp (history ++ equal)) value).card := by
  have successes : (history ++ equal).reduceOption =
      history.reduceOption ++ List.replicate (windowSize - 1) value := by
    rw [List.reduceOption_append, readings]
    rfl
  have inside : (run initialTemp (history ++ equal)).currentIndex < windowSize :=
    (run_windowHolds initialTemp (history ++ equal)).inside
  have slots := run_replicate_slots initialTemp value _ _ successes
  have stored (i : Fin windowSize) : (store (run initialTemp (history ++ equal)).tempList
      (run initialTemp (history ++ equal)).currentIndex value).get i = value ∨
      (store (run initialTemp (history ++ equal)).tempList
      (run initialTemp (history ++ equal)).currentIndex value).get i = 0 := by
    rw [store_get]
    by_cases written : (run initialTemp (history ++ equal)).currentIndex = i.val
    · exact Or.inl (if_pos written)
    · rw [if_neg written]
      exact slots i written
  rw [acceptedRun_roundedAvgTemp, acceptedRun_avgTemp, run_accepted, acceptReading_tempList,
    rounded_of_zeros _ value nonzero stored, nonZeroSlots_of_zeros _ value nonzero stored,
    card_valueSlots_store _ value inside]
  omega

/-- The average reaches the value of 65 equal readings exactly when, before one of them, twelve
slots other than the next one hold the value. -/
theorem roundedAvgTemp_equalReadings (initialTemp value : Int16)
    (history equal : List (Option Int16)) (nonzero : value ≠ 0)
    (readings : equal.reduceOption = List.replicate 64 value) :
    (run initialTemp (history ++ equal ++ [some value])).roundedAvgTemp = some value ↔
      ∃ earlier, earlier <+: equal ∧
        12 ≤ (heldSlots (run initialTemp (history ++ earlier)) value).card := by
  rw [roundedAvgTemp_iff_heldSlots initialTemp value history equal nonzero readings]
  constructor
  · exact fun held => ⟨equal, List.prefix_rfl, held⟩
  · rintro ⟨earlier, ⟨rest, rfl⟩, held⟩
    rw [← List.append_assoc]
    refine heldSlots_run initialTemp value (history ++ earlier) rest (fun reading member => ?_) held
    rw [List.reduceOption_append] at readings
    exact List.eq_of_mem_replicate (readings ▸ List.mem_append_right _ member)

/-- A node that starts at 25 degrees and reads one degree 52 times in between. -/
theorem roundedAvgTemp_equalReadings_dip :
    (run 2500 (List.replicate 52 (some 100) ++ List.replicate 64 (some 2500) ++
        [some 2500])).roundedAvgTemp = some 2500 ↔
      ∃ earlier, earlier <+: List.replicate 64 (some 2500) ∧
        12 ≤ (heldSlots (run 2500 (List.replicate 52 (some 100) ++ earlier)) 2500).card :=
  roundedAvgTemp_equalReadings 2500 2500 (List.replicate 52 (some 100))
    (List.replicate 64 (some 2500)) (by decide) (by decide)

/-- The distance of one entry outweighs four variances when it is ten times the bound of the
other 64 entries. -/
theorem spike_distance {spike low rest squares : ℤ} (positive : 0 < low) (far : 10 * low ≤ spike)
    (restNonneg : 0 ≤ rest) (restBound : rest ≤ 64 * low) (squaresBound : squares ≤ 64 * low ^ 2) :
    4 * (65 * (spike ^ 2 + squares) - (spike + rest) ^ 2) < (65 * spike - (spike + rest)) ^ 2 := by
  have near : 57 * spike ≤ 65 * spike - (spike + rest) := by omega
  have distance : (57 * spike) ^ 2 ≤ (65 * spike - (spike + rest)) ^ 2 :=
    pow_le_pow_left₀ (by omega) near 2
  have total : spike ^ 2 ≤ (spike + rest) ^ 2 := pow_le_pow_left₀ (by omega) (by omega) 2
  have small : (10 * low) ^ 2 ≤ spike ^ 2 := pow_le_pow_left₀ (by omega) far 2
  have large : 0 < spike ^ 2 := by
    have : 0 < spike := by omega
    positivity
  linarith

/-- One entry far above the others is an outlier. -/
theorem spike_mem_windowOutliers (data : Window) (i : Fin windowSize) (low : Int16)
    (positive : 0 < low.toInt) (spike : 10 * low.toInt ≤ (data.get i).toInt)
    (others : ∀ j : Fin windowSize, j ≠ i → data.get j = low ∨ data.get j = 0) :
    i ∈ windowOutliers data := by
  have bounds (j : Fin windowSize) (member : j ∈ univ.erase i) :
      0 ≤ (data.get j).toInt ∧ (data.get j).toInt ≤ low.toInt := by
    rcases others j (ne_of_mem_erase member) with held | zero
    · rw [held]
      exact ⟨positive.le, le_rfl⟩
    · rw [zero]
      exact ⟨le_rfl, positive.le⟩
  have count : (univ.erase i).card = 64 := by
    rw [card_erase_of_mem (mem_univ i), card_fin]
    rfl
  have sumSplit := add_sum_erase univ (fun j : Fin windowSize => (data.get j).toInt) (mem_univ i)
  have squareSplit := add_sum_erase univ (fun j : Fin windowSize => (data.get j).toInt ^ 2)
    (mem_univ i)
  have sumNonneg := sum_nonneg fun j member => (bounds j member).1
  have sumBound := sum_le_card_nsmul (univ.erase i) (fun j => (data.get j).toInt) low.toInt
    fun j member => (bounds j member).2
  have squareBound := sum_le_card_nsmul (univ.erase i) (fun j => (data.get j).toInt ^ 2)
    (low.toInt ^ 2) fun j member => pow_le_pow_left₀ (bounds j member).1 (bounds j member).2 2
  rw [count, nsmul_eq_mul] at sumBound squareBound
  by_contra near
  rw [not_mem_windowOutliers_iff, entrySum, entrySquares, ← sumSplit, ← squareSplit] at near
  exact absurd near (not_le.mpr (spike_distance positive spike sumNonneg sumBound squareBound))

/-- A step to more than ten times the initial temperature never enters the window. -/
theorem run_spike (initialTemp value : Int16) (positive : 0 < initialTemp.toInt)
    (spike : 10 * initialTemp.toInt ≤ value.toInt) (count : Nat) (i : Fin windowSize) :
    (run initialTemp (List.replicate count (some value))).tempList.get i = initialTemp ∨
      (run initialTemp (List.replicate count (some value))).tempList.get i = 0 := by
  induction count generalizing i with
  | zero => exact Or.inl (Vector.getElem_replicate i.isLt)
  | succ count ih =>
      rw [List.replicate_succ', run_accepted, acceptReading_tempList]
      set state := run initialTemp (List.replicate count (some value))
      have other (j : Fin windowSize) (unwritten : state.currentIndex ≠ j.val) :
          (store state.tempList state.currentIndex value).get j = initialTemp ∨
            (store state.tempList state.currentIndex value).get j = 0 := by
        rw [store_get, if_neg unwritten]
        exact ih j
      by_cases written : state.currentIndex = i.val
      · have removed : i ∈ windowOutliers (store state.tempList state.currentIndex value) := by
          apply spike_mem_windowOutliers _ i initialTemp positive
          · rwa [store_get, if_pos written]
          · intro j different
            exact other j fun same => different (Fin.ext (same.symm.trans written))
        rw [outlierPass_get, if_pos removed]
        exact Or.inr rfl
      · rcases outlierPass_keeps (store state.tempList state.currentIndex value) i with
          kept | removed
        · rw [kept]
          exact other i written
        · exact Or.inr removed

/-- The average never reports such a step. -/
theorem run_spike_rounded (initialTemp value : Int16) (positive : 0 < initialTemp.toInt)
    (spike : 10 * initialTemp.toInt ≤ value.toInt) (count : Nat) :
    (run initialTemp (List.replicate count (some value) ++ [some value])).roundedAvgTemp ≠
      some value := by
  intro reported
  have slots := run_spike initialTemp value positive spike (count + 1)
  rw [List.replicate_succ'] at slots
  rw [acceptedRun_roundedAvgTemp, acceptedRun_avgTemp] at reported
  set data := (run initialTemp (List.replicate count (some value) ++ [some value])).tempList
  rcases (nonZeroSlots data).eq_empty_or_nonempty with empty | counted
  · rw [calculateAverage_of_empty data empty] at reported
    cases reported
  · obtain ⟨_, rounded, _, isRounded, _, _, high, highCounted, upper⟩ :=
      calculateAverage_between data counted
    have same : rounded = value := Option.some.inj (isRounded.symm.trans reported)
    have held := (slots high).resolve_right ((mem_nonZeroSlots data high).mp highCounted)
    rw [held, same] at upper
    omega

/-- A node that starts at one degree never reports 25 degrees. -/
theorem roundedAvgTemp_equalReadings_step :
    (run 100 ([] ++ List.replicate 64 (some 2500) ++ [some 2500])).roundedAvgTemp ≠ some 2500 :=
  run_spike_rounded 100 2500 (by decide) (by decide) 64

end DataStreamPilot.Node
