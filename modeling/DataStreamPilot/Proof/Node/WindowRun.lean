/-
This file proves the invariant of the window over every run of the main loop.
The window refines a ring buffer of the same readings that no outlier pass touches.
-/

import Mathlib.Data.List.ReduceOption
import DataStreamPilot.Library.RingBuffer
import DataStreamPilot.Proof.Node.OutlierPass

namespace DataStreamPilot.Node

open Library

/-- A store changes the slot of the write position only. -/
theorem store_get (tempList : Window) (currentIndex : Nat) (tempNNoise : Int16)
    (i : Fin windowSize) :
    (store tempList currentIndex tempNNoise).get i =
      if currentIndex = i.val then tempNNoise else tempList.get i := by
  simp [store, vector_get, Vector.getElem_setIfInBounds]

/-- The wrap test is the increment modulo the size of the window. -/
theorem nextIndex_eq (currentIndex : Nat) (inside : currentIndex < windowSize) :
    nextIndex currentIndex = (currentIndex + 1) % windowSize := by
  unfold nextIndex
  split
  · rename_i wrapped
    have last : currentIndex + 1 = windowSize := by omega
    rw [last, Nat.mod_self]
  · rename_i next
    exact (Nat.mod_eq_of_lt (Nat.not_le.mp next)).symm

theorem nextIndex_lt (currentIndex : Nat) (inside : currentIndex < windowSize) :
    nextIndex currentIndex < windowSize := by
  rw [nextIndex_eq currentIndex inside]
  exact Nat.mod_lt _ (by decide)

/-- The pass keeps an entry or sets it to zero. -/
theorem outlierPass_keeps (tempList : Window) (i : Fin windowSize) :
    (outlierPass tempList).get i = tempList.get i ∨ (outlierPass tempList).get i = 0 := by
  rw [outlierPass_get]
  by_cases far : i ∈ windowOutliers tempList
  · exact Or.inr (if_pos far)
  · exact Or.inl (if_neg far)

theorem acceptReading_tempList (state : State) (tempNNoise : Int16) :
    (acceptReading state tempNNoise).tempList =
      outlierPass (store state.tempList state.currentIndex tempNNoise) := rfl

/-- A slot with zero that is not written keeps its zero. -/
theorem acceptReading_zero (state : State) (tempNNoise : Int16) (i : Fin windowSize)
    (zero : state.tempList.get i = 0) (other : state.currentIndex ≠ i.val) :
    (acceptReading state tempNNoise).tempList.get i = 0 := by
  have stored : (store state.tempList state.currentIndex tempNNoise).get i = 0 := by
    rw [store_get, if_neg other, zero]
  rw [acceptReading_tempList]
  rcases outlierPass_keeps (store state.tempList state.currentIndex tempNNoise) i with
    kept | removed
  · exact kept.trans stored
  · exact removed

/-- A ring of the last readings without an outlier pass. -/
abbrev ReadingRing := RingBuffer Int16 windowSize

def readingRing (initialTemp : Int16) (readings : List Int16) : ReadingRing :=
  (RingBuffer.fresh (by decide) initialTemp).pushAll readings

/-- The write positions agree and each slot holds the reading of the ring or zero. -/
structure Refines (state : State) (ring : ReadingRing) : Prop where
  position : state.currentIndex = ring.next.val
  slots : ∀ i : Fin windowSize, state.tempList.get i = ring.slots.get i ∨ state.tempList.get i = 0

theorem start_refines (initialTemp : Int16) :
    Refines (start initialTemp) (readingRing initialTemp []) where
  position := rfl
  slots _ := Or.inl rfl

/-- A successful read is a push. -/
theorem acceptReading_refines {state : State} {ring : ReadingRing} (refines : Refines state ring)
    (tempNNoise : Int16) : Refines (acceptReading state tempNNoise) (ring.push tempNNoise) where
  position := by
    have inside : state.currentIndex < windowSize := refines.position ▸ ring.next.isLt
    show nextIndex state.currentIndex = (ring.next.val + 1) % windowSize
    rw [nextIndex_eq _ inside, refines.position]
  slots i := by
    have pushed : (ring.push tempNNoise).slots.get i =
        if ring.next.val = i.val then tempNNoise else ring.slots.get i :=
      Vector.getElem_set ring.next.isLt i.isLt
    have kept := outlierPass_keeps (store state.tempList state.currentIndex tempNNoise) i
    rw [store_get, refines.position] at kept
    rw [acceptReading_tempList, refines.position, pushed]
    rcases kept with same | removed
    · by_cases written : ring.next.val = i.val
      · rw [if_pos written] at same ⊢
        exact Or.inl same
      · rw [if_neg written] at same ⊢
        rcases refines.slots i with held | zero
        · exact Or.inl (same.trans held)
        · exact Or.inr (same.trans zero)
    · exact Or.inr removed

/-- Only the successful reads change the state. -/
theorem foldl_mainLoop (state : State) (reads : List (Option Int16)) :
    reads.foldl mainLoop state = reads.reduceOption.foldl acceptReading state := by
  induction reads generalizing state with
  | nil => rfl
  | cons read rest ih =>
      cases read with
      | none => exact ih state
      | some tempNNoise => exact ih (acceptReading state tempNNoise)

theorem run_append (initialTemp : Int16) (reads tail : List (Option Int16)) :
    run initialTemp (reads ++ tail) =
      tail.reduceOption.foldl acceptReading (run initialTemp reads) := by
  rw [run, List.foldl_append, foldl_mainLoop]
  rfl

/-- A successful read at the end of a run. -/
theorem run_accepted (initialTemp : Int16) (reads : List (Option Int16)) (tempNNoise : Int16) :
    run initialTemp (reads ++ [some tempNNoise]) =
      acceptReading (run initialTemp reads) tempNNoise :=
  run_append initialTemp reads [some tempNNoise]

/-- After a successful read the average belongs to the cleaned window. -/
theorem acceptedRun_avgTemp (initialTemp : Int16) (reads : List (Option Int16))
    (tempNNoise : Int16) :
    (run initialTemp (reads ++ [some tempNNoise])).avgTemp =
      calculateAverage (run initialTemp (reads ++ [some tempNNoise])).tempList := by
  simp only [run_accepted, acceptReading]

theorem acceptedRun_roundedAvgTemp (initialTemp : Int16) (reads : List (Option Int16))
    (tempNNoise : Int16) :
    (run initialTemp (reads ++ [some tempNNoise])).roundedAvgTemp =
      (run initialTemp (reads ++ [some tempNNoise])).avgTemp.roundToInt16? := by
  simp only [run_accepted, acceptReading]

/-- A failed read at the end of a run changes nothing. -/
theorem run_failed (initialTemp : Int16) (reads : List (Option Int16)) :
    run initialTemp (reads ++ [none]) = run initialTemp reads :=
  run_append initialTemp reads [none]

theorem foldl_acceptReading_refines {state : State} {ring : ReadingRing}
    (refines : Refines state ring) (readings : List Int16) :
    Refines (readings.foldl acceptReading state) (ring.pushAll readings) := by
  induction readings generalizing state ring with
  | nil => exact refines
  | cons reading rest ih => exact ih (acceptReading_refines refines reading)

/-- Every run refines the ring of its successful reads. -/
theorem run_refines (initialTemp : Int16) (reads : List (Option Int16)) :
    Refines (run initialTemp reads) (readingRing initialTemp reads.reduceOption) := by
  rw [run, foldl_mainLoop]
  exact foldl_acceptReading_refines (start_refines initialTemp) reads.reduceOption

/-- The write position counts the successful reads modulo the size of the window. -/
theorem run_currentIndex (initialTemp : Int16) (reads : List (Option Int16)) :
    (run initialTemp reads).currentIndex = reads.reduceOption.length % windowSize := by
  rw [(run_refines initialTemp reads).position, readingRing, RingBuffer.pushAll_next]

/-- A zero survives all readings that are stored in other slots. -/
theorem foldl_acceptReading_zero (state : State) (readings : List Int16) (i : Fin windowSize)
    (inside : state.currentIndex < windowSize) (zero : state.tempList.get i = 0)
    (others : ∀ step < readings.length, (state.currentIndex + step) % windowSize ≠ i.val) :
    (readings.foldl acceptReading state).tempList.get i = 0 := by
  induction readings generalizing state with
  | nil => exact zero
  | cons reading rest ih =>
      have next : (acceptReading state reading).currentIndex =
          (state.currentIndex + 1) % windowSize := nextIndex_eq _ inside
      have first := others 0 (Nat.succ_pos _)
      rw [Nat.add_zero, Nat.mod_eq_of_lt inside] at first
      apply ih (acceptReading state reading)
      · exact nextIndex_lt _ inside
      · exact acceptReading_zero state reading i zero first
      · intro step within
        have later := others (step + 1) (Nat.succ_lt_succ within)
        rw [next, Nat.mod_add_mod]
        rwa [Nat.add_right_comm]

/-- The contents of the window after the readings `readings`. -/
structure WindowHolds (initialTemp : Int16) (readings : List Int16) (state : State) : Prop where
  position : state.currentIndex = readings.length % windowSize
  inside : state.currentIndex < windowSize
  recent : ∀ back < min readings.length windowSize, ∃ reading,
    readings[readings.length - 1 - back]? = some reading ∧
      (state.tempList[(readings.length - 1 - back) % windowSize]? = some reading ∨
        state.tempList[(readings.length - 1 - back) % windowSize]? = some 0)
  untouched : ∀ slot : Fin windowSize, readings.length ≤ slot.val →
    state.tempList.get slot = initialTemp ∨ state.tempList.get slot = 0

/-- A refined slot in terms of partial access. -/
theorem Refines.getElem? {state : State} {ring : ReadingRing} (refines : Refines state ring)
    (slot : Nat) (inside : slot < windowSize) :
    state.tempList[slot]? = ring.slots[slot]? ∨ state.tempList[slot]? = some 0 := by
  rw [Vector.getElem?_eq_getElem inside, Vector.getElem?_eq_getElem inside]
  rcases refines.slots ⟨slot, inside⟩ with held | zero
  · exact Or.inl (congrArg some held)
  · exact Or.inr (congrArg some zero)

theorem run_windowHolds (initialTemp : Int16) (reads : List (Option Int16)) :
    WindowHolds initialTemp reads.reduceOption (run initialTemp reads) where
  position := run_currentIndex initialTemp reads
  inside := run_currentIndex initialTemp reads ▸ Nat.mod_lt _ (by decide)
  recent back within := by
    obtain ⟨pushed, recent⟩ := Nat.lt_min.mp within
    have law := RingBuffer.pushAll_recent (by decide : 0 < windowSize) initialTemp
      reads.reduceOption back pushed recent
    have bound : reads.reduceOption.length - 1 - back < reads.reduceOption.length := by omega
    refine ⟨reads.reduceOption[reads.reduceOption.length - 1 - back],
      List.getElem?_eq_getElem bound, ?_⟩
    have slot := (run_refines initialTemp reads).getElem?
      ((reads.reduceOption.length - 1 - back) % windowSize) (Nat.mod_lt _ (by decide))
    rwa [readingRing, law, List.getElem?_eq_getElem bound] at slot
  untouched slot beyond := by
    have law := RingBuffer.pushAll_untouched (by decide : 0 < windowSize) initialTemp
      reads.reduceOption slot.val slot.isLt beyond
    have held := (run_refines initialTemp reads).slots slot
    have fresh : (readingRing initialTemp reads.reduceOption).slots.get slot = initialTemp := by
      rw [Vector.getElem?_eq_getElem slot.isLt] at law
      exact Option.some.inj law
    rwa [fresh] at held

/-- The window invariant of every run, the life of a zero and the effect of a failed read. -/
theorem mainLoop_window (initialTemp : Int16) (reads : List (Option Int16)) :
    WindowHolds initialTemp reads.reduceOption (run initialTemp reads) ∧
    (∀ (slot : Fin windowSize) (later : List (Option Int16)),
      (run initialTemp reads).tempList.get slot = 0 →
      (∀ step < later.reduceOption.length,
        (reads.reduceOption.length + step) % windowSize ≠ slot.val) →
      (run initialTemp (reads ++ later)).tempList.get slot = 0) ∧
    run initialTemp (reads ++ [none]) = run initialTemp reads := by
  have holds := run_windowHolds initialTemp reads
  refine ⟨holds, ?_, run_failed initialTemp reads⟩
  intro slot later zero others
  rw [run_append]
  apply foldl_acceptReading_zero _ _ slot holds.inside zero
  intro step within
  rw [holds.position, Nat.mod_add_mod]
  exact others step within

end DataStreamPilot.Node
