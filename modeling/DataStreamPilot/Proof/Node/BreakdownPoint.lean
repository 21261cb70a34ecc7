/-
This file bounds how many entries one outlier pass removes.
With two values in the window the smaller group is removed when it has at most twelve entries.
-/

import DataStreamPilot.Proof.Node.OutlierPass

namespace DataStreamPilot.Node

open Library Finset

/-- A standard deviation of zero leaves no outliers. -/
theorem windowOutliers_of_flat {data : Window}
    (flat : calculateStddevSquared data (windowSum data / windowSize) = 0) :
    windowOutliers data = ∅ := by
  rw [windowMean_eq, calculateStddevSquared_mean] at flat
  exact outliers_eq_empty_of_flat flat _

/-- The loop of the main program judges at most sixteen entries to be outliers, so 49 entries keep
their value and their position. A standard deviation of zero leaves the window as it is. -/
theorem outlierPass_keepsMost (data : Window) :
    (univ.filter fun i : Fin windowSize => isInlier (data.get i) (windowSum data / windowSize)
      (calculateStddevSquared data (windowSum data / windowSize)) = false).card ≤ 16 ∧
    49 ≤ (univ.filter fun i : Fin windowSize => (outlierPass data).get i = data.get i).card ∧
    (calculateStddevSquared data (windowSum data / windowSize) = 0 → outlierPass data = data) := by
  have few := card_windowOutliers_le data
  have judged : (univ.filter fun i : Fin windowSize =>
      isInlier (data.get i) (windowSum data / windowSize)
        (calculateStddevSquared data (windowSum data / windowSize)) = false) =
      windowOutliers data := by
    ext i
    rw [mem_filter, and_iff_right (mem_univ i), windowMean_eq, calculateStddevSquared_mean,
      ← Bool.not_eq_true, isInlier_iff, not_not]
  have kept : (windowOutliers data)ᶜ ⊆
      univ.filter fun i : Fin windowSize => (outlierPass data).get i = data.get i := by
    intro i near
    rw [mem_filter, and_iff_right (mem_univ i), outlierPass_get, if_neg (mem_compl.mp near)]
  refine ⟨judged ▸ few, ?_, fun flat => outlierPass_eq_self (windowOutliers_of_flat flat)⟩
  have many := card_le_card kept
  rw [card_compl, Fintype.card_fin] at many
  have size : windowSize = 65 := rfl
  omega

/-- A window holds two different values, which are not zero. -/
structure TwoValues (data : Window) (typical other : Int16) : Prop where
  different : typical ≠ other
  typicalNonzero : typical ≠ 0
  otherNonzero : other ≠ 0
  entries : ∀ i : Fin windowSize, data.get i = typical ∨ data.get i = other

namespace TwoValues

variable {data : Window} {typical other : Int16}

theorem symm (two : TwoValues data typical other) : TwoValues data other typical :=
  ⟨two.different.symm, two.otherNonzero, two.typicalNonzero, fun i => (two.entries i).symm⟩

/-- The two groups fill the window. -/
theorem card_add_card (two : TwoValues data typical other) :
    (valueSlots data typical).card + (valueSlots data other).card = 65 := by
  have complement : valueSlots data other = univ.filter fun i => ¬ data.get i = typical := by
    apply filter_congr
    intro i _
    constructor
    · intro held isTypical
      exact two.different (isTypical.symm.trans held)
    · exact (two.entries i).resolve_left
  rw [complement]
  exact card_filter_add_card_filter_not _

/-- An entry is removed when at most twelve entries have its value. -/
theorem mem_windowOutliers_iff (two : TwoValues data typical other) (i : Fin windowSize) :
    i ∈ windowOutliers data ↔
      data.get i = typical ∧ (valueSlots data typical).card ≤ 12 ∨
        data.get i = other ∧ (valueSlots data other).card ≤ 12 := by
  rcases two.entries i with held | held
  · have absent : data.get i ≠ other := held ▸ two.different
    rw [mem_windowOutliers_twoValues data two.different two.entries i held, and_iff_right held,
      or_iff_left fun both => absent both.1, Nat.lt_succ_iff]
  · have absent : data.get i ≠ typical := held ▸ two.symm.different
    rw [mem_windowOutliers_twoValues data two.symm.different two.symm.entries i held,
      and_iff_right held, or_iff_right fun both => absent both.1, Nat.lt_succ_iff]

/-- A group of at most twelve entries is removed as a whole, and the other group stays. -/
theorem outlierPass_few (two : TwoValues data typical other)
    (few : (valueSlots data other).card ≤ 12) (i : Fin windowSize) :
    (outlierPass data).get i = if data.get i = other then 0 else typical := by
  have total := two.card_add_card
  have test := two.mem_windowOutliers_iff i
  rw [outlierPass_get]
  by_cases held : data.get i = other
  · rw [if_pos held, if_pos (test.mpr (Or.inr ⟨held, few⟩))]
  · have isTypical := (two.entries i).resolve_right held
    rw [if_neg held, if_neg, isTypical]
    intro far
    rcases test.mp far with ⟨_, fewer⟩ | ⟨isOther, _⟩
    · omega
    · exact held isOther

/-- The average after the removal of a small group is the value of the other group. -/
theorem calculateAverage_few (two : TwoValues data typical other)
    (few : (valueSlots data other).card ≤ 12) :
    calculateAverage (outlierPass data) = .real typical.toInt := by
  have total := two.card_add_card
  have kept := two.outlierPass_few few
  apply calculateAverage_of_constant
  · obtain ⟨i, member⟩ := card_pos.mp (by omega : 0 < (valueSlots data typical).card)
    have held := (mem_valueSlots data typical i).mp member
    refine ⟨i, (mem_nonZeroSlots _ i).mpr ?_⟩
    rw [kept, if_neg fun isOther => two.different (held.symm.trans isOther)]
    exact two.typicalNonzero
  · intro i present
    rw [kept] at present ⊢
    by_cases held : data.get i = other
    · exact absurd (if_pos held) present
    · exact if_neg held

/-- The pass leaves two groups as they are when each is empty or has at least thirteen entries. -/
theorem outlierPass_balanced (two : TwoValues data typical other)
    (typicalMany : (valueSlots data typical).card = 0 ∨ 13 ≤ (valueSlots data typical).card)
    (otherMany : (valueSlots data other).card = 0 ∨ 13 ≤ (valueSlots data other).card) :
    outlierPass data = data := by
  have present {value : Int16} {i : Fin windowSize} (held : data.get i = value) :
      0 < (valueSlots data value).card :=
    card_pos.mpr ⟨i, (mem_valueSlots data value i).mpr held⟩
  apply outlierPass_eq_self
  apply eq_empty_of_forall_notMem
  intro i far
  rcases (two.mem_windowOutliers_iff i).mp far with ⟨held, few⟩ | ⟨held, few⟩
  · have some := present held
    omega
  · have some := present held
    omega

end TwoValues

/-- What one pass does with a window whose entries are `other` in some slots and `typical` in the
remaining ones. -/
structure BreaksDownAt (data : Window) (typical other : Int16) (count : Nat) : Prop where
  removesOther : 1 ≤ count → count ≤ 12 → ∀ i : Fin windowSize,
    (outlierPass data).get i = if data.get i = other then 0 else typical
  removesNothing : count = 0 ∨ 13 ≤ count ∧ count ≤ 52 ∨ count = 65 → outlierPass data = data
  removesTypical : 53 ≤ count → count ≤ 64 → ∀ i : Fin windowSize,
    (outlierPass data).get i = if data.get i = typical then 0 else other
  averageTypical : count ≤ 12 → calculateAverage (outlierPass data) = .real typical.toInt
  averageOther : 53 ≤ count → calculateAverage (outlierPass data) = .real other.toInt

/-- The pass removes a value with at most twelve entries, and from 53 entries on it removes the
other value instead. -/
theorem outlierPass_breaksDown (data : Window) (typical other : Int16)
    (two : TwoValues data typical other) :
    BreaksDownAt data typical other (valueSlots data other).card := by
  have total := two.card_add_card
  exact {
    removesOther := fun _ few => two.outlierPass_few few
    removesNothing := fun many => two.outlierPass_balanced (by omega) (by omega)
    removesTypical := fun many _ => two.symm.outlierPass_few (by omega)
    averageTypical := two.calculateAverage_few
    averageOther := fun many => two.symm.calculateAverage_few (by omega) }

/-- Twelve spikes at the start of a steady window. -/
def spikes : Window := Vector.ofFn fun i => if i.val < 12 then 9000 else 2000

theorem outlierPass_breaksDown_spikes :
    BreaksDownAt spikes 2000 9000 (valueSlots spikes 9000).card :=
  outlierPass_breaksDown spikes 2000 9000
    { different := by decide
      typicalNonzero := by decide
      otherNonzero := by decide
      entries := by decide }

end DataStreamPilot.Node
