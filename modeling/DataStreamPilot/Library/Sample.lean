/-
This file develops the mean and the variance of a finite sample over an ordered field.
The main result is the counting form of Chebyshev's inequality. Groups of entries are samples again.
-/

import Mathlib.Algebra.BigOperators.Field
import Mathlib.Algebra.Order.BigOperators.Ring.Finset
import Mathlib.Algebra.Order.Chebyshev
import Mathlib.Analysis.Real.Sqrt
import Mathlib.Data.Fintype.BigOperators
import Mathlib.Tactic

namespace Library

open Finset

section Moments

variable {I K : Type*} [Fintype I] [Field K]

/-- The mean divides the total by the number of entries. -/
def mean (sample : I → K) : K := (∑ i, sample i) / Fintype.card I

/-- The population variance is the mean square distance from the mean. -/
def variance (sample : I → K) : K :=
  (∑ i, (sample i - mean sample) ^ 2) / Fintype.card I

variable [Nonempty I] [CharZero K]

theorem card_mul_mean (sample : I → K) :
    (Fintype.card I : K) * mean sample = ∑ i, sample i := by
  have nonzero : (Fintype.card I : K) ≠ 0 := Nat.cast_ne_zero.mpr Fintype.card_ne_zero
  rw [mean, mul_div_cancel₀ _ nonzero]

theorem card_mul_variance (sample : I → K) :
    (Fintype.card I : K) * variance sample = ∑ i, (sample i - mean sample) ^ 2 := by
  have nonzero : (Fintype.card I : K) ≠ 0 := Nat.cast_ne_zero.mpr Fintype.card_ne_zero
  rw [variance, mul_div_cancel₀ _ nonzero]

/-- The power sums determine the variance. -/
theorem card_sq_mul_variance (sample : I → K) :
    (Fintype.card I : K) ^ 2 * variance sample =
      Fintype.card I * ∑ i, sample i ^ 2 - (∑ i, sample i) ^ 2 := by
  have expanded : ∑ i, (sample i - mean sample) ^ 2 =
      ∑ i, sample i ^ 2 - 2 * mean sample * ∑ i, sample i +
        Fintype.card I * mean sample ^ 2 := by
    simp only [sub_sq, sum_add_distrib, sum_sub_distrib, sum_const, card_univ, nsmul_eq_mul,
      mul_sum]
    congr 2
    exact sum_congr rfl fun i _ => by ring
  have total := card_mul_mean sample
  calc (Fintype.card I : K) ^ 2 * variance sample
      = Fintype.card I * (Fintype.card I * variance sample) := by ring
    _ = Fintype.card I * (∑ i, sample i ^ 2 - 2 * mean sample * ∑ i, sample i +
          Fintype.card I * mean sample ^ 2) := by rw [card_mul_variance, expanded]
    _ = Fintype.card I * ∑ i, sample i ^ 2 - 2 * (Fintype.card I * mean sample) * ∑ i, sample i +
          (Fintype.card I * mean sample) ^ 2 := by ring
    _ = Fintype.card I * ∑ i, sample i ^ 2 - (∑ i, sample i) ^ 2 := by rw [total]; ring

end Moments

section Order

variable {I K : Type*} [Fintype I] [Field K] [LinearOrder K] [IsStrictOrderedRing K]

theorem variance_nonneg (sample : I → K) : 0 ≤ variance sample :=
  div_nonneg (sum_nonneg fun _ _ => sq_nonneg _) (Nat.cast_nonneg _)

/-- The outliers lie farther from the mean than the given multiple of the variance allows. -/
def outliers (sample : I → K) (factor : K) : Finset I :=
  univ.filter fun i => factor * variance sample < (sample i - mean sample) ^ 2

omit [IsStrictOrderedRing K] in
theorem mem_outliers (sample : I → K) (factor : K) (i : I) :
    i ∈ outliers sample factor ↔
      factor * variance sample < (sample i - mean sample) ^ 2 := by
  simp [outliers]

variable [Nonempty I]

/-- Only a constant sample has no variance. -/
theorem variance_eq_zero_iff (sample : I → K) :
    variance sample = 0 ↔ ∀ i, sample i = mean sample := by
  have total := card_mul_variance sample
  have positive : (0 : K) < Fintype.card I := Nat.cast_pos.mpr Fintype.card_pos
  constructor
  · intro vanishes i
    rw [vanishes, mul_zero] at total
    have term := (sum_eq_zero_iff_of_nonneg fun i _ => sq_nonneg (sample i - mean sample)).mp
      total.symm i (mem_univ i)
    exact sub_eq_zero.mp (pow_eq_zero_iff two_ne_zero |>.mp term)
  · intro constant
    have vanishes : ∑ i, (sample i - mean sample) ^ 2 = 0 :=
      sum_eq_zero fun i _ => by rw [constant i, sub_self]; ring
    rw [vanishes] at total
    exact (mul_eq_zero.mp total).resolve_left positive.ne'

/-- A constant sample has no outliers. -/
theorem outliers_eq_empty_of_flat {sample : I → K} (flat : variance sample = 0) (factor : K) :
    outliers sample factor = ∅ := by
  apply eq_empty_of_forall_notMem
  intro i far
  rw [mem_outliers, flat, (variance_eq_zero_iff sample).mp flat i] at far
  simp at far

/-- Chebyshev's inequality bounds the number of outliers strictly. -/
theorem factor_mul_card_outliers_lt (sample : I → K) (factor : K) :
    factor * (outliers sample factor).card < Fintype.card I := by
  have positive : (0 : K) < Fintype.card I := Nat.cast_pos.mpr Fintype.card_pos
  rcases (outliers sample factor).eq_empty_or_nonempty with none | some
  · simpa [none] using positive
  · rcases (variance_nonneg sample).eq_or_lt with flat | spread
    · rw [outliers_eq_empty_of_flat flat.symm] at some
      exact absurd some not_nonempty_empty
    · have far : (outliers sample factor).card * (factor * variance sample) <
          ∑ i ∈ outliers sample factor, (sample i - mean sample) ^ 2 := by
        rw [← nsmul_eq_mul, ← sum_const]
        exact sum_lt_sum_of_nonempty some fun i inside => (mem_outliers sample factor i).mp inside
      have part : ∑ i ∈ outliers sample factor, (sample i - mean sample) ^ 2 ≤
          Fintype.card I * variance sample := by
        rw [card_mul_variance]
        exact sum_le_sum_of_subset_of_nonneg (subset_univ _) fun i _ _ => sq_nonneg _
      have scaled : factor * (outliers sample factor).card * variance sample <
          Fintype.card I * variance sample := by
        calc factor * (outliers sample factor).card * variance sample
            = (outliers sample factor).card * (factor * variance sample) := by ring
          _ < Fintype.card I * variance sample := far.trans_le part
      exact lt_of_mul_lt_mul_right scaled spread.le

/-- A factor of at least one leaves an entry that is no outlier. -/
theorem exists_notMem_outliers (sample : I → K) {factor : K} (large : 1 ≤ factor) :
    ∃ i, i ∉ outliers sample factor := by
  by_contra all
  have full : outliers sample factor = univ :=
    eq_univ_of_forall fun i => by_contra fun near => all ⟨i, near⟩
  have bound := factor_mul_card_outliers_lt sample factor
  rw [full, card_univ] at bound
  exact absurd bound (not_lt.mpr (le_mul_of_one_le_left (Nat.cast_nonneg _) large))

/-- An outlier that takes up half of the total square distance is farther from the mean than every
other entry. -/
theorem sq_sub_mean_lt_of_mem_outliers {sample : I → K} {factor : K} {i : I}
    (large : (Fintype.card I : K) ≤ 2 * factor) (far : i ∈ outliers sample factor) (j : I)
    (other : j ≠ i) : (sample j - mean sample) ^ 2 < (sample i - mean sample) ^ 2 := by
  classical
  have total := card_mul_variance sample
  have pair : (sample j - mean sample) ^ 2 + (sample i - mean sample) ^ 2 ≤
      ∑ k, (sample k - mean sample) ^ 2 := by
    rw [← sum_pair (f := fun k => (sample k - mean sample) ^ 2) other]
    exact sum_le_sum_of_subset_of_nonneg (subset_univ _) fun _ _ _ => sq_nonneg _
  have scaled : (Fintype.card I : K) * variance sample ≤ 2 * factor * variance sample :=
    mul_le_mul_of_nonneg_right large (variance_nonneg sample)
  rw [mem_outliers] at far
  linarith

omit [Fintype I] [Nonempty I] in
/-- The entry that is farthest from a center is the greatest or the least entry. -/
theorem isExtremum_of_sq_sub_lt {sample : I → K} {center : K} {i : I}
    (farthest : ∀ j ≠ i, (sample j - center) ^ 2 < (sample i - center) ^ 2) :
    (∀ j ≠ i, sample i < sample j) ∨ ∀ j ≠ i, sample j < sample i := by
  rcases le_total (sample i) center with below | above
  · refine Or.inl fun j other => ?_
    have bounds := sq_lt_sq.mp (farthest j other)
    rw [abs_of_nonpos (sub_nonpos.mpr below)] at bounds
    linarith [neg_abs_le (sample j - center)]
  · refine Or.inr fun j other => ?_
    have bounds := sq_lt_sq.mp (farthest j other)
    rw [abs_of_nonneg (sub_nonneg.mpr above)] at bounds
    linarith [le_abs_self (sample j - center)]

/-- The outlier test needs only the two power sums. -/
theorem mem_outliers_iff_powerSums (sample : I → K) (factor : K) (i : I) :
    i ∈ outliers sample factor ↔
      factor * (Fintype.card I * ∑ j, sample j ^ 2 - (∑ j, sample j) ^ 2) <
        (Fintype.card I * sample i - ∑ j, sample j) ^ 2 := by
  have positive : (0 : K) < (Fintype.card I : K) ^ 2 :=
    pow_pos (Nat.cast_pos.mpr Fintype.card_pos) 2
  rw [mem_outliers, ← card_sq_mul_variance, ← card_mul_mean sample, ← mul_sub, mul_pow,
    mul_left_comm, mul_lt_mul_iff_right₀ positive]

/-- The outlier test compares an expression that does not change when zeros are added to the sample
with a bound that depends on the size of the sample. -/
theorem mem_outliers_iff_bound (sample : I → K) (factor : K) (i : I) :
    i ∈ outliers sample factor ↔
      factor * ∑ j, sample j ^ 2 + 2 * (∑ j, sample j) * sample i <
        Fintype.card I * sample i ^ 2 + (factor + 1) * (∑ j, sample j) ^ 2 / Fintype.card I := by
  have positive : (0 : K) < Fintype.card I := Nat.cast_pos.mpr Fintype.card_pos
  have cleared : Fintype.card I * ((factor + 1) * (∑ j, sample j) ^ 2 / Fintype.card I) =
      (factor + 1) * (∑ j, sample j) ^ 2 := mul_div_cancel₀ _ positive.ne'
  rw [mem_outliers_iff_powerSums, ← mul_lt_mul_iff_right₀ positive (b := _ + _), mul_add, mul_add,
    cleared]
  constructor
  · intro far
    linarith
  · intro far
    linarith

/-- A group of equal entries bounds their distance from the mean by the share of the others. -/
theorem card_mul_sq_sub_mean_le [DecidableEq I] (sample : I → K) (group : Finset I) (value : K)
    (same : ∀ i ∈ group, sample i = value) :
    group.card * (value - mean sample) ^ 2 ≤ groupᶜ.card * variance sample := by
  have total : (Fintype.card I : K) = group.card + groupᶜ.card := by
    rw [← Nat.cast_add, card_add_card_compl]
  have inside : ∑ j ∈ group, (sample j - mean sample) = group.card * (value - mean sample) := by
    rw [sum_congr rfl fun j inside => by rw [same j inside], sum_const, nsmul_eq_mul]
  -- The deviations of the other entries cancel those of the group.
  have cancel : (∑ j ∈ groupᶜ, (sample j - mean sample)) ^ 2 =
      (group.card * (value - mean sample)) ^ 2 := by
    have balance : ∑ j, (sample j - mean sample) = 0 := by
      rw [sum_sub_distrib, sum_const, card_univ, nsmul_eq_mul, card_mul_mean, sub_self]
    rw [← sum_add_sum_compl group, inside] at balance
    rw [eq_neg_of_add_eq_zero_right balance, neg_sq]
  have squares : (Fintype.card I : K) * variance sample =
      group.card * (value - mean sample) ^ 2 + ∑ j ∈ groupᶜ, (sample j - mean sample) ^ 2 := by
    rw [card_mul_variance, ← sum_add_sum_compl group,
      sum_congr rfl fun j inside => by rw [same j inside], sum_const, nsmul_eq_mul]
  have cauchy : (group.card * (value - mean sample)) ^ 2 ≤
      groupᶜ.card * ∑ j ∈ groupᶜ, (sample j - mean sample) ^ 2 := by
    rw [← cancel]
    exact sq_sum_le_card_mul_sum_sq
  have scaled : (Fintype.card I : K) * (group.card * (value - mean sample) ^ 2) ≤
      Fintype.card I * (groupᶜ.card * variance sample) := by
    calc (Fintype.card I : K) * (group.card * (value - mean sample) ^ 2)
        = (group.card * (value - mean sample)) ^ 2 +
            groupᶜ.card * (group.card * (value - mean sample) ^ 2) := by rw [total]; ring
      _ ≤ groupᶜ.card * ∑ j ∈ groupᶜ, (sample j - mean sample) ^ 2 +
            groupᶜ.card * (group.card * (value - mean sample) ^ 2) := by gcongr
      _ = groupᶜ.card * (Fintype.card I * variance sample) := by rw [squares]; ring
      _ = Fintype.card I * (groupᶜ.card * variance sample) := by ring
  exact le_of_mul_le_mul_left scaled (Nat.cast_pos.mpr Fintype.card_pos)

/-- Equal entries that make up a large enough part of the sample are no outliers. -/
theorem not_mem_outliers_of_card_le (sample : I → K) (factor : K) (group : Finset I) (value : K)
    (same : ∀ i ∈ group, sample i = value)
    (many : (Fintype.card I : K) ≤ factor * group.card + group.card) (i : I)
    (member : i ∈ group) : i ∉ outliers sample factor := by
  classical
  have positive : (0 : K) < group.card := Nat.cast_pos.mpr (card_pos.mpr ⟨i, member⟩)
  have few : (groupᶜ.card : K) ≤ factor * group.card := by
    rw [card_compl, Nat.cast_sub (card_le_univ group)]
    linarith
  rw [mem_outliers, not_lt, same i member]
  apply le_of_mul_le_mul_left _ positive
  calc group.card * (value - mean sample) ^ 2
      ≤ groupᶜ.card * variance sample := card_mul_sq_sub_mean_le sample group value same
    _ ≤ factor * group.card * variance sample :=
        mul_le_mul_of_nonneg_right few (variance_nonneg sample)
    _ = group.card * (factor * variance sample) := by ring

/-- In a sample of two values the entries of a small enough group are the outliers. -/
theorem mem_outliers_twoValues (sample : I → K) (factor : K) (nonneg : 0 ≤ factor)
    (group : Finset I) (inner outer : K) (different : inner ≠ outer)
    (insideValue : ∀ i ∈ group, sample i = inner) (outsideValue : ∀ i ∉ group, sample i = outer)
    (i : I) (member : i ∈ group) :
    i ∈ outliers sample factor ↔ factor * group.card + group.card < Fintype.card I := by
  classical
  have total (power : Nat) : ∑ j, sample j ^ power =
      group.card * inner ^ power + (Fintype.card I - group.card) * outer ^ power := by
    rw [← sum_add_sum_compl group, sum_congr rfl fun j inside => by rw [insideValue j inside],
      sum_congr (rfl : groupᶜ = groupᶜ) fun j outside => by
        rw [outsideValue j (mem_compl.mp outside)]]
    simp [card_compl, Nat.cast_sub (card_le_univ group)]
  have linear := total 1
  simp only [pow_one] at linear
  have gap : 0 < (inner - outer) ^ 2 := by
    have := sub_ne_zero.mpr different
    positivity
  have rest : (0 : K) ≤ Fintype.card I - group.card :=
    sub_nonneg.mpr (Nat.cast_le.mpr (card_le_univ group))
  have spread : factor * (Fintype.card I * ∑ j, sample j ^ 2 - (∑ j, sample j) ^ 2) =
      (Fintype.card I - group.card) * (inner - outer) ^ 2 * (factor * group.card) := by
    rw [total 2, linear]
    ring
  have distance : (Fintype.card I * sample i - ∑ j, sample j) ^ 2 =
      (Fintype.card I - group.card) * (inner - outer) ^ 2 * (Fintype.card I - group.card) := by
    rw [insideValue i member, linear]
    ring
  rw [mem_outliers_iff_powerSums, spread, distance]
  rcases rest.eq_or_lt with full | proper
  · have fewer : ¬ factor * group.card + group.card < (Fintype.card I : K) := by
      have product : 0 ≤ factor * group.card := mul_nonneg nonneg (Nat.cast_nonneg _)
      linarith
    simp [← full, fewer]
  · rw [mul_lt_mul_iff_right₀ (mul_pos proper gap)]
    constructor <;> intro less <;> linarith

end Order

section Restriction

variable {I K : Type*} [Field K]

/-- The mean of a group of entries. -/
theorem mean_restrict (sample : I → K) (group : Finset I) :
    mean (group.restrict sample) = (∑ i ∈ group, sample i) / group.card := by
  rw [mean, Fintype.card_coe, ← sum_coe_sort group sample]
  rfl

theorem card_mul_variance_restrict [CharZero K] (sample : I → K) {group : Finset I}
    (nonempty : group.Nonempty) :
    group.card * variance (group.restrict sample) =
      ∑ i ∈ group, (sample i - mean (group.restrict sample)) ^ 2 := by
  have nonemptyType : Nonempty group := nonempty.to_subtype
  rw [← sum_coe_sort group fun i => (sample i - mean (group.restrict sample)) ^ 2,
    ← Fintype.card_coe, card_mul_variance]
  rfl

/-- The power sums of a group determine its variance. -/
theorem card_sq_mul_variance_restrict [CharZero K] (sample : I → K) {group : Finset I}
    (nonempty : group.Nonempty) :
    (group.card : K) ^ 2 * variance (group.restrict sample) =
      group.card * ∑ i ∈ group, sample i ^ 2 - (∑ i ∈ group, sample i) ^ 2 := by
  have nonemptyType : Nonempty group := nonempty.to_subtype
  rw [← sum_coe_sort group fun i => sample i ^ 2, ← sum_coe_sort group sample, ← Fintype.card_coe,
    card_sq_mul_variance]
  rfl

variable [Fintype I] [DecidableEq I]

/-- A sample whose entries outside a group are set to zero has this square distance from the mean of
the group. -/
theorem sum_sq_zeroed_sub_mean [CharZero K] (sample : I → K) {group : Finset I}
    (nonempty : group.Nonempty) :
    ∑ i, ((if i ∈ group then sample i else 0) - mean (group.restrict sample)) ^ 2 =
      group.card * variance (group.restrict sample) +
        groupᶜ.card * mean (group.restrict sample) ^ 2 := by
  rw [← sum_add_sum_compl group, card_mul_variance_restrict sample nonempty]
  congr 1
  · exact sum_congr rfl fun i inside => by rw [if_pos inside]
  · rw [sum_congr rfl fun i outside => by rw [if_neg (mem_compl.mp outside)], sum_const,
      nsmul_eq_mul, zero_sub, neg_sq]

/-- Zeros in place of the other entries leave the variance of a group only when there are none of
them or when the variance is the square of the mean. -/
theorem zeroed_eq_variance_iff [CharZero K] (sample : I → K) {group : Finset I}
    (nonempty : group.Nonempty) :
    (∑ i, ((if i ∈ group then sample i else 0) - mean (group.restrict sample)) ^ 2) /
        Fintype.card I = variance (group.restrict sample) ↔
      groupᶜ = ∅ ∨ group.card * ∑ i ∈ group, sample i ^ 2 = 2 * (∑ i ∈ group, sample i) ^ 2 := by
  have total : (Fintype.card I : K) = group.card + groupᶜ.card := by
    rw [← Nat.cast_add, card_add_card_compl]
  have positive : (group.card : K) ≠ 0 := Nat.cast_ne_zero.mpr nonempty.card_ne_zero
  have size : (Fintype.card I : K) ≠ 0 :=
    Nat.cast_ne_zero.mpr (card_pos.mpr (nonempty.mono (subset_univ group))).ne'
  have sum : group.card * mean (group.restrict sample) = ∑ i ∈ group, sample i := by
    rw [mean_restrict, mul_div_cancel₀ _ positive]
  have squares := card_sq_mul_variance_restrict sample nonempty
  have balanced : variance (group.restrict sample) = mean (group.restrict sample) ^ 2 ↔
      group.card * ∑ i ∈ group, sample i ^ 2 = 2 * (∑ i ∈ group, sample i) ^ 2 := by
    rw [← mul_right_inj' (pow_ne_zero 2 positive), squares, ← mul_pow, sum, sub_eq_iff_eq_add,
      ← two_mul]
  rw [sum_sq_zeroed_sub_mean sample nonempty, div_eq_iff size, total, mul_add,
    mul_comm (variance _), add_right_inj, mul_comm (variance _), mul_eq_mul_left_iff,
    Nat.cast_eq_zero, card_eq_zero, eq_comm, balanced, or_comm]

end Restriction

/-- A distance is within a multiple of a root exactly when its square is within the square of the
multiple times the radicand. -/
theorem abs_le_mul_sqrt_iff {distance factor radicand : ℝ} (nonneg : 0 ≤ factor)
    (radicandNonneg : 0 ≤ radicand) :
    |distance| ≤ factor * √radicand ↔ distance ^ 2 ≤ factor ^ 2 * radicand := by
  have scaled : 0 ≤ factor * √radicand := mul_nonneg nonneg (Real.sqrt_nonneg radicand)
  rw [← sq_le_sq₀ (abs_nonneg distance) scaled, sq_abs, mul_pow, Real.sq_sqrt radicandNonneg]

/-- A z-score exceeds a threshold exactly when the threshold is negative or its square is less than
the square of the z-score. -/
theorem lt_abs_div_sqrt_iff {threshold distance radicand : ℝ} (positive : 0 < radicand) :
    threshold < |distance / √radicand| ↔
      threshold < 0 ∨ threshold ^ 2 < distance ^ 2 / radicand := by
  rcases lt_or_ge threshold 0 with negative | nonneg
  · exact ⟨fun _ => Or.inl negative, fun _ => negative.trans_le (abs_nonneg _)⟩
  · rw [or_iff_right (not_lt.mpr nonneg), ← sq_lt_sq₀ nonneg (abs_nonneg _), sq_abs, div_pow,
      Real.sq_sqrt positive.le]

/-- Two bounds give the same verdict outside the interval between them. -/
theorem lt_iff_lt_iff_notMem_Ico {K : Type*} [LinearOrder K] (level first second : K) :
    (level < first ↔ level < second) ↔ level ∉ Set.Ico (min first second) (max first second) := by
  wlog ordered : first ≤ second generalizing first second
  · rw [iff_comm (a := level < first), min_comm, max_comm]
    exact this second first (le_of_not_ge ordered)
  rw [min_eq_left ordered, max_eq_right ordered, Set.mem_Ico, not_and, not_lt]
  constructor
  · intro same above
    exact not_lt.mp (mt same.mpr (not_lt.mpr above))
  · intro outside
    exact ⟨fun below => below.trans_le ordered,
      fun below => not_le.mp fun above => absurd below (not_lt.mpr (outside above))⟩

section Range

variable {K : Type*}

/-- A number lies between the smallest and the largest entry of a list. -/
def WithinRange [LE K] (entries : List K) (number : K) : Prop :=
  (∃ low ∈ entries, low ≤ number) ∧ ∃ high ∈ entries, number ≤ high

instance [LE K] [DecidableLE K] (entries : List K) (number : K) :
    Decidable (WithinRange entries number) := inferInstanceAs (Decidable (_ ∧ _))

theorem WithinRange.mono [LE K] {entries larger : List K} {number : K}
    (within : WithinRange entries number) (included : ∀ entry ∈ entries, entry ∈ larger) :
    WithinRange larger number := by
  obtain ⟨⟨low, lowMember, below⟩, high, highMember, above⟩ := within
  exact ⟨⟨low, included low lowMember, below⟩, high, included high highMember, above⟩

/-- The range of a list is the interval from its minimum to its maximum. -/
theorem withinRange_iff_min_max [LinearOrder K] {entries : List K} {low high number : K}
    (least : entries.min? = some low) (greatest : entries.max? = some high) :
    WithinRange entries number ↔ low ≤ number ∧ number ≤ high := by
  obtain ⟨lowMember, lowBound⟩ := List.min?_eq_some_iff.mp least
  obtain ⟨highMember, highBound⟩ := List.max?_eq_some_iff.mp greatest
  constructor
  · rintro ⟨⟨entry, member, below⟩, other, otherMember, above⟩
    exact ⟨(lowBound entry member).trans below, above.trans (highBound other otherMember)⟩
  · rintro ⟨below, above⟩
    exact ⟨⟨low, lowMember, below⟩, high, highMember, above⟩

/-- The mean of some entries lies between two of them. -/
theorem exists_sum_div_card_between {I : Type*} [Field K] [LinearOrder K] [IsStrictOrderedRing K]
    {group : Finset I} (entry : I → K) (nonempty : group.Nonempty) :
    (∃ low ∈ group, entry low ≤ (∑ i ∈ group, entry i) / group.card) ∧
      ∃ high ∈ group, (∑ i ∈ group, entry i) / group.card ≤ entry high := by
  have nonzero : (group.card : K) ≠ 0 := Nat.cast_ne_zero.mpr nonempty.card_ne_zero
  have total : ∑ _i ∈ group, (∑ i ∈ group, entry i) / group.card = ∑ i ∈ group, entry i := by
    rw [sum_const, nsmul_eq_mul, mul_div_cancel₀ _ nonzero]
  exact ⟨exists_le_of_sum_le nonempty total.ge, exists_le_of_sum_le nonempty total.le⟩

/-- The mean of a nonempty list lies in its range. -/
theorem listMean_withinRange [Field K] [LinearOrder K] [IsStrictOrderedRing K] {entries : List K}
    (nonempty : entries ≠ []) : WithinRange entries (entries.sum / entries.length) := by
  have positive : (0 : K) < entries.length := by
    exact_mod_cast List.length_pos_iff.mpr nonempty
  obtain ⟨low, least⟩ := Option.ne_none_iff_exists'.mp (mt List.min?_eq_none_iff.mp nonempty)
  obtain ⟨high, greatest⟩ := Option.ne_none_iff_exists'.mp (mt List.max?_eq_none_iff.mp nonempty)
  have lowBound := (List.min?_eq_some_iff.mp least).2
  have highBound := (List.max?_eq_some_iff.mp greatest).2
  rw [withinRange_iff_min_max least greatest, le_div_iff₀ positive, div_le_iff₀ positive]
  have below := List.card_nsmul_le_sum entries low lowBound
  have above := List.sum_le_card_nsmul entries high highBound
  rw [nsmul_eq_mul] at below above
  exact ⟨by rwa [mul_comm], by rwa [mul_comm high]⟩

end Range

end Library
