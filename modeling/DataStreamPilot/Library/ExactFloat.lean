/-
This file models floating-point results with exact rational arithmetic.
A quotient by zero is NaN or an infinity, and every comparison with NaN is false.
-/

import Mathlib.Algebra.Order.Floor.Ring
import Mathlib.Data.Rat.Floor
import Mathlib.Tactic

namespace Library

/-- A floating-point result is a rational number unless a division has failed. -/
inductive ExactFloat where
  | nan
  | infinity (negative : Bool)
  | real (value : ℚ)
  deriving DecidableEq, Repr

namespace ExactFloat

/-- The quotient of zero by zero is NaN. -/
def div (numerator divisor : ℚ) : ExactFloat :=
  if divisor = 0 then
    if numerator = 0 then .nan else .infinity (decide (numerator < 0))
  else .real (numerator / divisor)

/-- The comparison `value <= bound` of C and of numpy. -/
def le : ExactFloat → ℚ → Bool
  | .nan, _ => false
  | .infinity negative, _ => negative
  | .real value, bound => decide (value ≤ bound)

/-- The comparison `value >= bound` of C. -/
def ge : ExactFloat → ℚ → Bool
  | .nan, _ => false
  | .infinity negative, _ => !negative
  | .real value, bound => decide (bound ≤ value)

theorem div_of_ne_zero {numerator divisor : ℚ} (nonzero : divisor ≠ 0) :
    div numerator divisor = .real (numerator / divisor) := by
  simp [div, nonzero]

@[simp] theorem le_real (value bound : ℚ) : (real value).le bound = true ↔ value ≤ bound := by
  simp [le]

/-- A nonnegative quotient passes an upper bound only when its divisor is not zero. -/
theorem div_le_iff {numerator divisor bound : ℚ} (nonneg : 0 ≤ numerator) :
    (div numerator divisor).le bound = true ↔ divisor ≠ 0 ∧ numerator / divisor ≤ bound := by
  by_cases zero : divisor = 0
  · by_cases empty : numerator = 0
    · simp [div, zero, empty, le]
    · simp [div, zero, empty, le, nonneg]
  · simp [div, zero]

end ExactFloat

/-- C's `round` breaks ties away from zero. -/
def roundHalfAway (value : ℚ) : ℤ :=
  if 0 ≤ value then ⌊value + 1 / 2⌋ else ⌈value - 1 / 2⌉

/-- Rounding stays above every integer lower bound. -/
theorem le_roundHalfAway {low : ℤ} {value : ℚ} (below : (low : ℚ) ≤ value) :
    low ≤ roundHalfAway value := by
  unfold roundHalfAway
  split
  · exact Int.le_floor.mpr (by linarith)
  · have less : ((low - 1 : ℤ) : ℚ) < value - 1 / 2 := by push_cast; linarith
    have := Int.lt_ceil.mpr less
    omega

/-- Rounding stays below every integer upper bound. -/
theorem roundHalfAway_le {high : ℤ} {value : ℚ} (above : value ≤ high) :
    roundHalfAway value ≤ high := by
  unfold roundHalfAway
  split
  · have less : value + 1 / 2 < ((high + 1 : ℤ) : ℚ) := by push_cast; linarith
    have := Int.floor_lt.mpr less
    omega
  · exact Int.ceil_le.mpr (by linarith)

/-- C's cast to an integer cuts the fraction off. -/
def truncate (value : ℚ) : ℤ := if 0 ≤ value then ⌊value⌋ else ⌈value⌉

/-- Truncation stays above every integer lower bound. -/
theorem le_truncate {low : ℤ} {value : ℚ} (below : (low : ℚ) ≤ value) : low ≤ truncate value := by
  unfold truncate
  split
  · exact Int.le_floor.mpr below
  · exact Int.cast_le.mp (below.trans (Int.le_ceil value))

/-- Truncation stays below every integer upper bound. -/
theorem truncate_le {high : ℤ} {value : ℚ} (above : value ≤ high) : truncate value ≤ high := by
  unfold truncate
  split
  · exact Int.cast_le.mp ((Int.floor_le value).trans above)
  · exact Int.ceil_le.mpr above

/-- C's cast to `int16_t` is defined only inside the range of the type. -/
def toInt16? (value : ℤ) : Option Int16 :=
  if -2 ^ 15 ≤ value ∧ value < 2 ^ 15 then some (Int16.ofInt value) else none

/-- The cast `(int16_t)round(value)` has no defined result on NaN and on an infinity. -/
def ExactFloat.roundToInt16? : ExactFloat → Option Int16
  | .nan => none
  | .infinity _ => none
  | .real value => toInt16? (roundHalfAway value)

/-- The cast `(int16_t)value` has no defined result on NaN and on an infinity. -/
def ExactFloat.truncToInt16? : ExactFloat → Option Int16
  | .nan => none
  | .infinity _ => none
  | .real value => toInt16? (truncate value)

/-- A cast with a defined result keeps the integer. -/
theorem toInt16?_eq_some_iff {value : ℤ} {result : Int16} :
    toInt16? value = some result ↔ result.toInt = value := by
  unfold toInt16?
  constructor
  · intro defined
    split at defined
    · rename_i inside
      rw [← Option.some.inj defined]
      exact Int16.toInt_ofInt_of_le inside.1 inside.2
    · cases defined
  · rintro rfl
    rw [if_pos ⟨result.le_toInt, result.toInt_lt⟩, Int16.ofInt_toInt]

/-- The cast of an integer between two 16-bit integers is defined. -/
theorem toInt16?_between {low high : Int16} {value : ℤ} (below : low.toInt ≤ value)
    (above : value ≤ high.toInt) : ∃ result, toInt16? value = some result := by
  have lowest := low.le_toInt
  have highest := high.toInt_lt
  exact ⟨Int16.ofInt value, if_pos ⟨by omega, by omega⟩⟩

/-- A rational between two 16-bit integers rounds to a 16-bit integer between them. -/
theorem roundToInt16?_between {low high : Int16} {value : ℚ}
    (below : (low.toInt : ℚ) ≤ value) (above : value ≤ (high.toInt : ℚ)) :
    ∃ rounded, (ExactFloat.real value).roundToInt16? = some rounded ∧
      low.toInt ≤ rounded.toInt ∧ rounded.toInt ≤ high.toInt := by
  have lower := le_roundHalfAway below
  have upper := roundHalfAway_le above
  obtain ⟨rounded, defined⟩ := toInt16?_between lower upper
  have same := toInt16?_eq_some_iff.mp defined
  exact ⟨rounded, defined, same ▸ lower, same ▸ upper⟩

end Library
