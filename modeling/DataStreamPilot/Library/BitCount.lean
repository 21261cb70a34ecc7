/-
This file counts the set bits of a word, the bits in which two words differ, and the ones of a
binary numeral.
-/

import Mathlib.Data.Nat.Digits.Defs
import Mathlib.InformationTheory.Hamming
import Mathlib.NumberTheory.Padics.PadicVal.Basic
import Mathlib.Tactic

namespace Library

open Finset

/-- The number of set bits of a word. -/
def weight {size : Nat} (word : Fin size → Bool) : Nat := ∑ i, (word i).toNat

theorem weight_cons {size : Nat} (bit : Bool) (word : Fin size → Bool) :
    weight (Fin.cons bit word : Fin (size + 1) → Bool) = bit.toNat + weight word := by
  rw [weight, Fin.sum_univ_succ]
  rfl

/-- Two words differ in as many bits, modulo two, as both have set bits. -/
theorem hammingDist_mod_two {size : Nat} (first second : Fin size → Bool) :
    hammingDist first second % 2 = (weight first + weight second) % 2 := by
  have bits (i : Fin size) : (first i).toNat + (second i).toNat =
      (if first i ≠ second i then 1 else 0) + 2 * (first i && second i).toNat := by
    cases first i <;> cases second i <;> rfl
  have total : weight first + weight second =
      hammingDist first second + 2 * ∑ i, (first i && second i).toNat := by
    rw [weight, weight, ← sum_add_distrib, sum_congr rfl fun i _ => bits i, sum_add_distrib,
      ← card_filter, mul_sum]
    rfl
  rw [total, Nat.add_mul_mod_self_left]

/-- The bits of a machine word. -/
def wordBits {width : Nat} (word : BitVec width) (i : Fin width) : Bool := word.getLsbD i

/-- The arithmetic shift of the signed value moves bit `i` to the lowest place. -/
theorem toInt_shiftRight_mod_two {width : Nat} (word : BitVec width) (i : Fin width) :
    word.toInt >>> i.val % 2 = ((wordBits word i).toNat : ℤ) := by
  have lowest : ((word.sshiftRight i.val).toNat : ℤ) % 2 = ((wordBits word i).toNat : ℤ) := by
    have bit : (word.sshiftRight i.val).getLsbD 0 = word.getLsbD i.val := by
      have nonempty : ¬ width ≤ 0 := Nat.not_le.mpr i.pos
      simp only [BitVec.getLsbD_sshiftRight, nonempty, Nat.add_zero, i.isLt, decide_false,
        Bool.not_false, Bool.true_and, if_true]
    rw [wordBits, ← bit, ← BitVec.testBit_toNat, Nat.testBit_zero]
    rcases Nat.mod_two_eq_zero_or_one (word.sshiftRight i.val).toNat with even | odd
    · rw [even, decide_eq_false (by decide)]
      exact_mod_cast even
    · rw [odd, decide_eq_true rfl]
      exact_mod_cast odd
  rw [← BitVec.toInt_sshiftRight, BitVec.toInt_eq_toNat_cond, ← lowest]
  have even : (2 : ℤ) ∣ ((2 ^ width : ℕ) : ℤ) := by
    exact_mod_cast dvd_pow_self 2 i.pos.ne'
  split
  · rfl
  · omega

/-- The number of ones in the binary numeral of a natural number. -/
def ones (number : Nat) : Nat := (Nat.digits 2 number).sum

theorem ones_eq (number : Nat) : ones number = number % 2 + ones (number / 2) := by
  rcases Nat.eq_zero_or_pos number with rfl | positive
  · rfl
  · rw [ones, Nat.digits_def' (by decide) positive, List.sum_cons, ← ones]

/-- The predecessor turns the trailing zeros into ones and the last one into a zero. -/
theorem ones_add_padicValNat (number : Nat) (positive : 0 < number) :
    ones number + padicValNat 2 number = ones (number - 1) + 1 := by
  induction number using Nat.strongRecOn with
  | ind number ih =>
      have current := ones_eq number
      have previous := ones_eq (number - 1)
      rcases Nat.even_or_odd' number with ⟨half, rfl | rfl⟩
      · have shifted := ih half (by omega) (by omega)
        have value : padicValNat 2 (2 * half) = padicValNat 2 half + 1 := by
          rw [padicValNat.mul (by decide) (by omega), padicValNat_self, add_comm]
        rw [show 2 * half % 2 = 0 by omega, show 2 * half / 2 = half by omega] at current
        rw [show (2 * half - 1) % 2 = 1 by omega,
          show (2 * half - 1) / 2 = half - 1 by omega] at previous
        omega
      · have value : padicValNat 2 (2 * half + 1) = 0 :=
          padicValNat.eq_zero_of_not_dvd (by omega)
        rw [show (2 * half + 1) % 2 = 1 by omega,
          show (2 * half + 1) / 2 = half by omega] at current
        rw [show (2 * half + 1 - 1) % 2 = 0 by omega,
          show (2 * half + 1 - 1) / 2 = half by omega] at previous
        omega

/-- The characters of a binary numeral show its ones. -/
theorem count_toDigits (number : Nat) : (Nat.toDigits 2 number).count '1' = ones number := by
  induction number using Nat.strongRecOn with
  | ind number ih =>
      have digit : [(number % 2).digitChar].count '1' = number % 2 := by
        rcases Nat.mod_two_eq_zero_or_one number with even | odd
        · rw [even]
          rfl
        · rw [odd]
          rfl
      rcases Nat.lt_or_ge number 2 with small | large
      · rw [Nat.toDigits_of_lt_base small, ones_eq, Nat.div_eq_of_lt small]
        rw [Nat.mod_eq_of_lt small] at digit ⊢
        exact digit
      · rw [Nat.toDigits_of_base_le (by decide) large, List.count_append, digit,
          ih (number / 2) (by omega), ones_eq number, add_comm]

/-- The lowest bits of a small number are all its ones. -/
theorem sum_shiftRight_mod_two {number width : Nat} (small : number < 2 ^ width) :
    ∑ i : Fin width, (number >>> i.val) % 2 = ones number := by
  induction width generalizing number with
  | zero =>
      obtain rfl : number = 0 := by omega
      rfl
  | succ width ih =>
      have half : number / 2 < 2 ^ width := by
        rw [Nat.pow_succ] at small
        omega
      rw [Fin.sum_univ_succ, ones_eq, ← ih half]
      congr 1
      refine sum_congr rfl fun i _ => ?_
      rw [Fin.val_succ, add_comm, Nat.shiftRight_add]
      rfl

/-- A nonnegative integer shows its ones in its lowest bits. -/
theorem sum_bits_ofNat {number width : Nat} (small : number < 2 ^ width) :
    ∑ i : Fin width, ((number : ℤ) >>> i.val % 2).toNat = ones number := by
  rw [← sum_shiftRight_mod_two small]
  refine sum_congr rfl fun i _ => ?_
  rw [← Int.natCast_shiftRight]
  omega

/-- The two's complement of a negative integer shows the zeros of the number before its absolute
value. -/
theorem sum_bits_negSucc {number width : Nat} (small : number < 2 ^ width) :
    ∑ i : Fin width, (Int.negSucc number >>> i.val % 2).toNat + ones number = width := by
  have total : ∑ i : Fin width, ((Int.negSucc number >>> i.val % 2).toNat +
      (number >>> i.val) % 2) = width := by
    have bits (i : Fin width) :
        (Int.negSucc number >>> i.val % 2).toNat + (number >>> i.val) % 2 = 1 := by
      rw [Int.negSucc_shiftRight]
      omega
    rw [sum_congr rfl fun i _ => bits i, sum_const, card_univ, Fintype.card_fin, smul_eq_mul,
      mul_one]
  rw [← sum_shiftRight_mod_two small, ← sum_add_distrib, total]

end Library
