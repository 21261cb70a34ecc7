/-
This file compares the parity bit of the test client with the bit of the node.
The client counts the ones of the absolute value, and the node counts those of the two's complement.
-/

import DataStreamPilot.Construction.Client.SetParity
import DataStreamPilot.Proof.Parity

namespace DataStreamPilot

open Library

/-- The client appends the parity bit of the node, and the server accepts it. -/
def ClientParityAgrees (value : Int16) : Prop :=
  ∃ bit : Nat,
    Client.setParity value.toInt =
      PythonText.decimal value.toInt ++ ',' :: PythonText.decimal bit ∧
    bit = Node.calculateOddParity value ∧
    Server.parityCheck value.toInt bit = true

/-- Only the digits of the numeral hold ones. -/
theorem count_bin (value : ℤ) : (PythonText.bin value).count '1' = ones value.natAbs := by
  rw [PythonText.bin, List.count_append, List.count_append, count_toDigits]
  split <;> exact Nat.zero_add _

/-- The text of the client ends in this bit. -/
theorem setParity_eq (value : ℤ) :
    Client.setParity value = PythonText.decimal value ++ ',' ::
      PythonText.decimal (if ones value.natAbs % 2 = 1 then 0 else 1) := by
  rw [Client.setParity, count_bin]
  split <;> rfl

/-- The two bits agree when both counts are even or both are odd. -/
theorem clientParityAgrees_iff_ones (value : Int16) :
    ClientParityAgrees value ↔
      ones value.toInt.natAbs % 2 = Server.calculateOddParity value.toInt % 2 := by
  have different : PythonText.decimal 0 ≠ PythonText.decimal 1 := by decide
  have client := Nat.mod_two_eq_zero_or_one (ones value.toInt.natAbs)
  have node := calculateOddParity_agree value
  constructor
  · rintro ⟨bit, text, rfl, _⟩
    rw [setParity_eq, List.append_cancel_left_eq, List.cons_inj_right, node] at text
    by_contra unequal
    split at text
    · rw [if_pos (by omega)] at text
      exact different text
    · rw [if_neg (by omega)] at text
      exact different text.symm
  · intro equal
    refine ⟨_, ?_, rfl, parityCheck_calculateOddParity value⟩
    rw [setParity_eq, node, equal]
    rcases client with even | odd
    · rw [if_neg (by omega), if_pos (by omega)]
      rfl
    · rw [if_pos (by omega), if_neg (by omega)]
      rfl

/-- The client assigns the bit of the node exactly to the values that are not negative and to the
negative ones whose absolute value ends in an odd number of zero bits. -/
theorem clientParityAgrees_iff (value : Int16) :
    ClientParityAgrees value ↔
      0 ≤ value.toInt ∨ Odd (padicValNat 2 value.toInt.natAbs) := by
  have lower := value.le_toInt
  have upper := value.toInt_lt
  rw [clientParityAgrees_iff_ones, calculateOddParity_eq_sum, Nat.odd_iff]
  generalize value.toInt = number at lower upper ⊢
  cases number with
  | ofNat number =>
      rw [Int.ofNat_eq_natCast] at upper
      have small : number < 2 ^ 16 := by omega
      have server := sum_bits_ofNat small
      exact iff_of_true (congrArg (· % 2) server.symm) (Or.inl (Int.natCast_nonneg number))
  | negSucc number =>
      have small : number < 2 ^ 16 := by omega
      have server := sum_bits_negSucc small
      have trailing := ones_add_padicValNat number.succ (Nat.succ_pos number)
      rw [Nat.succ_sub_one] at trailing
      rw [Int.natAbs_negSucc, or_iff_right (by omega)]
      omega

/-- The client appends a zero to minus one, which the server rejects. -/
theorem clientParityAgrees_counterexample :
    Client.setParity (-1) = "-1,0".toList ∧ Node.calculateOddParity (-1) = 1 ∧
      Server.parityCheck (-1) 0 = false ∧ ¬ ClientParityAgrees (-1) := by
  rw [clientParityAgrees_iff_ones]
  decide +kernel

end DataStreamPilot
