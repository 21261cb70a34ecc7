/-
This file proves that the node and the server agree on the parity of a reading.
The node shifts a 16-bit integer, and the server shifts an unbounded one. The check of the server
accepts a report exactly when an even number of its bits has changed.
-/

import DataStreamPilot.Construction.Node.Report
import DataStreamPilot.Construction.Server.RenderPost
import DataStreamPilot.Library.BitCount
import DataStreamPilot.Library.Loop

namespace DataStreamPilot

open Library Finset

/-- The lowest bit of an integer is its remainder modulo two. -/
theorem land_one (number : ℤ) : Int.land number 1 = number % 2 := by
  cases number with
  | ofNat number =>
      show ((number &&& 1 : ℕ) : ℤ) = (number : ℤ) % 2
      rw [Nat.and_one_is_mod]
      omega
  | negSucc number =>
      have bit : Nat.ldiff 1 number = (number + 1) % 2 := by
        apply Nat.eq_of_testBit_eq
        intro index
        rw [Nat.testBit_ldiff]
        cases index with
        | zero =>
            rw [Nat.testBit_zero, Nat.testBit_zero, Nat.testBit_zero, Nat.mod_mod]
            rcases Nat.mod_two_eq_zero_or_one number with even | odd
            · simp [even, Nat.add_mod]
            · simp [odd, Nat.add_mod]
        | succ index =>
            have small : (number + 1) % 2 / 2 = 0 := by omega
            rw [Nat.testBit_succ, Nat.testBit_succ ((number + 1) % 2), small]
            simp
      show ((Nat.ldiff 1 number : ℕ) : ℤ) = Int.negSucc number % 2
      omega

theorem shiftRight_one_toInt (number : Int16) :
    (number >>> 1).toInt = number.toInt >>> (1 : Nat) := by
  have amount : ((Int16.toBitVec 1).smod 16).toNat = 1 := by decide
  rw [← Int16.toInt_toBitVec, Int16.toBitVec_shiftRight, BitVec.toInt_sshiftRight', amount,
    Int16.toInt_toBitVec]

theorem and_one_ne_zero_iff (number : Int16) :
    number &&& 1 ≠ 0 ↔ Int.land number.toInt 1 ≠ 0 := by
  have bit : (number &&& 1).toBitVec.toNat = number.toBitVec.toNat % 2 := by
    rw [Int16.toBitVec_and, BitVec.toNat_and]
    exact Nat.and_one_is_mod _
  have value := BitVec.toInt_eq_toNat_cond number.toBitVec
  rw [land_one, ← Int16.toInt_toBitVec, Ne, ← Int16.toBitVec_inj, ← BitVec.toNat_inj, bit, value]
  show ¬ number.toBitVec.toNat % 2 = 0 ↔ _
  split <;> omega

/-- Both loops count the same bits. -/
theorem calculateOddParity_agree (value : Int16) :
    Node.calculateOddParity value =
      if Server.calculateOddParity value.toInt % 2 = 0 then 1 else 0 := by
  have same := loop_relation (fun (state : Int16 × Nat) (_ : Fin 16) => Node.oddParityBody state)
    (fun (state : ℤ × Nat) (_ : Fin 16) => Server.calculateOddParityBody state)
    (fun state other => state.1.toInt = other.1 ∧ state.2 = other.2) (value, 0) (value.toInt, 0)
    ⟨rfl, rfl⟩ ?_
  · rw [Node.calculateOddParity, Server.calculateOddParity, same.2]
  · rintro _ ⟨number, count⟩ ⟨other, otherCount⟩ ⟨rfl, rfl⟩
    refine ⟨shiftRight_one_toInt number, ?_⟩
    show (if number &&& 1 ≠ 0 then count + 1 else count) =
      if Int.land number.toInt 1 ≠ 0 then count + 1 else count
    simp only [and_one_ne_zero_iff]

/-- The parity bit of the node passes the check of the server. -/
theorem parityCheck_calculateOddParity (value : Int16) :
    Server.parityCheck value.toInt (Node.calculateOddParity value) = true := by
  rw [Server.parityCheck, decide_eq_true_eq, calculateOddParity_agree]
  split
  · omega
  · omega

/-- The loop of the server counts the sixteen lowest bits. -/
theorem calculateOddParity_eq_sum (number : ℤ) :
    Server.calculateOddParity number = ∑ i : Fin 16, (number >>> i.val % 2).toNat := by
  have counted := loop_invariant
    (fun (state : ℤ × Nat) (_ : Fin 16) => Server.calculateOddParityBody state)
    (fun iterations state => state.1 = number >>> iterations ∧
      state.2 = ∑ i ∈ range iterations, (number >>> i % 2).toNat)
    (number, 0) ⟨(Int.shiftRight_zero number).symm, rfl⟩ ?_
  · rw [Server.calculateOddParity, counted.2, sum_range]
  · rintro index ⟨shifted, count⟩ ⟨rfl, rfl⟩
    refine ⟨(Int.shiftRight_add number index 1).symm, ?_⟩
    show (if Int.land (number >>> index.val) 1 ≠ 0 then _ + 1 else _) = _
    rw [sum_range_succ, land_one]
    rcases Int.emod_two_eq_zero_or_one (number >>> index.val) with even | odd
    · rw [even]
      rfl
    · rw [odd]
      rfl

/-- The bits of a reading and its parity bit as one word. -/
def reportWord (value : Int16) (parity : Nat) : Fin 17 → Bool :=
  Fin.cons (decide (parity = 1)) (wordBits value.toBitVec)

theorem calculateOddParity_toInt (value : Int16) :
    Server.calculateOddParity value.toInt = weight (wordBits value.toBitVec) := by
  rw [calculateOddParity_eq_sum, weight]
  refine sum_congr rfl fun i _ => ?_
  rw [← Int16.toInt_toBitVec, toInt_shiftRight_mod_two, Int.toNat_natCast]

/-- The parity bit is zero or one. -/
theorem calculateOddParity_le (value : Int16) : Node.calculateOddParity value ≤ 1 := by
  rw [Node.calculateOddParity]
  split
  · exact le_rfl
  · exact Nat.zero_le 1

theorem weight_reportWord (value : Int16) {parity : Nat} (small : parity ≤ 1) :
    weight (reportWord value parity) = parity + Server.calculateOddParity value.toInt := by
  have bit : (decide (parity = 1)).toNat = parity := by
    interval_cases parity <;> rfl
  rw [reportWord, weight_cons, bit, calculateOddParity_toInt]

/-- The word of the node has an odd number of set bits. -/
theorem weight_reportWord_node (value : Int16) :
    weight (reportWord value (Node.calculateOddParity value)) % 2 = 1 := by
  rw [weight_reportWord value (calculateOddParity_le value), calculateOddParity_agree]
  split
  · omega
  · omega

/-- The check of the server accepts the words with an odd number of set bits. -/
theorem parityCheck_iff_weight (value : Int16) {parity : Nat} (small : parity ≤ 1) :
    Server.parityCheck value.toInt parity = true ↔
      weight (reportWord value parity) % 2 = 1 := by
  rw [Server.parityCheck, decide_eq_true_eq, weight_reportWord value small]
  omega

/-- The check accepts exactly the received words that differ from the sent word in an even number
of bits. -/
theorem parityCheck_iff_hammingDist (value received : Int16) (parity : Fin 2) :
    (Server.parityCheck received.toInt parity.val = true ↔
      Even (hammingDist (reportWord value (Node.calculateOddParity value))
        (reportWord received parity.val))) ∧
    Server.parityCheck value.toInt (Node.calculateOddParity value) = true ∧
    (Odd (hammingDist (reportWord value (Node.calculateOddParity value))
        (reportWord received parity.val)) →
      Server.parityCheck received.toInt parity.val = false) := by
  have sent := weight_reportWord_node value
  have differ := hammingDist_mod_two (reportWord value (Node.calculateOddParity value))
    (reportWord received parity.val)
  have accepts := parityCheck_iff_weight received (Nat.le_of_lt_succ parity.isLt)
  refine ⟨?_, parityCheck_calculateOddParity value, ?_⟩
  · rw [accepts, Nat.even_iff]
    omega
  · intro odd
    rw [Nat.odd_iff] at odd
    rw [← Bool.not_eq_true, accepts]
    omega

end DataStreamPilot
