/-
This file develops a code that sends the first entry of each group and differences for the others.
The differences may be limited, so the decoder is exact only where the limit changes nothing.
-/

import Mathlib.Algebra.Group.Basic
import Mathlib.Tactic

namespace Library.DeltaCode

/-- A base carries an entry of the sequence, and another code entry carries a difference. -/
structure Entry (G : Type*) where
  isBase : Bool
  value : G
  deriving DecidableEq, Repr

variable {G : Type*} [AddCommGroup G]

/-- The phase counts the entries since the base modulo the size of a group. -/
def encode (period : Nat) (limit : G → G) : Nat → G → List G → List (Entry G)
  | _, _, [] => []
  | phase, base, entry :: rest =>
      if phase = 0 then ⟨true, entry⟩ :: encode period limit ((phase + 1) % period) entry rest
      else ⟨false, limit (entry - base)⟩ :: encode period limit ((phase + 1) % period) base rest

/-- A base replaces the base of the decoder, and a difference is added to it. -/
def decode : G → List (Entry G) → List G
  | _, [] => []
  | base, code :: rest =>
      if code.isBase then code.value :: decode code.value rest
      else (base + code.value) :: decode base rest

/-- This value is the base of the group of one entry. A first group that is already under way has
a given base. -/
def IsGroupBase (period phase : Nat) (base : G) (entries : List G) (index : Nat) (value : G) :
    Prop :=
  if (phase + index) % period ≤ index then
    entries[index - (phase + index) % period]? = some value
  else value = base

/-- The rest of a sequence has the same phases, one position earlier. -/
theorem phase_tail (period phase index : Nat) :
    ((phase + 1) % period + index) % period = (phase + (index + 1)) % period := by
  rw [Nat.mod_add_mod, Nat.add_right_comm, Nat.add_assoc]

omit [AddCommGroup G] in
theorem isGroupBase_head {period phase : Nat} (inside : phase < period) (base entry : G)
    (rest : List G) (value : G) :
    IsGroupBase period phase base (entry :: rest) 0 value ↔
      value = if phase = 0 then entry else base := by
  rw [IsGroupBase, Nat.add_zero, Nat.mod_eq_of_lt inside]
  by_cases first : phase = 0
  · rw [if_pos (Nat.le_zero.mpr first), if_pos first, first]
    exact ⟨fun held => (Option.some.inj held).symm, fun held => congrArg some held.symm⟩
  · rw [if_neg (mt Nat.le_zero.mp first), if_neg first]

omit [AddCommGroup G] in
/-- The group base moves with the phase. -/
theorem isGroupBase_tail {period phase : Nat} (inside : phase < period) (base entry : G)
    (rest : List G) (index : Nat) (value : G) :
    IsGroupBase period phase base (entry :: rest) (index + 1) value ↔
      IsGroupBase period ((phase + 1) % period) (if phase = 0 then entry else base) rest index
        value := by
  rw [IsGroupBase, IsGroupBase, phase_tail]
  rcases Nat.lt_trichotomy ((phase + (index + 1)) % period) (index + 1) with early | same | late
  · have next : index + 1 - (phase + (index + 1)) % period =
        index - (phase + (index + 1)) % period + 1 := by omega
    rw [if_pos early.le, if_pos (Nat.le_of_lt_succ early), next, List.getElem?_cons_succ]
  · have first : phase = 0 := by
      have split := Nat.div_add_mod (phase + (index + 1)) period
      rw [same, Nat.add_right_cancel_iff] at split
      have quotient : (phase + (index + 1)) / period = 0 := by
        by_contra positive
        have large := Nat.le_mul_of_pos_right period (Nat.pos_of_ne_zero positive)
        omega
      rw [quotient, Nat.mul_zero] at split
      exact split.symm
    rw [if_pos same.le, if_neg (by omega), same, Nat.sub_self, if_pos first]
    exact ⟨fun held => (Option.some.inj held).symm, fun held => congrArg some held.symm⟩
  · have later : phase ≠ 0 := by
      rintro rfl
      rw [Nat.zero_add] at late
      exact absurd (Nat.mod_le (index + 1) period) (Nat.not_le.mpr late)
    rw [if_neg (Nat.not_le.mpr late), if_neg (by omega), if_neg later]

omit [AddCommGroup G] in
/-- A sequence that starts with a base has all its bases inside. -/
theorem isGroupBase_start (period : Nat) (base : G) (entries : List G) (index : Nat) (value : G) :
    IsGroupBase period 0 base entries index value ↔
      entries[index - index % period]? = some value := by
  rw [IsGroupBase, Nat.zero_add, if_pos (Nat.mod_le index period)]

theorem length_encode (period : Nat) (limit : G → G) (phase : Nat) (base : G) (entries : List G) :
    (encode period limit phase base entries).length = entries.length := by
  induction entries generalizing phase base with
  | nil => rfl
  | cons entry rest ih =>
      rw [encode]
      split
      · rw [List.length_cons, ih, List.length_cons]
      · rw [List.length_cons, ih, List.length_cons]

/-- The code of one entry. -/
theorem encode_getElem? {period phase : Nat} (inside : phase < period) (limit : G → G) (base : G)
    (entries : List G) (index : Nat) {entry value : G} (held : entries[index]? = some entry)
    (isBase : IsGroupBase period phase base entries index value) :
    (encode period limit phase base entries)[index]? = some
      (if (phase + index) % period = 0 then ⟨true, entry⟩ else ⟨false, limit (entry - value)⟩) := by
  induction entries generalizing phase base index with
  | nil => cases held
  | cons first rest ih =>
      have next : (phase + 1) % period < period := Nat.mod_lt _ (Nat.zero_lt_of_lt inside)
      cases index with
      | zero =>
          obtain rfl := Option.some.inj held
          rw [isGroupBase_head inside] at isBase
          have current : (phase + 0) % period = phase := Nat.mod_eq_of_lt inside
          rw [encode, current, isBase]
          by_cases start : phase = 0
          · rw [if_pos start, if_pos start]
            rfl
          · rw [if_neg start, if_neg start, if_neg start]
            rfl
      | succ index =>
          rw [isGroupBase_tail inside] at isBase
          rw [List.getElem?_cons_succ] at held
          have tail := ih next (if phase = 0 then first else base) index held isBase
          rw [phase_tail] at tail
          rw [encode]
          split
          · rename_i start
            rwa [if_pos start] at tail
          · rename_i later
            rwa [if_neg later] at tail

/-- The decoder adds the limited difference of an entry to the base of its group. -/
theorem decode_encode_getElem? {period phase : Nat} (inside : phase < period) {limit : G → G}
    (neutral : limit 0 = 0) (base : G) (entries : List G) (index : Nat) {entry value : G}
    (held : entries[index]? = some entry)
    (isBase : IsGroupBase period phase base entries index value) :
    (decode base (encode period limit phase base entries))[index]? =
      some (value + limit (entry - value)) := by
  induction entries generalizing phase base index with
  | nil => cases held
  | cons first rest ih =>
      have next : (phase + 1) % period < period := Nat.mod_lt _ (Nat.zero_lt_of_lt inside)
      cases index with
      | zero =>
          obtain rfl := Option.some.inj held
          rw [isGroupBase_head inside] at isBase
          rw [encode, isBase]
          split
          · rw [sub_self, neutral, add_zero]
            rfl
          · rfl
      | succ index =>
          rw [isGroupBase_tail inside] at isBase
          rw [List.getElem?_cons_succ] at held
          have tail := ih next (if phase = 0 then first else base) index held isBase
          rw [encode]
          split
          · rename_i start
            rwa [if_pos start] at tail
          · rename_i later
            rwa [if_neg later] at tail

/-- At the start of a group the decoder needs no base. -/
theorem decode_encode_start (period : Nat) (limit : G → G) (first second start : G)
    (entries : List G) :
    decode first (encode period limit 0 start entries) =
      decode second (encode period limit 0 start entries) := by
  cases entries with
  | nil => rfl
  | cons entry rest => rfl

theorem length_decode (base : G) (codes : List (Entry G)) :
    (decode base codes).length = codes.length := by
  induction codes generalizing base with
  | nil => rfl
  | cons code rest ih =>
      rw [decode]
      split
      · rw [List.length_cons, ih, List.length_cons]
      · rw [List.length_cons, ih, List.length_cons]

end Library.DeltaCode
