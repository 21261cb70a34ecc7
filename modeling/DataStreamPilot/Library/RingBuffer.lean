/-
This file develops ring buffers of a fixed size.
A push overwrites the oldest slot and moves the write position by one.
-/

import Mathlib.Tactic

namespace Library

/-- The write position of a ring buffer is always one of its slots. -/
@[ext] structure RingBuffer (A : Type) (size : Nat) where
  slots : Vector A size
  next : Fin size

namespace RingBuffer

variable {A : Type} {size : Nat}

/-- Every slot of a fresh buffer holds the same placeholder. -/
def fresh (positive : 0 < size) (placeholder : A) : RingBuffer A size where
  slots := Vector.replicate size placeholder
  next := ⟨0, positive⟩

/-- A push stores one value and wraps the write position. -/
def push (ring : RingBuffer A size) (value : A) : RingBuffer A size where
  slots := ring.slots.set ring.next value
  next := ⟨(ring.next + 1) % size, Nat.mod_lt _ ring.next.pos⟩

/-- The values enter the buffer in their list order. -/
def pushAll (ring : RingBuffer A size) (values : List A) : RingBuffer A size :=
  values.foldl push ring

@[simp] theorem pushAll_nil (ring : RingBuffer A size) : ring.pushAll [] = ring := rfl

@[simp] theorem pushAll_append (ring : RingBuffer A size) (first second : List A) :
    ring.pushAll (first ++ second) = (ring.pushAll first).pushAll second :=
  List.foldl_append

@[simp] theorem pushAll_singleton (ring : RingBuffer A size) (value : A) :
    ring.pushAll [value] = ring.push value := rfl

/-- The write position counts the pushed values modulo the size. -/
theorem pushAll_next (positive : 0 < size) (placeholder : A) (values : List A) :
    ((fresh positive placeholder).pushAll values).next.val = values.length % size := by
  induction values using List.reverseRecOn with
  | nil => simp [fresh]
  | append_singleton values value ih =>
      simp [push, ih, Nat.add_mod]

/-- Two of the last `size` pushes never share a slot. -/
theorem recent_slot_ne {count back : Nat} (inside : back < size) (positive : 0 < back)
    (within : back ≤ count) : (count - back) % size ≠ count % size := by
  intro equal
  have split : count = (count - back) + back := by omega
  have shifted : (count - back + back) % size = (count - back) % size := by
    rw [← split, equal]
  have divides : size ∣ back := by
    have congruent : count - back + back ≡ count - back + 0 [MOD size] := shifted
    exact (Nat.modEq_zero_iff_dvd).mp (Nat.ModEq.add_left_cancel rfl congruent)
  exact absurd (Nat.le_of_dvd positive divides) (by omega)

/-- Each of the last `size` values stands in the slot of its own push. -/
theorem pushAll_recent (positive : 0 < size) (placeholder : A) (values : List A) (back : Nat)
    (pushed : back < values.length) (inside : back < size) :
    ((fresh positive placeholder).pushAll values).slots[(values.length - 1 - back) % size]? =
      values[values.length - 1 - back]? := by
  induction values using List.reverseRecOn generalizing back with
  | nil => simp at pushed
  | append_singleton values value ih =>
      have position := pushAll_next positive placeholder values
      simp only [List.length_append, List.length_singleton] at pushed ⊢
      simp only [pushAll_append, pushAll_singleton, push, Nat.add_sub_cancel]
      cases back with
      | zero =>
          simp [← position]
      | succ back =>
          have different : (values.length - (back + 1)) % size ≠ values.length % size :=
            recent_slot_ne inside (Nat.succ_pos back) (by omega)
          have older : values.length - (back + 1) = values.length - 1 - back := by omega
          rw [Vector.getElem?_set_ne _ (by rw [position]; exact different.symm), older,
            ih back (by omega) (by omega), List.getElem?_append_left (by omega)]

/-- A slot beyond the number of pushes still holds the placeholder. -/
theorem pushAll_untouched (positive : 0 < size) (placeholder : A) (values : List A) (slot : Nat)
    (inside : slot < size) (beyond : values.length ≤ slot) :
    ((fresh positive placeholder).pushAll values).slots[slot]? = some placeholder := by
  induction values using List.reverseRecOn with
  | nil => simp [fresh, inside]
  | append_singleton values value ih =>
      simp only [List.length_append, List.length_singleton] at beyond
      have position := pushAll_next positive placeholder values
      rw [Nat.mod_eq_of_lt (by omega)] at position
      simp only [pushAll_append, pushAll_singleton, push]
      rw [Vector.getElem?_set_ne _ (by omega), ih (by omega)]

/-- Every slot below the number of pushes is the slot of a recent push. -/
theorem exists_recent_push {count slot : Nat} (inside : slot < size) (written : slot < count) :
    ∃ back, back < count ∧ back < size ∧ slot = (count - 1 - back) % size := by
  have quotient := Nat.div_add_mod (count - 1 - slot) size
  have bound : (count - 1 - slot) % size < size := Nat.mod_lt _ (by omega)
  have below := Nat.mod_le (count - 1 - slot) size
  refine ⟨(count - 1 - slot) % size, by omega, bound, ?_⟩
  have rebuilt : count - 1 - (count - 1 - slot) % size =
      slot + size * ((count - 1 - slot) / size) := by omega
  rw [rebuilt, Nat.add_mul_mod_self_left, Nat.mod_eq_of_lt inside]

/-- Every slot holds one of the last `size` values, or the placeholder while it is unwritten. -/
theorem pushAll_slot (positive : 0 < size) (placeholder : A) (values : List A) (slot : Nat)
    (inside : slot < size) :
    (values.length ≤ slot ∧
      ((fresh positive placeholder).pushAll values).slots[slot]? = some placeholder) ∨
    ∃ back, back < values.length ∧ back < size ∧ slot = (values.length - 1 - back) % size ∧
      ((fresh positive placeholder).pushAll values).slots[slot]? =
        values[values.length - 1 - back]? := by
  rcases Nat.lt_or_ge slot values.length with written | beyond
  · obtain ⟨back, pushed, recent, same⟩ := exists_recent_push inside written
    exact Or.inr ⟨back, pushed, recent, same,
      same ▸ pushAll_recent positive placeholder values back pushed recent⟩
  · exact Or.inl ⟨beyond, pushAll_untouched positive placeholder values slot inside beyond⟩

end RingBuffer

end Library
