/-
This file models texts of C in an array of characters.
A text ends before its terminator, and the memory is a function of the position.
-/

import Mathlib.Logic.Function.Basic
import Mathlib.Tactic

namespace Library.CharArray

/-- The terminator of a text. -/
def terminator : Char := '\x00'

/-- An argument of a C program holds no terminator before its end. -/
abbrev CString := { text : List Char // terminator ∉ text }

/-- The text at a position. It ends at the terminator or after the given number of characters. -/
def textAt (memory : Nat → Char) : Nat → Nat → List Char
  | _, 0 => []
  | position, size + 1 =>
      if memory position = terminator then []
      else memory position :: textAt memory (position + 1) size

/-- The loop of `strcpy` writes a text and its terminator. -/
def copy (memory : Nat → Char) (position : Nat) : List Char → Nat → Char
  | [] => Function.update memory position terminator
  | c :: rest => copy (Function.update memory position c) (position + 1) rest

/-- A copy keeps what stands before it. -/
theorem copy_before (memory : Nat → Char) (text : List Char) {position index : Nat}
    (before : index < position) : copy memory position text index = memory index := by
  induction text generalizing memory position with
  | nil => exact Function.update_of_ne before.ne _ _
  | cons c rest ih =>
      rw [copy, ih _ (Nat.lt_succ_of_lt before), Function.update_of_ne before.ne]

/-- A copy keeps what stands behind its terminator. -/
theorem copy_after (memory : Nat → Char) (text : List Char) {position index : Nat}
    (behind : position + text.length < index) : copy memory position text index = memory index := by
  induction text generalizing memory position with
  | nil => exact Function.update_of_ne behind.ne' _ _
  | cons c rest ih =>
      rw [List.length_cons] at behind
      rw [copy, ih _ (by omega), Function.update_of_ne (by omega)]

theorem copy_terminator (memory : Nat → Char) (position : Nat) (text : List Char) :
    copy memory position text (position + text.length) = terminator := by
  induction text generalizing memory position with
  | nil => exact Function.update_self _ _ _
  | cons c rest ih =>
      have next : position + (c :: rest).length = position + 1 + rest.length := by
        rw [List.length_cons]
        omega
      rw [next]
      exact ih _ _

/-- A copied text reads back. -/
theorem textAt_copy (memory : Nat → Char) (position size : Nat) (text : List Char)
    (solid : terminator ∉ text) (room : text.length < size) :
    textAt (copy memory position text) position size = text := by
  induction text generalizing memory position size with
  | nil =>
      obtain ⟨size, rfl⟩ := Nat.exists_eq_add_one.mpr room
      exact if_pos (Function.update_self _ _ _)
  | cons c rest ih =>
      obtain ⟨size, rfl⟩ := Nat.exists_eq_add_one.mpr (Nat.zero_lt_of_lt room)
      obtain ⟨other, solidRest⟩ := not_or.mp (mt List.mem_cons.mpr solid)
      have head : copy memory position (c :: rest) position = c := by
        rw [copy, copy_before _ _ (Nat.lt_succ_self position), Function.update_self]
      rw [textAt, head, if_neg (Ne.symm other)]
      exact congrArg (c :: ·) (ih _ _ _ solidRest (Nat.lt_of_succ_lt_succ room))

/-- A text depends on the memory up to its terminator only. -/
theorem textAt_congr {memory other : Nat → Char} {position stop size : Nat}
    (inside : position ≤ stop) (room : stop < position + size) (ends : memory stop = terminator)
    (same : ∀ index, position ≤ index → index ≤ stop → other index = memory index) :
    textAt other position size = textAt memory position size := by
  induction size generalizing position with
  | zero => rfl
  | succ size ih =>
      rw [textAt, textAt, same position le_rfl inside]
      by_cases last : memory position = terminator
      · rw [if_pos last, if_pos last]
      · have further : position + 1 ≤ stop := by
          rcases Nat.lt_or_ge position stop with before | reached
          · exact before
          · exact absurd ((Nat.le_antisymm inside reached) ▸ ends) last
        rw [if_neg last, if_neg last, ih further (by omega)
          fun index lower => same index (Nat.le_of_succ_le lower)]

/-- No text stands at a terminator. -/
theorem textAt_of_terminator {memory : Nat → Char} {position size : Nat}
    (ends : memory position = terminator) : textAt memory position size = [] := by
  cases size with
  | zero => rfl
  | succ size => exact if_pos ends

end Library.CharArray
