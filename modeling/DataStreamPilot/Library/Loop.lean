/-
This file gives the rules for bounded counting loops.
A loop that counts from zero below a bound is a fold over the finite index type.
-/

import Mathlib.Algebra.BigOperators.Fin
import Mathlib.Tactic

namespace Library

/-- An invariant indexed by the completed iterations holds after the loop. -/
theorem loop_invariant {S : Type*} {count : Nat} (body : S → Fin count → S)
    (invariant : Nat → S → Prop) (start : S) (entry : invariant 0 start)
    (step : ∀ (index : Fin count) (state : S), invariant index.val state →
      invariant (index.val + 1) (body state index)) :
    invariant count (Fin.foldl count body start) := by
  induction count with
  | zero => simpa using entry
  | succ count ih =>
      rw [Fin.foldl_succ_last]
      apply step (Fin.last count)
      exact ih (fun state index => body state index.castSucc)
        fun index state holds => step index.castSucc state holds

/-- Two loops of the same length keep a relation between their states. -/
theorem loop_relation {S T : Type*} {count : Nat} (body : S → Fin count → S)
    (other : T → Fin count → T) (related : S → T → Prop) (start : S) (otherStart : T)
    (entry : related start otherStart)
    (step : ∀ (index : Fin count) (state : S) (otherState : T), related state otherState →
      related (body state index) (other otherState index)) :
    related (Fin.foldl count body start) (Fin.foldl count other otherStart) := by
  induction count with
  | zero => simpa using entry
  | succ count ih =>
      rw [Fin.foldl_succ_last, Fin.foldl_succ_last]
      apply step (Fin.last count)
      exact ih (fun state index => body state index.castSucc)
        (fun state index => other state index.castSucc)
        fun index state otherState holds => step index.castSucc state otherState holds

/-- An accumulating loop computes the finite sum. -/
theorem loop_sum {M : Type*} [AddCommMonoid M] {count : Nat} (term : Fin count → M) (start : M) :
    Fin.foldl count (fun total index => total + term index) start =
      start + ∑ index, term index := by
  induction count with
  | zero => simp
  | succ count ih => rw [Fin.foldl_succ_last, ih, Fin.sum_univ_castSucc, add_assoc]

/-- The two notations for an element of a vector agree. -/
theorem vector_get {A : Type} {size : Nat} (values : Vector A size) (i : Fin size) :
    values.get i = values[i.val] := rfl

end Library
