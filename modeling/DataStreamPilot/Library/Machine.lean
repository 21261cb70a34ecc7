/-
This file gives the rules for machines that read a sequence of inputs and for fallible steps.
A rule turns a fact about one step into a fact about every run.
-/

import Mathlib.Data.List.Basic
import Mathlib.Tactic

namespace Library

/-- A fallible sequence succeeds only through a value of its first part. -/
theorem exists_of_bind_eq_ok {Error : Type*} {A B : Type} {first : Except Error A}
    {next : A → Except Error B} {result : B} (succeeds : (first >>= next) = .ok result) :
    ∃ value, first = .ok value ∧ next value = .ok result := by
  cases first with
  | error error => cases succeeds
  | ok value => exact ⟨value, rfl, succeeds⟩

/-- One step reads an input, changes the state and emits a list of outputs. -/
structure Machine (State Input Output : Type*) where
  step : State → Input → State × List Output

namespace Machine

variable {State Input Output : Type*} (machine : Machine State Input Output)

/-- The final state and all outputs of a sequence of inputs. -/
def run (state : State) : List Input → State × List Output
  | [] => (state, [])
  | input :: rest =>
      let (next, outputs) := machine.step state input
      let (final, later) := run next rest
      (final, outputs ++ later)

@[simp] theorem run_nil (state : State) : machine.run state [] = (state, []) := rfl

theorem run_cons (state : State) (input : Input) (rest : List Input) :
    machine.run state (input :: rest) =
      ((machine.run (machine.step state input).1 rest).1,
        (machine.step state input).2 ++ (machine.run (machine.step state input).1 rest).2) := rfl

theorem run_append (state : State) (first second : List Input) :
    machine.run state (first ++ second) =
      ((machine.run (machine.run state first).1 second).1,
        (machine.run state first).2 ++ (machine.run (machine.run state first).1 second).2) := by
  induction first generalizing state with
  | nil => rfl
  | cons input rest ih =>
      rw [List.cons_append, run_cons, ih, run_cons, List.append_assoc]

/-- The last input of a run. -/
theorem run_concat (state : State) (inputs : List Input) (input : Input) :
    machine.run state (inputs ++ [input]) =
      ((machine.step (machine.run state inputs).1 input).1,
        (machine.run state inputs).2 ++ (machine.step (machine.run state inputs).1 input).2) := by
  rw [run_append, run_cons, run_nil, List.append_nil]

variable {machine}

/-- A relation between the inputs and the state holds for every run when each step extends it. -/
theorem run_history {related : List Input → State → Prop} {start : State}
    (entry : related [] start)
    (step : ∀ inputs state input, related inputs state →
      related (inputs ++ [input]) (machine.step state input).1) (inputs : List Input) :
    related inputs (machine.run start inputs).1 := by
  induction inputs using List.reverseRecOn with
  | nil => exact entry
  | append_singleton inputs input ih =>
      rw [run_concat]
      exact step inputs _ input ih

/-- Every output of a run is an output of a step from a state that the earlier inputs reach. -/
theorem mem_run_outputs_iff (state : State) (inputs : List Input) (output : Output) :
    output ∈ (machine.run state inputs).2 ↔
      ∃ earlier input, earlier ++ [input] <+: inputs ∧
        output ∈ (machine.step (machine.run state earlier).1 input).2 := by
  induction inputs using List.reverseRecOn with
  | nil =>
      refine ⟨fun member => (nomatch member), ?_⟩
      rintro ⟨earlier, input, within, _⟩
      exact absurd (List.prefix_nil.mp within) (List.append_ne_nil_of_right_ne_nil _ (by simp))
  | append_singleton inputs last ih =>
      rw [run_concat, List.mem_append, ih]
      constructor
      · rintro (⟨earlier, input, within, emitted⟩ | emitted)
        · exact ⟨earlier, input, within.trans (List.prefix_append _ _), emitted⟩
        · exact ⟨inputs, last, List.prefix_rfl, emitted⟩
      · rintro ⟨earlier, input, within, emitted⟩
        rcases List.prefix_concat_iff.mp within with whole | inside
        · obtain ⟨rfl, same⟩ := List.append_inj' whole rfl
          obtain rfl := List.singleton_injective same
          exact Or.inr emitted
        · exact Or.inl ⟨earlier, input, inside, emitted⟩

section Simulation

variable {OtherState OtherInput : Type*}

/-- The same machine with other outputs, which may depend on the state. -/
def observe (machine : Machine State Input Output)
    (translate : State → Input → List OtherInput) : Machine State Input OtherInput :=
  ⟨fun state input => ((machine.step state input).1, translate state input)⟩

theorem run_observe (translate : State → Input → List OtherInput) (state : State)
    (inputs : List Input) :
    ((machine.observe translate).run state inputs).1 = (machine.run state inputs).1 := by
  induction inputs generalizing state with
  | nil => rfl
  | cons input rest ih => exact ih (machine.step state input).1

variable {other : Machine OtherState OtherInput Output}
  {translate : State → Input → List OtherInput} {related : State → OtherState → Prop}

/-- When every step is matched by a run of its translated input, every run is matched by the run of
its translated inputs. An input with an empty translation is hidden. -/
theorem run_simulation
    (step : ∀ state otherState input, related state otherState →
      related (machine.step state input).1 (other.run otherState (translate state input)).1 ∧
        (machine.step state input).2 = (other.run otherState (translate state input)).2)
    {state : State} {otherState : OtherState} (entry : related state otherState)
    (inputs : List Input) :
    related (machine.run state inputs).1
        (other.run otherState ((machine.observe translate).run state inputs).2).1 ∧
      (machine.run state inputs).2 =
        (other.run otherState ((machine.observe translate).run state inputs).2).2 := by
  induction inputs generalizing state otherState with
  | nil => exact ⟨entry, rfl⟩
  | cons input rest ih =>
      obtain ⟨next, same⟩ := step state otherState input entry
      obtain ⟨final, later⟩ := ih next
      have translated : ((machine.observe translate).run state (input :: rest)).2 =
          translate state input ++
            ((machine.observe translate).run (machine.step state input).1 rest).2 := rfl
      rw [translated, run_append, run_cons]
      exact ⟨final, by rw [same, later]⟩

/-- The same machine with the outputs that are kept. -/
def filterOutputs (machine : Machine State Input Output) (keep : Output → Bool) :
    Machine State Input Output :=
  ⟨fun state input => ((machine.step state input).1, (machine.step state input).2.filter keep)⟩

theorem run_filterOutputs (keep : Output → Bool) (state : State) (inputs : List Input) :
    (machine.filterOutputs keep).run state inputs =
      ((machine.run state inputs).1, (machine.run state inputs).2.filter keep) := by
  induction inputs generalizing state with
  | nil => rfl
  | cons input rest ih =>
      rw [run_cons, run_cons, List.filter_append]
      simp only [filterOutputs] at ih ⊢
      rw [ih]

/-- A translation that hides inputs yields the inputs that it keeps. -/
theorem run_observe_filter (keep : Input → Bool) (state : State) (inputs : List Input) :
    ((machine.observe fun _ input => [input].filter keep).run state inputs).2 =
      inputs.filter keep := by
  induction inputs generalizing state with
  | nil => rfl
  | cons input rest ih =>
      rw [run_cons, ih, ← List.singleton_append (l := rest), List.filter_append]
      rfl

end Simulation

end Machine

end Library
