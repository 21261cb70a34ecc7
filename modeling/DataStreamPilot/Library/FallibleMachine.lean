/-
This file gives the rules for machines whose steps can fail.
A run stops at the first step that fails and has no final state.
-/

import DataStreamPilot.Library.Machine

namespace Library

/-- One step reads an input and fails or returns the next state with one output. -/
structure FallibleMachine (Error State Input Output : Type) where
  step : State → Input → Except Error (State × Output)

namespace FallibleMachine

variable {Error State Input Output : Type} (machine : FallibleMachine Error State Input Output)

/-- The final state and the outputs of a sequence of inputs. -/
def run (state : State) : List Input → Except Error (State × List Output)
  | [] => .ok (state, [])
  | input :: rest => do
      let (next, output) ← machine.step state input
      let (final, later) ← run next rest
      return (final, output :: later)

variable {machine}

theorem run_cons_ok {state next : State} {input : Input} {output : Output}
    (steps : machine.step state input = .ok (next, output)) (rest : List Input) :
    machine.run state (input :: rest) =
      (machine.run next rest).map fun result => (result.1, output :: result.2) := by
  simp only [run, steps, bind, Except.bind]
  cases machine.run next rest with
  | error error => rfl
  | ok result => rfl

/-- One output in front of the outputs of a run. -/
theorem map_cons_outputs (result : Except Error (State × List Output)) (output : Output) :
    (result.map fun final => (final.1, output :: final.2)).map Prod.snd =
      (result.map Prod.snd).map (output :: ·) := by
  cases result with
  | error error => rfl
  | ok final => rfl

theorem run_cons_outputs {state next : State} {input : Input} {output : Output}
    (steps : machine.step state input = .ok (next, output)) (rest : List Input) :
    (machine.run state (input :: rest)).map Prod.snd =
      ((machine.run next rest).map Prod.snd).map (output :: ·) := by
  rw [run_cons_ok steps, map_cons_outputs]

theorem run_cons_error {state : State} {input : Input} {error : Error}
    (fails : machine.step state input = .error error) (rest : List Input) :
    machine.run state (input :: rest) = .error error := by
  simp only [run, fails, bind, Except.bind]

/-- A run that fails stays failed. -/
theorem run_concat_error {state : State} {inputs : List Input} {error : Error}
    (fails : machine.run state inputs = .error error) (input : Input) :
    machine.run state (inputs ++ [input]) = .error error := by
  induction inputs generalizing state with
  | nil => cases fails
  | cons first rest ih =>
      rw [List.cons_append]
      cases steps : machine.step state first with
      | error other =>
          rw [run_cons_error steps] at fails ⊢
          exact fails
      | ok result =>
          rw [run_cons_ok steps] at fails ⊢
          cases later : machine.run result.1 rest with
          | error other =>
              rw [later] at fails
              obtain rfl := Except.error.inj fails
              rw [ih later]
              rfl
          | ok final =>
              rw [later] at fails
              cases fails

/-- The last step of a run that has not failed. -/
theorem run_concat_ok {state middle : State} {inputs : List Input} {outputs : List Output}
    (runs : machine.run state inputs = .ok (middle, outputs)) (input : Input) :
    machine.run state (inputs ++ [input]) =
      (machine.step middle input).map fun result => (result.1, outputs ++ [result.2]) := by
  induction inputs generalizing state outputs with
  | nil =>
      obtain ⟨rfl, rfl⟩ := Prod.mk.inj (Except.ok.inj runs)
      rw [List.nil_append]
      cases steps : machine.step state input with
      | error error => rw [run_cons_error steps]; rfl
      | ok result => rw [run_cons_ok steps]; rfl
  | cons first rest ih =>
      rw [List.cons_append]
      cases steps : machine.step state first with
      | error other =>
          rw [run_cons_error steps] at runs
          cases runs
      | ok result =>
          rw [run_cons_ok steps] at runs ⊢
          cases later : machine.run result.1 rest with
          | error other =>
              rw [later] at runs
              cases runs
          | ok final =>
              rw [later] at runs
              obtain ⟨rfl, rfl⟩ := Prod.mk.inj (Except.ok.inj runs)
              rw [ih later]
              cases machine.step final.1 input with
              | error other => rfl
              | ok last => rfl

/-- A run that has not failed ends with a step that has not failed. -/
theorem exists_of_run_concat {state final : State} {inputs : List Input} {input : Input}
    {outputs : List Output}
    (runs : machine.run state (inputs ++ [input]) = .ok (final, outputs)) :
    ∃ middle earlier output, machine.run state inputs = .ok (middle, earlier) ∧
      machine.step middle input = .ok (final, output) ∧ outputs = earlier ++ [output] := by
  cases before : machine.run state inputs with
  | error error =>
      rw [run_concat_error before] at runs
      cases runs
  | ok result =>
      rw [run_concat_ok before] at runs
      cases steps : machine.step result.1 input with
      | error error =>
          rw [steps] at runs
          cases runs
      | ok last =>
          rw [steps] at runs
          obtain ⟨rfl, rfl⟩ := Prod.mk.inj (Except.ok.inj runs)
          exact ⟨result.1, result.2, last.2, rfl, steps, rfl⟩

/-- A run fails exactly when a step fails from a state that the earlier inputs reach. -/
theorem run_eq_error_iff (state : State) (inputs : List Input) (error : Error) :
    machine.run state inputs = .error error ↔
      ∃ earlier input next outputs, earlier ++ [input] <+: inputs ∧
        machine.run state earlier = .ok (next, outputs) ∧
        machine.step next input = .error error := by
  constructor
  · intro fails
    induction inputs using List.reverseRecOn with
    | nil => cases fails
    | append_singleton inputs input ih =>
        cases runs : machine.run state inputs with
        | error other =>
            rw [run_concat_error runs] at fails
            obtain ⟨earlier, last, next, outputs, within, found⟩ := ih (runs.trans fails)
            exact ⟨earlier, last, next, outputs, within.trans (List.prefix_append _ _), found⟩
        | ok result =>
            rw [run_concat_ok runs] at fails
            refine ⟨inputs, input, result.1, result.2, List.prefix_rfl, runs, ?_⟩
            cases steps : machine.step result.1 input with
            | error other =>
                rw [steps] at fails
                exact congrArg Except.error (Except.error.inj fails)
            | ok last =>
                rw [steps] at fails
                cases fails
  · rintro ⟨earlier, input, next, outputs, ⟨later, rfl⟩, runs, fails⟩
    have failed : machine.run state (earlier ++ [input]) = .error error := by
      rw [run_concat_ok runs, fails]
      rfl
    induction later using List.reverseRecOn with
    | nil => rwa [List.append_nil]
    | append_singleton later last ih =>
        rw [← List.append_assoc]
        exact run_concat_error ih last

/-- A relation between the inputs and the state holds after every run that does not fail. -/
theorem run_history {related : List Input → State → Prop} {start : State}
    (entry : related [] start)
    (step : ∀ inputs state input next output, related inputs state →
      machine.step state input = .ok (next, output) → related (inputs ++ [input]) next)
    {inputs : List Input} {final : State} {outputs : List Output}
    (runs : machine.run start inputs = .ok (final, outputs)) : related inputs final := by
  induction inputs using List.reverseRecOn generalizing final outputs with
  | nil =>
      obtain ⟨rfl, _⟩ := Prod.mk.inj (Except.ok.inj runs)
      exact entry
  | append_singleton inputs input ih =>
      obtain ⟨middle, earlier, output, before, steps, _⟩ := exists_of_run_concat runs
      exact step inputs middle input final output (ih before) steps

/-- What the allowed inputs preserve holds after every run of allowed inputs. -/
theorem run_preserves {allowed : Input → Prop} {holds : State → Prop}
    (step : ∀ state input next output, allowed input → holds state →
      machine.step state input = .ok (next, output) → holds next)
    {inputs : List Input} (all : ∀ input ∈ inputs, allowed input) {state final : State}
    {outputs : List Output} (entry : holds state)
    (runs : machine.run state inputs = .ok (final, outputs)) : holds final := by
  induction inputs using List.reverseRecOn generalizing final outputs with
  | nil =>
      obtain ⟨rfl, _⟩ := Prod.mk.inj (Except.ok.inj runs)
      exact entry
  | append_singleton inputs input ih =>
      obtain ⟨middle, earlier, output, before, steps, _⟩ := exists_of_run_concat runs
      have own := all input (List.mem_append_right _ (List.mem_singleton_self input))
      have rest := ih (fun other member => all other (List.mem_append_left _ member)) before
      exact step middle input final output own rest steps

/-- States that are matched step by step have the same outputs in every run. -/
theorem run_bisimulation {related : State → State → Prop}
    (step : ∀ state other input, related state other →
      (∃ error, machine.step state input = .error error ∧
        machine.step other input = .error error) ∨
      ∃ next otherNext output, machine.step state input = .ok (next, output) ∧
        machine.step other input = .ok (otherNext, output) ∧ related next otherNext)
    {state other : State} (entry : related state other) (inputs : List Input) :
    (machine.run state inputs).map Prod.snd = (machine.run other inputs).map Prod.snd := by
  induction inputs generalizing state other with
  | nil => rfl
  | cons input rest ih =>
      rcases step state other input entry with
        ⟨error, fails, otherFails⟩ | ⟨next, otherNext, output, steps, otherSteps, later⟩
      · rw [run_cons_error fails, run_cons_error otherFails]
      · rw [run_cons_outputs steps, run_cons_outputs otherSteps, ih later]

/-- When no allowed step fails from a sound state and each one is a step of an abstract machine on
the view of the state, every run of allowed inputs succeeds and is a run of the abstract machine. -/
theorem run_refines {Abstract : Type} {abstract : Machine Abstract Input Output}
    {view : State → Abstract} {allowed : Input → Prop} {sound : State → Prop}
    (step : ∀ state input, allowed input → sound state →
      ∃ next output, machine.step state input = .ok (next, output) ∧ sound next ∧
        abstract.step (view state) input = (view next, [output]))
    {inputs : List Input} (all : ∀ input ∈ inputs, allowed input) {state : State}
    (entry : sound state) :
    ∃ final outputs, machine.run state inputs = .ok (final, outputs) ∧ sound final ∧
      abstract.run (view state) inputs = (view final, outputs) := by
  induction inputs generalizing state with
  | nil => exact ⟨state, [], rfl, entry, rfl⟩
  | cons input rest ih =>
      obtain ⟨next, output, steps, soundNext, same⟩ :=
        step state input (all input List.mem_cons_self) entry
      obtain ⟨final, outputs, runs, soundFinal, later⟩ :=
        ih (fun other member => all other (List.mem_cons_of_mem _ member)) soundNext
      refine ⟨final, output :: outputs, ?_, soundFinal, ?_⟩
      · rw [run_cons_ok steps, runs]
        rfl
      · rw [Machine.run_cons, same, later]
        rfl

/-- An observer follows a run in a state of its own and accepts or refuses each output. -/
structure Observer (Watched Input Output : Type) where
  advance : Watched → Input → Output → Watched
  accepts : Watched → Input → Output → Prop

/-- The state of the observer after some inputs with their outputs. -/
def Observer.follow {Watched : Type} (observer : Observer Watched Input Output)
    (watched : Watched) (trace : List (Input × Output)) : Watched :=
  trace.foldl (fun watched pair => observer.advance watched pair.1 pair.2) watched

/-- The observer accepts every output. -/
def Observer.AcceptsAll {Watched : Type} (observer : Observer Watched Input Output) :
    Watched → List (Input × Output) → Prop
  | _, [] => True
  | watched, (input, output) :: rest =>
      observer.accepts watched input output ∧
        AcceptsAll observer (observer.advance watched input output) rest

/-- When the observer accepts every step from a related state, it accepts every run. -/
theorem run_observer {Watched : Type} {observer : Observer Watched Input Output}
    {related : Watched → State → Prop}
    (step : ∀ watched state input next output, related watched state →
      machine.step state input = .ok (next, output) →
      observer.accepts watched input output ∧
        related (observer.advance watched input output) next)
    {watched : Watched} {state final : State} (entry : related watched state)
    {inputs : List Input} {outputs : List Output}
    (runs : machine.run state inputs = .ok (final, outputs)) :
    observer.AcceptsAll watched (inputs.zip outputs) ∧
      related (observer.follow watched (inputs.zip outputs)) final := by
  induction inputs generalizing watched state outputs with
  | nil =>
      obtain ⟨rfl, rfl⟩ := Prod.mk.inj (Except.ok.inj runs)
      exact ⟨trivial, entry⟩
  | cons input rest ih =>
      cases steps : machine.step state input with
      | error error =>
          rw [run_cons_error steps] at runs
          cases runs
      | ok result =>
          rw [run_cons_ok steps] at runs
          cases later : machine.run result.1 rest with
          | error error =>
              rw [later] at runs
              cases runs
          | ok last =>
              rw [later] at runs
              obtain ⟨rfl, rfl⟩ := Prod.mk.inj (Except.ok.inj runs)
              obtain ⟨accepted, next⟩ := step watched state input result.1 result.2 entry steps
              obtain ⟨all, final⟩ := ih next later
              exact ⟨⟨accepted, all⟩, final⟩

end FallibleMachine

end Library
