/-
This file proves what the proxy of the command does over whole sessions.
A ping while a proxy is active prints a null pointer, and a refused proxy still replaces the active
one.
-/

import DataStreamPilot.Construction.Coap.Session
import DataStreamPilot.Proof.Coap.Grammar

namespace DataStreamPilot.Coap

open Library

/-- The success of the parser and the endpoint it then fills do not depend on what was there. -/
theorem parseEndpoint_eq (stack : Stack) (remote other : Endpoint) (addr port : List Char) :
    (parseEndpoint stack remote addr port).2 = (parseEndpoint stack other addr port).2 ∧
      ((parseEndpoint stack remote addr port).2 = none →
        (parseEndpoint stack remote addr port).1 = (parseEndpoint stack other addr port).1) := by
  simp only [parseEndpoint]
  split
  · exact ⟨rfl, fun success => nomatch success⟩
  · split
    · exact ⟨rfl, fun success => nomatch success⟩
    · split
      · exact ⟨rfl, fun success => nomatch success⟩
      · split
        · exact ⟨rfl, fun success => nomatch success⟩
        · exact ⟨rfl, fun _ => rfl⟩

/-- A `proxy set` whose endpoint is accepted. -/
def SetsProxy (stack : Stack) (event : Event) : Prop :=
  ∃ addr port transmission, event = .command (Command.proxySet addr port).render transmission ∧
    (parseEndpoint stack zeroEndpoint addr port).2 = none

/-- A `proxy unset`. -/
def UnsetsProxy (event : Event) : Prop :=
  ∃ transmission, event = .command Command.proxyUnset.render transmission

/-- A ping in the grammar. -/
def Pings (event : Event) : Prop :=
  ∃ confirm addr port transmission,
    event = .command (Command.request confirm addr port .ping).render transmission ∧
      (Command.request confirm addr port .ping).Plain

/-- A proxy was set and has not been unset since. -/
def ProxyActive (stack : Stack) (events : List Event) : Prop :=
  ∃ before event between, events = before ++ event :: between ∧ SetsProxy stack event ∧
    ∀ later ∈ between, ¬ UnsetsProxy later

theorem proxyActive_nil (stack : Stack) : ¬ ProxyActive stack [] := by
  rintro ⟨before, event, between, same, _⟩
  exact absurd same (by simp)

/-- The last event decides, unless it leaves the proxy alone. -/
theorem proxyActive_concat_iff (stack : Stack) (events : List Event) (last : Event) :
    ProxyActive stack (events ++ [last]) ↔
      SetsProxy stack last ∨ ProxyActive stack events ∧ ¬ UnsetsProxy last := by
  constructor
  · rintro ⟨before, event, between, same, sets, kept⟩
    rcases List.eq_nil_or_concat between with rfl | ⟨inner, other, rfl⟩
    · obtain ⟨rfl, single⟩ := List.append_inj' same rfl
      obtain rfl := List.singleton_injective single
      exact Or.inl sets
    · rw [List.concat_eq_append] at same kept
      rw [← List.cons_append, ← List.append_assoc] at same
      obtain ⟨rfl, single⟩ := List.append_inj' same rfl
      obtain rfl := List.singleton_injective single
      refine Or.inr ⟨⟨before, event, inner, rfl, sets, fun later member =>
        kept later (List.mem_append_left _ member)⟩, kept _ ?_⟩
      exact List.mem_append_right _ (List.mem_singleton_self _)
  · rintro (sets | ⟨⟨before, event, between, rfl, sets, kept⟩, notUnset⟩)
    · exact ⟨events, last, [], rfl, sets, fun _ member => absurd member List.not_mem_nil⟩
    · refine ⟨before, event, between ++ [last], by simp, sets, fun later member => ?_⟩
      rcases List.mem_append.mp member with inner | final
      · exact kept later inner
      · rw [List.mem_singleton.mp final]
        exact notUnset

/-- A request that is no defined one is a ping with a proxy. -/
theorem requestUri_cases (proxied : Bool) (confirm : Bool) (addr port : List Char)
    (target : Target) :
    (proxied = true ∧ target = .ping ∧
      requestUri proxied (requestArguments confirm addr port target) = .error .nullText) ∨
    ¬ (proxied = true ∧ target = .ping) ∧ ∃ uri uriLength,
      requestUri proxied (requestArguments confirm addr port target) = .ok (uri, uriLength) := by
  cases proxied with
  | false => exact Or.inr ⟨fun both => Bool.false_ne_true both.1, _, _, rfl⟩
  | true =>
      cases target with
      | ping => exact Or.inl ⟨rfl, rfl, rfl⟩
      | _ => exact Or.inr ⟨fun both => (nomatch both.2), _, _, rfl⟩

/-- What one event does to the proxy, and when it has no defined effect. -/
inductive StepOutcome (stack : Stack) (room : PayloadRoom) (state : State) (event : Event) :
    Prop where
  | undefined (proxied : state.proxied = true) (pings : Pings event)
      (fails : sessionStep stack room state event = .error .nullText)
  | sets (next : State) (effect : Effect) (sets : SetsProxy stack event)
      (steps : sessionStep stack room state event = .ok (next, effect))
      (proxied : next.proxied = true)
  | unsets (next : State) (effect : Effect) (unsets : UnsetsProxy event)
      (steps : sessionStep stack room state event = .ok (next, effect))
      (proxied : next.proxied = false)
  | keeps (next : State) (effect : Effect) (noSet : ¬ SetsProxy stack event)
      (noUnset : ¬ UnsetsProxy event) (defined : ¬ (state.proxied = true ∧ Pings event))
      (steps : sessionStep stack room state event = .ok (next, effect))
      (proxied : next.proxied = state.proxied)

/-- An event whose arguments are no rendering is neither a ping nor a change of the proxy. -/
theorem not_change_of_unrendered {stack : Stack} {arguments : List (List Char)}
    {transmission : Transmission}
    (foreign : ∀ command : Command, command.Plain → command.render ≠ arguments) :
    ¬ SetsProxy stack (.command arguments transmission) ∧
      ¬ UnsetsProxy (.command arguments transmission) ∧
      ¬ Pings (.command arguments transmission) := by
  refine ⟨?_, ?_, ?_⟩
  · rintro ⟨addr, port, _, same, _⟩
    exact foreign (.proxySet addr port) trivial (Event.command.inj same).1.symm
  · rintro ⟨_, same⟩
    exact foreign .proxyUnset trivial (Event.command.inj same).1.symm
  · rintro ⟨confirm, addr, port, _, same, plain⟩
    exact foreign _ plain (Event.command.inj same).1.symm

/-- An event with a rendering changes the proxy or pings exactly when its command does. -/
theorem change_of_rendered {stack : Stack} {command : Command} {transmission : Transmission} :
    (SetsProxy stack (.command command.render transmission) →
      ∃ addr port, command = .proxySet addr port ∧
        (parseEndpoint stack zeroEndpoint addr port).2 = none) ∧
      (UnsetsProxy (.command command.render transmission) → command = .proxyUnset) ∧
      (Pings (.command command.render transmission) →
        ∃ confirm addr port, command = .request confirm addr port .ping) := by
  refine ⟨?_, ?_, ?_⟩
  · rintro ⟨addr, port, _, same, success⟩
    exact ⟨addr, port, render_injective (Event.command.inj same).1, success⟩
  · rintro ⟨_, same⟩
    exact render_injective (Event.command.inj same).1
  · rintro ⟨confirm, addr, port, _, same, _⟩
    exact ⟨confirm, addr, port, render_injective (Event.command.inj same).1⟩

/-- A call with a defined effect is a step of the session. -/
theorem sessionStep_command {stack : Stack} {room : PayloadRoom} {state next : State}
    {arguments : List (List Char)} {transmission : Transmission} {result : Result}
    {outputs : List Output}
    (returns : gcoapCliCmd stack room state arguments transmission = .ok (next, result, outputs)) :
    sessionStep stack room state (.command arguments transmission) =
      .ok (next, .command result outputs) := by
  simp only [sessionStep, returns, bind, Except.bind]
  rfl

/-- A step of the session for a call is a call with a defined effect. -/
theorem exists_of_sessionStep_command {stack : Stack} {room : PayloadRoom} {state next : State}
    {arguments : List (List Char)} {transmission : Transmission} {effect : Effect}
    (steps : sessionStep stack room state (.command arguments transmission) =
      .ok (next, effect)) :
    ∃ result outputs, effect = .command result outputs ∧
      gcoapCliCmd stack room state arguments transmission = .ok (next, result, outputs) := by
  obtain ⟨⟨final, result, outputs⟩, returns, same⟩ := exists_of_bind_eq_ok steps
  obtain ⟨rfl, rfl⟩ := Prod.mk.inj (Except.ok.inj same)
  exact ⟨result, outputs, rfl, returns⟩

/-- A command that neither changes the proxy nor pings through it keeps the proxy. -/
theorem keeps_of_rendered {stack : Stack} {room : PayloadRoom} {state next : State}
    {command : Command} {transmission : Transmission} {result : Result} {outputs : List Output}
    (returns : gcoapCliCmd stack room state command.render transmission =
      .ok (next, result, outputs))
    (noSet : ∀ addr port, command = .proxySet addr port →
      (parseEndpoint stack zeroEndpoint addr port).2 ≠ none)
    (noUnset : command ≠ .proxyUnset)
    (noPing : state.proxied = true → ∀ confirm addr port,
      command ≠ .request confirm addr port .ping)
    (proxied : next.proxied = state.proxied) :
    StepOutcome stack room state (.command command.render transmission) := by
  obtain ⟨onlySet, onlyUnset, onlyPing⟩ := @change_of_rendered stack command transmission
  refine .keeps next _ ?_ (fun unsets => noUnset (onlyUnset unsets)) ?_
    (sessionStep_command returns) proxied
  · intro sets
    obtain ⟨addr, port, same, success⟩ := onlySet sets
    exact noSet addr port same success
  · rintro ⟨active, pings⟩
    obtain ⟨confirm, addr, port, same⟩ := onlyPing pings
    exact noPing active confirm addr port same

/-- A proxy is set when its endpoint parses, whatever the static endpoint has been. -/
theorem stepOutcome_proxySet (stack : Stack) (room : PayloadRoom) (state : State)
    (addr port : List Char) (transmission : Transmission) :
    StepOutcome stack room state
      (.command (Command.proxySet addr port).render transmission) := by
  have plain : (Command.proxySet addr port).Plain := trivial
  have returns := gcoapCliCmd_render stack room state transmission plain
  have success := (parseEndpoint_eq stack state.proxyRemote zeroEndpoint addr port).1
  rw [Command.execute] at returns
  cases parsed : parseEndpoint stack state.proxyRemote addr port with
  | mk remote error =>
      rw [parsed] at returns success
      cases error with
      | none =>
          exact .sets _ _ ⟨addr, port, transmission, rfl, success.symm⟩
            (sessionStep_command returns) rfl
      | some error =>
          refine keeps_of_rendered returns ?_ ?_ ?_ rfl
          · intro _ _ same accepted
            obtain ⟨rfl, rfl⟩ := Command.proxySet.inj same
            rw [accepted] at success
            cases success
          · intro same
            cases same
          · intro _ _ _ _ same
            cases same

/-- A request has no defined effect exactly when it pings through the proxy. -/
theorem stepOutcome_request (stack : Stack) (room : PayloadRoom) (state : State)
    (confirm : Bool) (addr port : List Char) (target : Target) (transmission : Transmission)
    (plain : (Command.request confirm addr port target).Plain) :
    StepOutcome stack room state
      (.command (Command.request confirm addr port target).render transmission) := by
  have returns := gcoapCliCmd_render stack room state transmission plain
  rcases requestUri_cases state.proxied confirm addr port target with
    ⟨proxied, rfl, undefined⟩ | ⟨notBoth, uri, uriLength, defined⟩
  · refine .undefined proxied ⟨confirm, addr, port, transmission, rfl, plain⟩ ?_
    simp only [sessionStep, returns, Command.execute, sendRequest, undefined, bind, Except.bind]
  · obtain ⟨final, result, outputs, sends, proxied, _⟩ :=
      sendRequest_defined stack room defined transmission
    refine keeps_of_rendered (returns.trans sends) ?_ ?_ ?_ proxied
    · intro _ _ same
      cases same
    · intro same
      cases same
    · intro active _ _ _ same
      exact notBoth ⟨active, (Command.request.inj same).2.2.2⟩

/-- Every event has one of the four outcomes. -/
theorem stepOutcome (stack : Stack) (room : PayloadRoom) (state : State) (event : Event) :
    StepOutcome stack room state event := by
  cases event with
  | stats request =>
      refine .keeps _ _ ?_ ?_ ?_ rfl rfl
      · rintro ⟨_, _, _, same, _⟩
        cases same
      · rintro ⟨_, same⟩
        cases same
      · rintro ⟨_, _, _, _, _, same, _⟩
        cases same
  | command arguments transmission =>
      by_cases rendered : ∃ command : Command, command.Plain ∧ command.render = arguments
      · obtain ⟨command, plain, rfl⟩ := rendered
        have returns := gcoapCliCmd_render stack room state transmission plain
        cases command with
        | info ignored =>
            refine keeps_of_rendered returns ?_ ?_ ?_ rfl
            · intro _ _ same
              cases same
            · intro same
              cases same
            · intro _ _ _ _ same
              cases same
        | proxySet addr port => exact stepOutcome_proxySet stack room state addr port transmission
        | proxyUnset => exact .unsets _ _ ⟨transmission, rfl⟩ (sessionStep_command returns) rfl
        | request confirm addr port target =>
            exact stepOutcome_request stack room state confirm addr port target transmission plain
      · have foreign (command : Command) (plain : command.Plain) : command.render ≠ arguments :=
          fun same => rendered ⟨command, plain, same⟩
        obtain ⟨result, _, returns⟩ := gcoapCliCmd_unrendered stack room transmission foreign
        obtain ⟨noSet, noUnset, noPing⟩ := not_change_of_unrendered foreign
        exact .keeps state _ noSet noUnset (fun both => noPing both.2)
          (sessionStep_command (returns state)) rfl

/-- The static flag tells whether a proxy is active. -/
def TracksProxy (stack : Stack) (events : List Event) (state : State) : Prop :=
  state.proxied = true ↔ ProxyActive stack events

theorem run_tracksProxy {stack : Stack} {room : PayloadRoom} {events : List Event} {final : State}
    {effects : List Effect}
    (runs : (session stack room).run start events = .ok (final, effects)) :
    TracksProxy stack events final := by
  refine FallibleMachine.run_history ?_ ?_ runs
  · exact iff_of_false Bool.false_ne_true (proxyActive_nil stack)
  · intro events state event next effect active steps
    rw [TracksProxy] at active ⊢
    rw [proxyActive_concat_iff, ← active]
    have outcome := stepOutcome stack room state event
    change sessionStep stack room state event = _ at steps
    cases outcome with
    | undefined _ _ fails =>
        rw [steps] at fails
        cases fails
    | sets other _ sets found proxied =>
        rw [steps, Except.ok.injEq, Prod.mk.injEq] at found
        rw [found.1]
        exact iff_of_true proxied (Or.inl sets)
    | unsets other _ unsets found proxied =>
        rw [steps, Except.ok.injEq, Prod.mk.injEq] at found
        rw [found.1, proxied]
        refine iff_of_false Bool.false_ne_true ?_
        rintro (⟨_, _, _, rfl, _⟩ | both)
        · obtain ⟨_, same⟩ := unsets
          cases (Event.command.inj same).1
        · exact both.2 unsets
    | keeps other _ noSet noUnset _ found proxied =>
        rw [steps, Except.ok.injEq, Prod.mk.injEq] at found
        rw [found.1, proxied]
        exact ⟨fun kept => Or.inr ⟨kept, noUnset⟩, fun choice =>
          choice.elim (fun sets => absurd sets noSet) And.left⟩

/-- A ping is no change of the proxy. -/
theorem not_change_of_pings {stack : Stack} {event : Event} (pings : Pings event) :
    ¬ SetsProxy stack event ∧ ¬ UnsetsProxy event := by
  obtain ⟨confirm, addr, port, transmission, rfl, _⟩ := pings
  obtain ⟨onlySet, onlyUnset, _⟩ := @change_of_rendered stack
    (.request confirm addr port .ping) transmission
  refine ⟨fun sets => ?_, fun unsets => nomatch onlyUnset unsets⟩
  obtain ⟨_, _, same, _⟩ := onlySet sets
  cases same

/-- A session has no defined effect exactly when it pings while a proxy is active. -/
theorem session_undefined_iff (stack : Stack) (room : PayloadRoom) (events : List Event) :
    (session stack room).run start events = .error .nullText ↔
      ∃ earlier event, earlier ++ [event] <+: events ∧ Pings event ∧
        ProxyActive stack earlier := by
  rw [FallibleMachine.run_eq_error_iff]
  constructor
  · rintro ⟨earlier, event, next, effects, within, runs, fails⟩
    change sessionStep stack room next event = _ at fails
    refine ⟨earlier, event, within, ?_⟩
    cases stepOutcome stack room next event with
    | undefined proxied pings _ => exact ⟨pings, (run_tracksProxy runs).mp proxied⟩
    | sets _ _ _ steps _ =>
        rw [steps] at fails
        cases fails
    | unsets _ _ _ steps _ =>
        rw [steps] at fails
        cases fails
    | keeps _ _ _ _ _ steps _ =>
        rw [steps] at fails
        cases fails
  · rintro ⟨earlier, event, within, pings, active⟩
    cases runs : (session stack room).run start earlier with
    | error error =>
        obtain ⟨before, first, next, effects, inside, found⟩ :=
          (FallibleMachine.run_eq_error_iff _ _ _).mp runs
        exact ⟨before, first, next, effects,
          inside.trans ((List.prefix_append _ _).trans within), found⟩
    | ok result =>
        refine ⟨earlier, event, result.1, result.2, within, runs, ?_⟩
        have proxied := (run_tracksProxy runs).mpr active
        obtain ⟨noSet, noUnset⟩ := @not_change_of_pings stack _ pings
        cases stepOutcome stack room result.1 event with
        | undefined _ _ fails => exact fails
        | sets _ _ sets _ _ => exact absurd sets noSet
        | unsets _ _ unsets _ _ => exact absurd unsets noUnset
        | keeps _ _ _ _ defined _ _ => exact absurd ⟨proxied, pings⟩ defined

end DataStreamPilot.Coap
