/-
This file proves when a refused `proxy set` can be noticed later.
The parser has already overwritten the static endpoint when it refuses a port.
-/

import DataStreamPilot.Proof.Coap.ProxySession

namespace DataStreamPilot.Coap

open Library

/-- Two states that differ at most in an endpoint that is not in use. -/
def Indistinct (state other : State) : Prop :=
  ∃ remote, other = { state with proxyRemote := remote } ∧
    (state.proxied = true → remote = state.proxyRemote)

theorem Indistinct.refl (state : State) : Indistinct state state :=
  ⟨state.proxyRemote, rfl, fun _ => rfl⟩

/-- With a proxy in use the states are equal. -/
theorem Indistinct.eq_of_proxied {state other : State} (indistinct : Indistinct state other)
    (proxied : state.proxied = true) : other = state := by
  obtain ⟨remote, rfl, same⟩ := indistinct
  rw [same proxied]

/-- Without a proxy a request does not read the static endpoint. -/
theorem sendRequest_indistinct (stack : Stack) (room : PayloadRoom) {state : State}
    (unproxied : state.proxied = false) (remote : Endpoint) (arguments : Arguments)
    (transmission : Transmission) :
    ∃ next result outputs,
      sendRequest stack room state arguments transmission = .ok (next, result, outputs) ∧
      sendRequest stack room { state with proxyRemote := remote } arguments transmission =
        .ok ({ next with proxyRemote := remote }, result, outputs) ∧
      next.proxied = false := by
  obtain ⟨proxied, proxyRemote, lastReqPath, reqCount⟩ := state
  obtain rfl := unproxied
  simp only [sendRequest, requestUri, Bool.false_eq_true, if_false, bind, Except.bind]
  split
  · exact ⟨_, _, _, rfl, rfl, rfl⟩
  · simp only [send, Bool.false_eq_true, if_false]
    split
    · exact ⟨_, _, _, rfl, rfl, rfl⟩
    · split
      · exact ⟨_, _, _, rfl, rfl, rfl⟩
      · exact ⟨_, _, _, rfl, rfl, rfl⟩

/-- Without a proxy no command tells the two states apart. -/
theorem gcoapCliCmd_indistinct (stack : Stack) (room : PayloadRoom) {state : State}
    (unproxied : state.proxied = false) (remote : Endpoint) (arguments : List (List Char))
    (transmission : Transmission) :
    ∃ next otherNext result outputs,
      gcoapCliCmd stack room state arguments transmission = .ok (next, result, outputs) ∧
      gcoapCliCmd stack room { state with proxyRemote := remote } arguments transmission =
        .ok (otherNext, result, outputs) ∧ Indistinct next otherNext := by
  by_cases rendered : ∃ command : Command, command.Plain ∧ command.render = arguments
  · obtain ⟨command, plain, rfl⟩ := rendered
    rw [gcoapCliCmd_render stack room _ transmission plain,
      gcoapCliCmd_render stack room _ transmission plain]
    have hidden (next : State) (kept : next.proxied = false) :
        Indistinct next { next with proxyRemote := remote } :=
      ⟨remote, rfl, fun proxied => absurd (kept.symm.trans proxied) Bool.false_ne_true⟩
    cases command with
    | info ignored =>
        have same : infoCommand { state with proxyRemote := remote } = infoCommand state := by
          simp only [infoCommand, unproxied, Bool.false_eq_true, if_false]
        refine ⟨state, _, infoCommand state, [], rfl, ?_, hidden state unproxied⟩
        rw [Command.execute, same]
    | proxySet addr port =>
        obtain ⟨sameError, sameEndpoint⟩ :=
          parseEndpoint_eq stack state.proxyRemote remote addr port
        simp only [Command.execute]
        cases parsed : parseEndpoint stack state.proxyRemote addr port with
        | mk endpoint error =>
            cases otherParsed : parseEndpoint stack remote addr port with
            | mk otherEndpoint otherError =>
                rw [parsed, otherParsed] at sameError sameEndpoint
                obtain rfl := sameError
                cases error with
                | none =>
                    obtain rfl := sameEndpoint rfl
                    exact ⟨_, _, .proxySet, [], rfl, rfl, Indistinct.refl _⟩
                | some error =>
                    exact ⟨_, _, .proxyNotSet error, [], rfl, rfl, otherEndpoint, rfl,
                      fun proxied => absurd (unproxied.symm.trans proxied) Bool.false_ne_true⟩
    | proxyUnset => exact ⟨_, _, .proxyUnset, [], rfl, rfl, Indistinct.refl _⟩
    | request confirm addr port target =>
        obtain ⟨next, result, outputs, returns, otherReturns, kept⟩ :=
          sendRequest_indistinct stack room unproxied remote
            (requestArguments confirm addr port target) transmission
        exact ⟨next, _, result, outputs, returns, otherReturns, hidden next kept⟩
  · have foreign (command : Command) (plain : command.Plain) : command.render ≠ arguments :=
      fun same => rendered ⟨command, plain, same⟩
    obtain ⟨result, _, returns⟩ := gcoapCliCmd_unrendered stack room transmission foreign
    exact ⟨state, _, result, [], returns state, returns _, remote, rfl,
      fun proxied => absurd (unproxied.symm.trans proxied) Bool.false_ne_true⟩

/-- No event tells indistinct states apart. -/
theorem sessionStep_indistinct (stack : Stack) (room : PayloadRoom) (state other : State)
    (event : Event) (indistinct : Indistinct state other) :
    (∃ error, (session stack room).step state event = .error error ∧
      (session stack room).step other event = .error error) ∨
    ∃ next otherNext effect, (session stack room).step state event = .ok (next, effect) ∧
      (session stack room).step other event = .ok (otherNext, effect) ∧
      Indistinct next otherNext := by
  cases proxied : state.proxied with
  | true =>
      obtain rfl := indistinct.eq_of_proxied proxied
      cases steps : (session stack room).step other event with
      | error error => exact Or.inl ⟨error, rfl, rfl⟩
      | ok result => exact Or.inr ⟨result.1, result.1, result.2, rfl, rfl, Indistinct.refl _⟩
  | false =>
      obtain ⟨remote, rfl, _⟩ := indistinct
      right
      cases event with
      | stats request =>
          exact ⟨_, _, _, rfl, rfl, remote, rfl,
            fun active => absurd (proxied.symm.trans active) Bool.false_ne_true⟩
      | command arguments transmission =>
          obtain ⟨next, otherNext, result, outputs, returns, otherReturns, later⟩ :=
            gcoapCliCmd_indistinct stack room proxied remote arguments transmission
          exact ⟨next, otherNext, .command result outputs, sessionStep_command returns,
            sessionStep_command otherReturns, later⟩

/-- A request that tells two proxies apart. -/
def probe : Event :=
  .command (Command.request false "a".toList "1".toList (.get "/".toList)).render ⟨true, false⟩

/-- The probe goes to the endpoint in use. -/
theorem sessionStep_probe (stack : Stack) (room : PayloadRoom) {state : State}
    (proxied : state.proxied = true) :
    ∃ next request, sessionStep stack room state probe =
      .ok (next, .command .sent [.request state.proxyRemote request]) ∧
      ∀ remote, ∃ otherNext, sessionStep stack room { state with proxyRemote := remote } probe =
        .ok (otherNext, .command .sent [.request remote request]) := by
  obtain ⟨_, proxyRemote, lastReqPath, reqCount⟩ := state
  obtain rfl := proxied
  exact ⟨_, _, rfl, fun remote => ⟨_, rfl⟩⟩

/-- A refused `proxy set` stays unnoticed in all later events exactly when no proxy is in use or
the parser has not changed the endpoint. -/
theorem refusedProxy_unnoticed_iff (stack : Stack) (room : PayloadRoom) (state : State)
    (addr port : List Char) (transmission : Transmission) (error : EndpointError)
    (refused : (parseEndpoint stack state.proxyRemote addr port).2 = some error) :
    (∀ later, ((session stack room).run state
        (.command (Command.proxySet addr port).render transmission :: later)).map Prod.snd =
      ((session stack room).run state later).map
        fun result => Effect.command (.proxyNotSet error) [] :: result.2) ↔
    state.proxied = false ∨
      (parseEndpoint stack state.proxyRemote addr port).1 = state.proxyRemote := by
  let changed : State :=
    { state with proxyRemote := (parseEndpoint stack state.proxyRemote addr port).1 }
  have steps : (session stack room).step state
      (.command (Command.proxySet addr port).render transmission) =
      .ok (changed, .command (.proxyNotSet error) []) := by
    have plain : (Command.proxySet addr port).Plain := trivial
    apply sessionStep_command
    rw [gcoapCliCmd_render stack room state transmission plain, Command.execute]
    cases parsed : parseEndpoint stack state.proxyRemote addr port with
    | mk remote found =>
        rw [parsed] at refused
        obtain rfl := refused
        simp only [changed, parsed]
  have shifted (later : List Event) : ((session stack room).run state later).map
        (fun result => Effect.command (.proxyNotSet error) [] :: result.2) =
      (((session stack room).run state later).map Prod.snd).map
        (Effect.command (.proxyNotSet error) [] :: ·) := by
    cases (session stack room).run state later with
    | error _ => rfl
    | ok _ => rfl
  constructor
  · intro unnoticed
    cases proxied : state.proxied with
    | false => exact Or.inl rfl
    | true =>
        right
        obtain ⟨next, request, mine, theirs⟩ := sessionStep_probe stack room proxied
        obtain ⟨otherNext, other⟩ := theirs changed.proxyRemote
        have first : (session stack room).run state [probe] =
            .ok (next, [.command .sent [.request state.proxyRemote request]]) :=
          FallibleMachine.run_cons_ok mine []
        have second : (session stack room).run changed [probe] =
            .ok (otherNext, [.command .sent [.request changed.proxyRemote request]]) :=
          FallibleMachine.run_cons_ok other []
        have same := unnoticed [probe]
        rw [FallibleMachine.run_cons_outputs steps, shifted, first, second] at same
        have effects := List.cons.inj (Except.ok.inj same)
        have outputs := (Effect.command.inj (List.cons.inj effects.2).1).2
        exact (Output.request.inj (List.cons.inj outputs).1).1
  · intro hidden
    have indistinct : Indistinct state changed :=
      ⟨_, rfl, fun proxied => hidden.resolve_left fun off => by rw [proxied] at off; cases off⟩
    intro later
    rw [FallibleMachine.run_cons_outputs steps, shifted,
      FallibleMachine.run_bisimulation (sessionStep_indistinct stack room) indistinct later]

/-- The port `x` is refused after the address is stored. -/
theorem refusedProxy_unnoticed_iff_port :
    (∀ later, ((session labStack (fun _ => 128)).run ⟨true, zeroEndpoint, [], 0⟩
        (.command (Command.proxySet "2001:db8::1".toList "x".toList).render ⟨true, false⟩ ::
          later)).map Prod.snd =
      ((session labStack (fun _ => 128)).run ⟨true, zeroEndpoint, [], 0⟩ later).map
        fun result => Effect.command (.proxyNotSet .unableToParsePort) [] :: result.2) ↔
    true = false ∨ (parseEndpoint labStack zeroEndpoint "2001:db8::1".toList "x".toList).1 =
      zeroEndpoint :=
  refusedProxy_unnoticed_iff labStack (fun _ => 128) ⟨true, zeroEndpoint, [], 0⟩ _ _ _ _ (by decide)

end DataStreamPilot.Coap
