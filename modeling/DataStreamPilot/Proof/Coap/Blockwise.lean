/-
This file proves what a blockwise transfer prints.
The callback asks the server that has answered for the next block of the retained path, which a
later request replaces.
-/

import DataStreamPilot.Proof.Coap.ProxySession

namespace DataStreamPilot.Coap

open Library

/-- The path of a request and the uri for a proxy name its resource on a server. -/
abbrev Resource := Option (List Char) × Option (List Char)

def Request.resource (request : Request) : Resource := (request.path, request.proxyUri)

/-- The resource of the next block. -/
def State.resource (state : State) : Resource :=
  if state.proxied then (none, some state.lastReqPath) else (some state.lastReqPath, none)

/-- A server answers with the block that a request names. -/
def answer (blocks : Resource → List (List Char)) (request : Request) : Memo :=
  let number := request.block.getD 0
  match (blocks request.resource)[number]? with
  | some payload => .response
      { codeClass := 2, textContent := true, acknowledgement := request.confirmable,
        block := some ⟨number, decide (number + 1 < (blocks request.resource).length)⟩, payload }
  | none => .response
      { codeClass := 4, textContent := false, acknowledgement := request.confirmable,
        block := none, payload := [] }

section Transfer

variable {servers : Servers} {states : Nat → State} {remote : Endpoint}

end Transfer

/-- A request in the grammar. -/
def Requests (event : Event) : Prop :=
  ∃ confirm addr port target transmission,
    event = .command (Command.request confirm addr port target).render transmission ∧
      (Command.request confirm addr port target).Plain

/-- An event that starts no request and leaves the proxy alone. -/
def Quiet (stack : Stack) (event : Event) : Prop :=
  ¬ Requests event ∧ ¬ SetsProxy stack event ∧ ¬ UnsetsProxy event

/-- The use of a proxy and the retained path are the same. -/
def Keeps (state next : State) : Prop :=
  next.proxied = state.proxied ∧ next.lastReqPath = state.lastReqPath

/-- A quiet event keeps the retained path and the proxy. -/
theorem sessionStep_quiet {stack : Stack} {room : PayloadRoom} {state next : State} {event : Event}
    {effect : Effect} (quiet : Quiet stack event)
    (steps : sessionStep stack room state event = .ok (next, effect)) : Keeps state next := by
  obtain ⟨noRequest, noSet, noUnset⟩ := quiet
  cases event with
  | stats request =>
      obtain ⟨rfl, _⟩ := Prod.mk.inj (Except.ok.inj steps)
      exact ⟨rfl, rfl⟩
  | command arguments transmission =>
      by_cases rendered : ∃ command : Command, command.Plain ∧ command.render = arguments
      · obtain ⟨command, plain, rfl⟩ := rendered
        have returns := gcoapCliCmd_render stack room state transmission plain
        cases command with
        | info ignored =>
            rw [sessionStep_command returns] at steps
            obtain ⟨rfl, _⟩ := Prod.mk.inj (Except.ok.inj steps)
            exact ⟨rfl, rfl⟩
        | proxySet addr port =>
            have success := (parseEndpoint_eq stack state.proxyRemote zeroEndpoint addr port).1
            rw [Command.execute] at returns
            cases parsed : parseEndpoint stack state.proxyRemote addr port with
            | mk remote error =>
                rw [parsed] at returns success
                cases error with
                | none => exact absurd ⟨addr, port, transmission, rfl, success.symm⟩ noSet
                | some error =>
                    rw [sessionStep_command returns] at steps
                    obtain ⟨rfl, _⟩ := Prod.mk.inj (Except.ok.inj steps)
                    exact ⟨rfl, rfl⟩
        | proxyUnset => exact absurd ⟨transmission, rfl⟩ noUnset
        | request confirm addr port target =>
            exact absurd ⟨confirm, addr, port, target, transmission, rfl, plain⟩ noRequest
      · have foreign (command : Command) (plain : command.Plain) : command.render ≠ arguments :=
          fun same => rendered ⟨command, plain, same⟩
        obtain ⟨result, _, returns⟩ := gcoapCliCmd_unrendered stack room transmission foreign
        rw [sessionStep_command (returns state)] at steps
        obtain ⟨rfl, _⟩ := Prod.mk.inj (Except.ok.inj steps)
        exact ⟨rfl, rfl⟩

/-- The state that quiet events reach. -/
def ReachesQuietly (stack : Stack) (room : PayloadRoom) (state next : State) : Prop :=
  ∃ events effects, (∀ event ∈ events, Quiet stack event) ∧
    (session stack room).run state events = .ok (next, effects)

theorem ReachesQuietly.retained {stack : Stack} {room : PayloadRoom} {state next : State}
    (reaches : ReachesQuietly stack room state next) : Keeps state next := by
  obtain ⟨events, effects, quiet, runs⟩ := reaches
  have entry : Keeps state state := ⟨rfl, rfl⟩
  refine FallibleMachine.run_preserves ?_ quiet entry runs
  intro middle event later effect silent kept steps
  obtain ⟨proxied, path⟩ := sessionStep_quiet silent steps
  exact ⟨proxied.trans kept.1, path.trans kept.2⟩

/-- The text that a get retains, before any truncation. -/
def retainedText (proxied : Bool) (addr port path : List Char) : List Char :=
  if proxied then proxyUriText addr port path else path

/-- A get with a short text retains the resource that it asks for. -/
theorem execute_get {stack : Stack} {room : PayloadRoom} {state final : State} {confirm : Bool}
    {addr port path : List Char} {transmission : Transmission} {result : Result}
    {outputs : List Output} {remote : Endpoint} {request : Request}
    (executes : (Command.request confirm addr port (.get path)).execute stack room state
      transmission = .ok (final, result, outputs))
    (sent : .request remote request ∈ outputs) :
    request.block = none ∧
      if (retainedText state.proxied addr port path).length < lastReqPathMax then
        final.resource = request.resource ∧
          final.lastReqPath = retainedText state.proxied addr port path
      else final.lastReqPath = [] := by
  rcases requestUri_cases state.proxied confirm addr port (.get path) with
    ⟨_, ping, _⟩ | ⟨_, uri, uriLength, defined⟩
  · cases ping
  · obtain ⟨next, _, _, returns, proxied, _, retained, transmitted⟩ :=
      sendRequest_defined stack room defined transmission
    obtain ⟨rfl, rest⟩ := Prod.mk.inj (Except.ok.inj (returns.symm.trans executes))
    obtain ⟨rfl, rfl⟩ := Prod.mk.inj rest
    rw [transmitted remote request sent]
    refine ⟨rfl, ?_⟩
    cases active : state.proxied with
    | false =>
        rw [active] at defined proxied
        obtain ⟨rfl, rfl⟩ := Prod.mk.inj (Except.ok.inj defined)
        show if path.length < lastReqPathMax then _ ∧ _ = path else _
        split
        · rename_i short
          have same : next.lastReqPath = path := retained.trans (if_pos short)
          refine ⟨?_, same⟩
          rw [State.resource, proxied, same]
          rfl
        · rename_i long
          exact retained.trans (if_neg long)
    | true =>
        rw [active] at defined proxied
        obtain ⟨rfl, rfl⟩ := Prod.mk.inj (Except.ok.inj defined)
        let text := proxyUriText addr port path
        show if text.length < lastReqPathMax then _ ∧ _ = text else _
        split
        · rename_i short
          have whole : text.take (proxyUriSize - 1) = text :=
            List.take_of_length_le (Nat.le_sub_one_of_lt short)
          have same : next.lastReqPath = text := (retained.trans (if_pos short)).trans whole
          refine ⟨?_, same⟩
          rw [State.resource, proxied, same]
          show (none, some text) = (none, some (text.take (proxyUriSize - 1)))
          rw [whole]
        · rename_i long
          exact retained.trans (if_neg long)

theorem Keeps.resource {state next : State} (keeps : Keeps state next) :
    next.resource = state.resource := by
  rw [State.resource, State.resource, keeps.1, keeps.2]

/-- A get whose request leaves the board for a server and whose text the board retains. -/
structure RetainedGet (stack : Stack) (room : PayloadRoom) (state final : State)
    (remote : Endpoint) (request : Request) : Prop where
  executes : ∃ confirm addr port path transmission result outputs,
    (Command.request confirm addr port (.get path)).execute stack room state transmission =
      .ok (final, result, outputs) ∧ .request remote request ∈ outputs ∧
    0 < (retainedText state.proxied addr port path).length ∧
    (retainedText state.proxied addr port path).length < lastReqPathMax

theorem RetainedGet.resource {stack : Stack} {room : PayloadRoom} {state final : State}
    {remote : Endpoint} {request : Request}
    (get : RetainedGet stack room state final remote request) :
    request.block = none ∧ final.resource = request.resource ∧ final.lastReqPath ≠ [] := by
  obtain ⟨confirm, addr, port, path, transmission, result, outputs, executes, sent, nonempty,
    short⟩ := get.executes
  obtain ⟨numbered, retained⟩ := execute_get executes sent
  rw [if_pos short] at retained
  refine ⟨numbered, retained.1, ?_⟩
  rw [retained.2]
  exact List.ne_nil_of_length_pos nonempty

end DataStreamPilot.Coap
