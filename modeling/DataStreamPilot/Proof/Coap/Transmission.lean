/-
This file proves what one request of the command leaves behind and what it transmits.
-/

import DataStreamPilot.Construction.Coap.Command

namespace DataStreamPilot.Coap

open Library

/-- A transmission keeps all variables except the counter. -/
theorem send_variables (stack : Stack) (state : State) (request : Request) (addr port : List Char)
    (transmission : Transmission) :
    (send stack state request addr port transmission).1.proxied = state.proxied ∧
    (send stack state request addr port transmission).1.proxyRemote = state.proxyRemote ∧
    (send stack state request addr port transmission).1.lastReqPath = state.lastReqPath := by
  unfold send
  split
  split
  · exact ⟨rfl, rfl, rfl⟩
  · split
    · exact ⟨rfl, rfl, rfl⟩
    · exact ⟨rfl, rfl, rfl⟩

/-- A transmission carries the request that it is given. -/
theorem send_request {stack : Stack} {state : State} {request : Request} {addr port : List Char}
    {transmission : Transmission} {remote : Endpoint} {carried : Request}
    (member : .request remote carried ∈ (send stack state request addr port transmission).2.2) :
    carried = request := by
  unfold send at member
  split at member
  split at member
  · cases member
  · split at member
    · rcases List.mem_cons.mp member with same | later
      · exact (Output.request.inj same).2
      · split at later
        · cases List.mem_singleton.mp later
        · cases later
    · cases member

/-- A request with a defined uri keeps the proxy and retains the uri. What it transmits is the
request itself. -/
theorem sendRequest_defined (stack : Stack) (room : PayloadRoom) {state : State}
    {arguments : Arguments} {uri : Option (List Char)} {uriLength : Nat}
    (defined : requestUri state.proxied arguments = .ok (uri, uriLength))
    (transmission : Transmission) :
    ∃ final result outputs,
      sendRequest stack room state arguments transmission = .ok (final, result, outputs) ∧
      final.proxied = state.proxied ∧ final.proxyRemote = state.proxyRemote ∧
      final.lastReqPath = retainedPath uri uriLength ∧
      ∀ remote request, .request remote request ∈ outputs →
        request = formRequest state.proxied arguments uri := by
  let retained : State := { state with lastReqPath := retainedPath uri uriLength }
  let sent := send stack retained (formRequest state.proxied arguments uri) arguments.addr
    arguments.port transmission
  simp only [sendRequest, defined, bind, Except.bind]
  split
  · exact ⟨retained, .bufferTooSmall, [], rfl, rfl, rfl, rfl,
      fun _ _ member => absurd member List.not_mem_nil⟩
  · obtain ⟨proxied, remote, path⟩ := send_variables stack retained
      (formRequest state.proxied arguments uri) arguments.addr arguments.port transmission
    exact ⟨sent.1, sent.2.1, sent.2.2, rfl, proxied, remote, path,
      fun _ _ member => send_request member⟩

/-- Without a proxy every request has a defined uri. -/
theorem requestUri_unproxied (arguments : Arguments) :
    requestUri false arguments = .ok (arguments.uri, (arguments.uri.getD []).length) := rfl

/-- The words `info` and `proxy` are no methods. -/
theorem not_keyword_of_codePos {name : List Char} {method : Method}
    (found : codePos name = some method) : name ≠ "info".toList ∧ name ≠ "proxy".toList := by
  constructor
  · rintro rfl
    exact absurd found (by decide +revert)
  · rintro rfl
    exact absurd found (by decide +revert)

/-- The command sends the request that its arguments describe. -/
theorem gcoapCliCmd_parsed (stack : Stack) (room : PayloadRoom) (state : State)
    {name : List Char} {method : Method} (found : codePos name = some method)
    {rest : List (List Char)} {arguments : Arguments}
    (parsed : parseArguments method rest = some arguments) (transmission : Transmission) :
    gcoapCliCmd stack room state (name :: rest) transmission =
      sendRequest stack room state arguments transmission := by
  obtain ⟨notInfo, notProxy⟩ := not_keyword_of_codePos found
  simp only [gcoapCliCmd, if_neg notInfo, if_neg notProxy, found, parsed]

/-- The command prints its usage when the number of arguments is wrong. -/
theorem gcoapCliCmd_unparsed (stack : Stack) (room : PayloadRoom) (state : State)
    {name : List Char} {method : Method} (found : codePos name = some method)
    {rest : List (List Char)} (unparsed : parseArguments method rest = none)
    (transmission : Transmission) :
    gcoapCliCmd stack room state (name :: rest) transmission = .ok (state, .requestUsage, []) := by
  obtain ⟨notInfo, notProxy⟩ := not_keyword_of_codePos found
  simp only [gcoapCliCmd, if_neg notInfo, if_neg notProxy, found, unparsed]

/-- A board with one interface, which knows one address. -/
def labStack : Stack where
  splitIface text := (text.takeWhile (· ≠ '%'), (text.dropWhile (· ≠ '%')).tail?)
  singleInterface := some 6
  hasInterface pid := decide (pid = 6)
  anyInterface := 0
  addressFromText text :=
    if text = "2001:db8::1".toList then
      some #v[ 0x20, 0x01, 0x0d, 0xb8, 0, 0, 0, 0, 0, 0, 0, 0, 0, 0, 0, 1]
    else none
  isLinkLocal addr := decide (addr[0] = 0xfe ∧ addr[1] &&& 0xc0 = 0x80)
  atoiOverflow text := if text.head? = some '-' then -2 ^ 31 else 2 ^ 31 - 1

/-- The endpoint of the server in the laboratory. -/
def labRemote : Endpoint :=
  (parseEndpoint labStack zeroEndpoint "2001:db8::1".toList "5683".toList).1

/-- The request that a board without a proxy sends for a path. -/
def labGet (path : List Char) : Request where
  method := .get
  confirmable := false
  path := some path
  textFormat := false
  proxyUri := none
  block := none
  payload := []

end DataStreamPilot.Coap
