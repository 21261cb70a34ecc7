/-
This file models the command `coap` of the compute engine.
A text of C is the list of its characters, and the outcome of a transmission is an input.
-/

import DataStreamPilot.Construction.Coap.Endpoint

namespace DataStreamPilot.Coap

open Library

/-- The request methods, in the order of their codes. The code zero is a ping. -/
inductive Method where
  | ping
  | get
  | post
  | put
  deriving DecidableEq, Repr

/-- The array `method_codes` with the method of each position. -/
def methodCodes : List (List Char × Method) :=
  [("ping".toList, .ping), ("get".toList, .get), ("post".toList, .post), ("put".toList, .put)]

/-- The loop over the array keeps the last match. -/
def codePos (name : List Char) : Option Method :=
  methodCodes.foldl (fun found entry => if name = entry.1 then some entry.2 else found) none

/-- The fields of a request that the command and the response callback set. A request to a proxy
has no path of its own. -/
structure Request where
  method : Method
  confirmable : Bool
  path : Option (List Char)
  textFormat : Bool
  proxyUri : Option (List Char)
  block : Option Nat
  payload : List Char
  deriving DecidableEq

/-- The room that the request buffer leaves for a payload after the header and the options. -/
abbrev PayloadRoom := Request → Nat

abbrev lastReqPathMax : Nat := 64

abbrev proxyUriSize : Nat := 64

/-- The static variables of the command. The array `_last_req_path` holds its text up to the
terminator. -/
structure State where
  proxied : Bool
  proxyRemote : Endpoint
  lastReqPath : List Char
  reqCount : UInt16
  deriving DecidableEq

def start : State where
  proxied := false
  proxyRemote := zeroEndpoint
  lastReqPath := []
  reqCount := 0

/-- A conversion `%s` of a null pointer has no defined effect. -/
inductive Undefined where
  | nullText
  deriving DecidableEq, Repr

/-- How one call of the command ends. The command `info` prints the counter and the proxy. -/
inductive Result where
  | usage
  | info (requestsSent : UInt16) (configuredProxy : Option (Address × UInt16))
  | proxySet
  | proxyNotSet (error : EndpointError)
  | proxyUnset
  | proxyUsage
  | requestUsage
  | bufferTooSmall
  | sent
  | sendFailed
  deriving DecidableEq, Repr

/-- The return value of the command. -/
def Result.exitCode : Result → Nat
  | .usage => 1
  | .info _ _ => 0
  | .proxySet => 0
  | .proxyNotSet _ => 1
  | .proxyUnset => 0
  | .proxyUsage => 1
  | .requestUsage => 1
  | .bufferTooSmall => 1
  | .sent => 0
  | .sendFailed => 0

/-- What leaves the board. A notification carries the text of the request counter. -/
inductive Output where
  | request (remote : Endpoint) (request : Request)
  | notification (text : List Char)
  deriving DecidableEq

/-- The outcome of a transmission and the presence of an observer of the counter. -/
structure Transmission where
  accepted : Bool
  observed : Bool

/-- The arguments of a request after the options are parsed. -/
structure Arguments where
  method : Method
  confirmable : Bool
  addr : List Char
  port : List Char
  uri : Option (List Char)
  data : Option (List Char)
  deriving DecidableEq

/-- The option `-c` makes any request confirmable, and a ping always is. -/
def parseOption (method : Method) (arguments : List (List Char)) : Bool × List (List Char) :=
  match arguments with
  | option :: rest =>
      if option = "-c".toList then (true, rest) else (decide (method = .ping), option :: rest)
  | [] => (decide (method = .ping), [])

/-- Each method has its own number of arguments. -/
def parseArguments (method : Method) (arguments : List (List Char)) : Option Arguments :=
  match method, parseOption method arguments with
  | .ping, (confirmable, [addr, port]) => some ⟨.ping, confirmable, addr, port, none, none⟩
  | .get, (confirmable, [addr, port, path]) =>
      some ⟨.get, confirmable, addr, port, some path, none⟩
  | .post, (confirmable, [addr, port, path, data]) =>
      some ⟨.post, confirmable, addr, port, some path, some data⟩
  | .put, (confirmable, [addr, port, path, data]) =>
      some ⟨.put, confirmable, addr, port, some path, some data⟩
  | _, _ => none

/-- The text that `snprintf` forms for the option Proxy-Uri. -/
def proxyUriText (addr port uri : List Char) : List Char :=
  "coap://[".toList ++ addr ++ "]:".toList ++ port ++ uri

/-- The uri of a request and its length before any truncation. -/
def requestUri (proxied : Bool) (arguments : Arguments) :
    Except Undefined (Option (List Char) × Nat) :=
  if proxied then
    match arguments.uri with
    | none => .error .nullText
    | some uri =>
        let text := proxyUriText arguments.addr arguments.port uri
        .ok (some (text.take (proxyUriSize - 1)), text.length)
  else .ok (arguments.uri, (arguments.uri.getD []).length)

/-- The path is retained when its full length fits into the array. -/
def retainedPath (uri : Option (List Char)) (uriLength : Nat) : List Char :=
  if uriLength < lastReqPathMax then uri.getD [] else []

/-- The request that the command forms. A payload has a content format. -/
def formRequest (proxied : Bool) (arguments : Arguments) (uri : Option (List Char)) : Request where
  method := arguments.method
  confirmable := arguments.confirmable
  path := if proxied then none else uri
  textFormat := decide (arguments.data.getD [] ≠ [])
  proxyUri := if proxied then uri else none
  block := none
  payload := arguments.data.getD []

/-- The destination of a request and the transmission, which counts what the stack accepts. -/
def send (stack : Stack) (state : State) (request : Request) (addr port : List Char)
    (transmission : Transmission) : State × Result × List Output :=
  let (remote, error) :=
    if state.proxied then (state.proxyRemote, none)
    else parseEndpoint stack zeroEndpoint addr port
  match error with
  | some _ => (state, .sendFailed, [])
  | none =>
      if transmission.accepted then
        let state := { state with reqCount := state.reqCount + 1 }
        (state, .sent, .request remote request ::
          if transmission.observed then
            [.notification (PythonText.decimal state.reqCount.toNat)]
          else [])
      else (state, .sendFailed, [])

/-- The branch for a method code. The path is retained before the payload is found too long. -/
def sendRequest (stack : Stack) (room : PayloadRoom) (state : State) (arguments : Arguments)
    (transmission : Transmission) : Except Undefined (State × Result × List Output) := do
  let (uri, uriLength) ← requestUri state.proxied arguments
  let state := { state with lastReqPath := retainedPath uri uriLength }
  let request := formRequest state.proxied arguments uri
  if request.payload ≠ [] ∧ room request < request.payload.length then
    return (state, .bufferTooSmall, [])
  else return send stack state request arguments.addr arguments.port transmission

/-- The branch `info` prints the static variables and changes none of them. -/
def infoCommand (state : State) : Result :=
  .info state.reqCount
    (if state.proxied then some (state.proxyRemote.addr, state.proxyRemote.port) else none)

/-- The branch `proxy`. A refused endpoint has already overwritten the static one. -/
def proxyCommand (stack : Stack) (state : State) (arguments : List (List Char)) : State × Result :=
  match arguments with
  | [action, addr, port] =>
      if action = "set".toList then
        let (remote, error) := parseEndpoint stack state.proxyRemote addr port
        match error with
        | some error => ({ state with proxyRemote := remote }, .proxyNotSet error)
        | none => ({ state with proxyRemote := remote, proxied := true }, .proxySet)
      else (state, .proxyUsage)
  | [action] =>
      if action = "unset".toList then
        ({ state with proxyRemote := zeroEndpoint, proxied := false }, .proxyUnset)
      else (state, .proxyUsage)
  | _ => (state, .proxyUsage)

/-- One call of the command with the arguments after its own name. -/
def gcoapCliCmd (stack : Stack) (room : PayloadRoom) (state : State)
    (arguments : List (List Char)) (transmission : Transmission) :
    Except Undefined (State × Result × List Output) :=
  match arguments with
  | [] => .ok (state, .usage, [])
  | name :: rest =>
      if name = "info".toList then .ok (state, infoCommand state, [])
      else if name = "proxy".toList then
        let (state, result) := proxyCommand stack state rest
        .ok (state, result, [])
      else
        match codePos name with
        | none => .ok (state, .usage, [])
        | some method =>
            match parseArguments method rest with
            | none => .ok (state, .requestUsage, [])
            | some parsed => sendRequest stack room state parsed transmission

end DataStreamPilot.Coap
