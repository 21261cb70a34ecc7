/-
This file models the function with which the batching node posts its payloads.
-/

import DataStreamPilot.Construction.Batching.DeltaEncoder
import DataStreamPilot.Construction.Coap.Command

namespace DataStreamPilot.Batching

open Library

/-- The enumeration `resource_path` -/
inductive ResourcePath where
  | temp
  | time
  | core
  | board
  | hello
  | riotV
  | sha256
  deriving DecidableEq, Repr

def resourcePaths : ResourcePath → List Char
  | .temp => "/temp".toList
  | .time => "/time".toList
  | .core => "/.well-known/core".toList
  | .board => "/riot/board".toList
  | .hello => "/echo/hello".toList
  | .riotV => "/riot/ver".toList
  | .sha256 => "/sha256".toList

/-- The table of the lengths that are copied, which count the terminator. -/
def resourcePathsLen : ResourcePath → Nat
  | .temp => 6
  | .time => 6
  | .core => 18
  | .board => 12
  | .hello => 12
  | .riotV => 10
  | .sha256 => 8

/-- What the stack makes of the two constant texts of the server's address. -/
structure ServerAddress where
  /-- `ipv6_addr_from_str` on the address -/
  parsed : Option Coap.Address
  /-- `sock_udp_name2ep` on the name, with the default port in place of zero -/
  named : Option Coap.Endpoint

/-- The destination of a request and the transmission. -/
def send (server : ServerAddress) (state : Coap.State) (request : Coap.Request)
    (accepted : Bool) : Coap.State × List Coap.Output :=
  match if state.proxied then some state.proxyRemote else server.named with
  | none => (state, [])
  | some remote =>
      if accepted then
        ({ state with reqCount := state.reqCount + 1 }, [.request remote request])
      else (state, [])

/-- A confirmable post of a text. The return value does not tell whether the message left. -/
def gcoapPost (server : ServerAddress) (room : Coap.PayloadRoom) (state : Coap.State)
    (msg : List Char) (path : ResourcePath) (accepted : Bool) :
    Coap.State × ℤ × List Coap.Output :=
  match server.parsed with
  | none => (state, -1, [])
  | some _ =>
      let lastReqPath :=
        if resourcePathsLen path < Coap.lastReqPathMax then resourcePaths path else []
      let state := { state with lastReqPath }
      let request : Coap.Request :=
        { method := .post, confirmable := true, path := some (resourcePaths path),
          textFormat := true, proxyUri := none, block := none, payload := msg }
      if room request < msg.length then (state, 1, [])
      else
        let (state, outputs) := send server state request accepted
        (state, 0, outputs)

end DataStreamPilot.Batching
