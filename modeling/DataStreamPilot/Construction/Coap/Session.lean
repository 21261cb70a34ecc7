/-
This file models a session of the board. Calls of the command and requests to the counter come in
any order, and both share the static variables.
-/

import DataStreamPilot.Construction.Coap.Resource
import DataStreamPilot.Library.FallibleMachine

namespace DataStreamPilot.Coap

open Library

/-- A call of the command with the outcome of its transmission, or a request to the counter. -/
inductive Event where
  | command (arguments : List (List Char)) (transmission : Transmission)
  | stats (request : StatsRequest)

/-- What an event shows to the user and to the network. -/
inductive Effect where
  | command (result : Result) (outputs : List Output)
  | stats (response : StatsResponse)
  deriving DecidableEq

/-- One event of a session. -/
def sessionStep (stack : Stack) (room : PayloadRoom) (state : State) :
    Event → Except Undefined (State × Effect)
  | .command arguments transmission => do
      let (state, result, outputs) ← gcoapCliCmd stack room state arguments transmission
      return (state, .command result outputs)
  | .stats request =>
      let (reqCount, response) := statsHandler state.reqCount request
      .ok ({ state with reqCount }, .stats response)

/-- A session as a machine. -/
def session (stack : Stack) (room : PayloadRoom) : FallibleMachine Undefined State Event Effect :=
  ⟨sessionStep stack room⟩

end DataStreamPilot.Coap
