/-
This file models the response callback of the command and the resource `/cli/stats`.
-/

import DataStreamPilot.Construction.Coap.Command

namespace DataStreamPilot.Coap

open Library

/-- The number of a block and the flag for further blocks. -/
structure Block where
  blknum : Nat
  more : Bool
  deriving DecidableEq

/-- What the callback reads from a response. -/
structure Response where
  codeClass : Nat
  textContent : Bool
  acknowledgement : Bool
  block : Option Block
  payload : List Char
  deriving DecidableEq

/-- The state of the request memo at the call. -/
inductive Memo where
  | timeout
  | error
  | response (response : Response)
  deriving DecidableEq

/-- A request to the resource of the counter. -/
inductive StatsRequest where
  | get
  | put (payload : List Char)
  | other

inductive StatsResponse where
  | content (text : List Char)
  | changed
  | badRequest
  | nothing
  deriving DecidableEq

/-- The largest payload that the counter accepts. -/
def maxStatsPayload : Nat := 5

/-- A put converts its payload and keeps sixteen bits of the number. -/
def statsHandler (reqCount : UInt16) : StatsRequest → UInt16 × StatsResponse
  | .get => (reqCount, .content (PythonText.decimal reqCount.toNat))
  | .put payload =>
      if payload.length ≤ maxStatsPayload then
        (UInt16.ofInt (CText.strtoul payload), .changed)
      else (reqCount, .badRequest)
  | .other => (reqCount, .nothing)

end DataStreamPilot.Coap
