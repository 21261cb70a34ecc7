/-
This file models the requests of the test client.
-/

import DataStreamPilot.Construction.Client.SetParity
import DataStreamPilot.Construction.Coap.Command

namespace DataStreamPilot.Client

/-- The joined readings of one round, with a comma at the end. -/
def payload (values : List ℤ) : List Char :=
  List.intercalate [','] (values.map setParity) ++ [',']

/-- The request of one round. -/
def request (values : List ℤ) : Coap.Request where
  method := .post
  confirmable := true
  path := some "/temp".toList
  textFormat := false
  proxyUri := none
  block := none
  payload := payload values

end DataStreamPilot.Client
