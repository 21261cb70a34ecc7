/-
This file composes the nodes, the batching nodes, the test client, the network and the server.
The network may lose, repeat and reorder requests.
-/

import DataStreamPilot.Library.Machine
import DataStreamPilot.Construction.Batching.GcoapPost
import DataStreamPilot.Construction.Client.Requests
import DataStreamPilot.Construction.Node.Filter
import DataStreamPilot.Construction.Node.Report
import DataStreamPilot.Construction.Server.Site

namespace DataStreamPilot

open Library

/-- The characters of the array `json_payload`, one byte each. -/
def Node.payloadText (siteName sensorId : String) (roundedAvgTemp : Int16) : List Char :=
  (Node.jsonText (Node.getBinaryValue Node.locationMap siteName) sensorId roundedAvgTemp
    (Node.calculateOddParity roundedAvgTemp)).take (Node.maxJsonPayloadSize - 1)

namespace Pipeline

/-- The firmware is built for a site and for one of three sensors. -/
structure Sensor where
  siteName : String
  sensorId : String
  known : sensorId ∈ ["1", "2", "3"]
  deriving DecidableEq

/-- What the build and the network stacks fix. -/
structure Deployment where
  stack : Coap.Stack
  room : Coap.PayloadRoom
  serverIp : List Char
  batchingServer : Batching.ServerAddress
  batchingRoom : Coap.PayloadRoom
  initialTemp : Sensor → Option Int16

/-- The array `coap_command` after its first entry. -/
def coapCommand (deployment : Deployment) (payload : List Char) : List (List Char) :=
  ["post".toList, deployment.serverIp, "5683".toList, "/temp".toList, payload]

/-- The variables of all programs and the requests that the network has carried. -/
structure State where
  nodes : Sensor → Node.State
  consoles : Sensor → Coap.State
  batching : String → Batching.State × Coap.State
  network : List Coap.Request
  siteData : Server.SiteData

def start (deployment : Deployment) : State where
  nodes sensor := Node.start (Node.initialTemp (deployment.initialTemp sensor))
  consoles _ := Coap.start
  batching _ := (Batching.start, Coap.start)
  network := []
  siteData := Server.initialSiteData

/-- The scheduler chooses the program that runs next and the outcome of each external call. A
conversion is the value of a cast without a defined result. -/
inductive Event where
  | read (sensor : Sensor) (reading : Option Int16) (conversion : Int16)
      (transmission : Coap.Transmission)
  | batch (siteName : String) (temp : Int16) (accepted : Bool)
  | testClient (values : List ℤ)
  | deliver (request : Coap.Request) (written : Bool)

/-- The requests among the outputs of a board. -/
def requestsOf (outputs : List Coap.Output) : List Coap.Request :=
  outputs.filterMap fun output =>
    match output with
    | .request _ request => some request
    | .notification _ => none

/-- A successful read is processed, and the report is posted with the command. -/
def readStep (deployment : Deployment) (state : State) (sensor : Sensor)
    (reading conversion : Int16) (transmission : Coap.Transmission) : State :=
  let node := Node.mainLoop (state.nodes sensor) (some reading)
  let payload := Node.payloadText sensor.siteName sensor.sensorId
    (node.roundedAvgTemp.getD conversion)
  let state := { state with nodes := Function.update state.nodes sensor node }
  match Coap.gcoapCliCmd deployment.stack deployment.room (state.consoles sensor)
      (coapCommand deployment payload) transmission with
  | .error _ => state
  | .ok (console, _, outputs) =>
      { state with
        consoles := Function.update state.consoles sensor console
        network := state.network ++ requestsOf outputs }

/-- One round of a batching node. A node that has ended posts nothing. -/
def batchStep (deployment : Deployment) (state : State) (siteName : String) (temp : Int16)
    (accepted : Bool) : State :=
  let (node, console) := state.batching siteName
  match Batching.mainLoop (Batching.getBinaryValue siteName) node temp with
  | .error _ => state
  | .ok (node, posted) =>
      let (console, outputs) := posted.foldl (fun (console, outputs) payload =>
        let (console, _, more) := Batching.gcoapPost deployment.batchingServer
          deployment.batchingRoom console payload .temp accepted
        (console, outputs ++ more)) (console, [])
      { state with
        batching := Function.update state.batching siteName (node, console)
        network := state.network ++ requestsOf outputs }

/-- The server handles a request that the network has carried. -/
def deliverStep (state : State) (request : Coap.Request) (written : Bool) :
    State × List Server.Point :=
  if request ∈ state.network then
    let (siteData, points) := Server.handleRequest state.siteData request written
    ({ state with siteData }, points)
  else (state, [])

/-- One step of the whole system, with the points that it writes. -/
def step (deployment : Deployment) (state : State) : Event → State × List Server.Point
  | .read _ none _ _ => (state, [])
  | .read sensor (some reading) conversion transmission =>
      (readStep deployment state sensor reading conversion transmission, [])
  | .batch siteName temp accepted => (batchStep deployment state siteName temp accepted, [])
  | .testClient values => ({ state with network := state.network ++ [Client.request values] }, [])
  | .deliver request written => deliverStep state request written

/-- The whole system as a machine. -/
def system (deployment : Deployment) : Machine State Event Server.Point := ⟨step deployment⟩

/-- The state and the contents of the database after a sequence of events. -/
def run (deployment : Deployment) (events : List Event) : State × List Server.Point :=
  (system deployment).run (start deployment) events

end Pipeline

end DataStreamPilot
