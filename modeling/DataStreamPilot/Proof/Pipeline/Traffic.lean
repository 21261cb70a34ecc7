/-
This file proves what the network of the whole system carries in every run.
A request is the report of a node, or the server refuses its payload.
-/

import DataStreamPilot.Construction.Pipeline
import DataStreamPilot.Proof.Coap.Transmission
import DataStreamPilot.Proof.ForeignRequests
import DataStreamPilot.Proof.NodeToServer
import DataStreamPilot.Proof.Node.WindowRun

namespace DataStreamPilot.Pipeline

open Library

/-- The sensors of a node have plain names. -/
theorem Sensor.plain (sensor : Sensor) : Json.PlainText sensor.sensorId.toList ∧
    PythonText.AsciiText sensor.sensorId.toList ∧ sensor.sensorId.toList.length ≤ 64 := by
  have known := sensor.known
  simp only [List.mem_cons, List.not_mem_nil, or_false] at known
  rcases known with same | same | same
  all_goals
    rw [same]
    decide

/-- The payload of a node is its report. -/
theorem payloadBytes_payloadText (sensor : Sensor) (value : Int16) :
    Server.payloadBytes (Node.payloadText sensor.siteName sensor.sensorId value) =
      Node.report sensor.siteName sensor.sensorId value := by
  obtain ⟨small, _⟩ := sites_lookup_binaryValue sensor.siteName
  obtain ⟨_, ascii, short⟩ := sensor.plain
  have parity := calculateOddParity_le value
  have fits := jsonText_length (Node.getBinaryValue Node.locationMap sensor.siteName)
    sensor.sensorId value (Node.calculateOddParity value) small (by omega) short
  rw [Server.payloadBytes, Node.payloadText, List.take_of_length_le (Nat.le_sub_one_of_lt fits),
    Node.report, jsonPayload_eq _ _ _ ascii fits, Server.printedReport, String.toList_ofList,
    jsonText_eq_reportText]

/-- The reads of one node in the order of the run. -/
def readsOf (sensor : Sensor) (events : List Event) : List (Option Int16) :=
  events.filterMap fun event =>
    match event with
    | .read other reading _ _ => if other = sensor then some reading else none
    | _ => none

/-- The node has formed its report for this value at some step of the run. -/
def Reported (deployment : Deployment) (events : List Event) (sensor : Sensor) (value : Int16) :
    Prop :=
  ∃ earlier reading conversion transmission,
    earlier ++ [.read sensor (some reading) conversion transmission] <+: events ∧
    value = ((Node.run (Node.initialTemp (deployment.initialTemp sensor))
      (readsOf sensor earlier ++ [some reading])).roundedAvgTemp).getD conversion

theorem Reported.mono {deployment : Deployment} {events later : List Event} {sensor : Sensor}
    {value : Int16} (reported : Reported deployment events sensor value)
    (longer : events <+: later) : Reported deployment later sensor value := by
  obtain ⟨earlier, reading, conversion, transmission, within, same⟩ := reported
  exact ⟨earlier, reading, conversion, transmission, within.trans longer, same⟩

/-- A report of a node, or a payload that the server refuses. -/
def Carried (deployment : Deployment) (events : List Event) (request : Coap.Request) : Prop :=
  (∃ sensor value, Reported deployment events sensor value ∧
    Server.payloadBytes request.payload = Node.report sensor.siteName sensor.sensorId value) ∨
  Server.acceptedReading (Server.payloadBytes request.payload) = none

theorem Carried.mono {deployment : Deployment} {events later : List Event}
    {request : Coap.Request} (carried : Carried deployment events request)
    (longer : events <+: later) : Carried deployment later request := by
  rcases carried with ⟨sensor, value, reported, payload⟩ | refused
  · exact Or.inl ⟨sensor, value, reported.mono longer, payload⟩
  · exact Or.inr refused

/-- The variables of the programs and the traffic after the events of a run. -/
structure SystemHolds (deployment : Deployment) (events : List Event) (state : State) : Prop where
  nodes : ∀ sensor, state.nodes sensor =
    Node.run (Node.initialTemp (deployment.initialTemp sensor)) (readsOf sensor events)
  consoles : ∀ sensor, (state.consoles sensor).proxied = false
  batching : ∀ siteName, Batching.Aligned (state.batching siteName).1
  network : ∀ request ∈ state.network, Carried deployment events request

theorem start_holds (deployment : Deployment) : SystemHolds deployment [] (start deployment) where
  nodes _ := rfl
  consoles _ := rfl
  batching _ := Batching.start_aligned
  network _ member := absurd member List.not_mem_nil

theorem readsOf_concat (sensor : Sensor) (events : List Event) (event : Event) :
    readsOf sensor (events ++ [event]) = readsOf sensor events ++ readsOf sensor [event] :=
  List.filterMap_append

/-- Requests that are carried already stay carried. -/
theorem SystemHolds.network_mono {deployment : Deployment} {events : List Event} {state : State}
    (holds : SystemHolds deployment events state) (event : Event) :
    ∀ request ∈ state.network, Carried deployment (events ++ [event]) request :=
  fun request member => (holds.network request member).mono (List.prefix_append _ _)

/-- The requests of an output list are the requests that it transmits. -/
theorem mem_requestsOf_iff (outputs : List Coap.Output) (request : Coap.Request) :
    request ∈ requestsOf outputs ↔ ∃ remote, .request remote request ∈ outputs := by
  rw [requestsOf, List.mem_filterMap]
  constructor
  · rintro ⟨output, member, same⟩
    cases output with
    | request remote carried =>
        obtain rfl := Option.some.inj same
        exact ⟨remote, member⟩
    | notification text => cases same
  · rintro ⟨remote, member⟩
    exact ⟨_, member, rfl⟩

/-- A command of a node parses to a post of its payload, or to nothing when the address of the
server is the option. -/
theorem parseArguments_coapCommand (serverIp payload : List Char) :
    Coap.parseArguments .post [serverIp, "5683".toList, "/temp".toList, payload] =
      if serverIp = "-c".toList then none
      else some ⟨.post, false, serverIp, "5683".toList, some "/temp".toList, some payload⟩ := by
  by_cases option : serverIp = "-c".toList
  · simp only [Coap.parseArguments, Coap.parseOption, if_pos option]
  · simp only [Coap.parseArguments, Coap.parseOption, if_neg option]
    rfl

/-- The command of a node leaves the console without a proxy and transmits the payload only. -/
theorem gcoapCliCmd_coapCommand (deployment : Deployment) {console : Coap.State}
    (unproxied : console.proxied = false) (payload : List Char)
    (transmission : Coap.Transmission) :
    ∃ final result outputs,
      Coap.gcoapCliCmd deployment.stack deployment.room console (coapCommand deployment payload)
        transmission = .ok (final, result, outputs) ∧
      final.proxied = false ∧
      ∀ request ∈ requestsOf outputs, request.payload = payload := by
  have found : Coap.codePos "post".toList = some .post := by decide
  have parsed := parseArguments_coapCommand deployment.serverIp payload
  by_cases option : deployment.serverIp = "-c".toList
  · rw [if_pos option] at parsed
    exact ⟨console, .requestUsage, [], Coap.gcoapCliCmd_unparsed _ _ console found parsed _,
      unproxied, fun _ member => absurd member List.not_mem_nil⟩
  · rw [if_neg option] at parsed
    let arguments : Coap.Arguments :=
      ⟨.post, false, deployment.serverIp, "5683".toList, some "/temp".toList, some payload⟩
    have defined : Coap.requestUri console.proxied arguments =
        .ok (arguments.uri, (arguments.uri.getD []).length) := by
      rw [unproxied, Coap.requestUri_unproxied]
    obtain ⟨final, result, outputs, returns, proxied, _, _, transmitted⟩ :=
      Coap.sendRequest_defined deployment.stack deployment.room defined transmission
    refine ⟨final, result, outputs,
      (Coap.gcoapCliCmd_parsed _ _ console found parsed _).trans returns, proxied.trans unproxied,
      fun request member => ?_⟩
    obtain ⟨remote, within⟩ := (mem_requestsOf_iff outputs request).mp member
    rw [transmitted remote request within]
    rfl

/-- The command of a node adds requests with its payload to the network. They depend on the
variables of that node only. -/
theorem readStep_eq (deployment : Deployment) (sensor : Sensor) (node : Node.State)
    {before : Coap.State} (unproxied : before.proxied = false) (reading conversion : Int16)
    (transmission : Coap.Transmission) :
    ∃ console requests, console.proxied = false ∧
      (∀ request ∈ requests, request.payload = Node.payloadText sensor.siteName sensor.sensorId
        ((Node.mainLoop node (some reading)).roundedAvgTemp.getD conversion)) ∧
      ∀ state : State, state.nodes sensor = node → state.consoles sensor = before →
        readStep deployment state sensor reading conversion transmission =
          { state with
            nodes := Function.update state.nodes sensor (Node.mainLoop node (some reading))
            consoles := Function.update state.consoles sensor console
            network := state.network ++ requests } := by
  obtain ⟨console, result, outputs, returns, proxied, carries⟩ :=
    gcoapCliCmd_coapCommand deployment unproxied
      (Node.payloadText sensor.siteName sensor.sensorId
        ((Node.mainLoop node (some reading)).roundedAvgTemp.getD conversion)) transmission
  refine ⟨console, requestsOf outputs, proxied, carries, fun state sameNode sameConsole => ?_⟩
  simp only [readStep, sameNode, sameConsole, returns]

/-- The function of the batching node transmits the payload that it is given. -/
theorem gcoapPost_payload (server : Batching.ServerAddress) (room : Coap.PayloadRoom)
    (console : Coap.State) (msg : List Char) (path : Batching.ResourcePath) (accepted : Bool) :
    ∀ request ∈ requestsOf (Batching.gcoapPost server room console msg path accepted).2.2,
      request.payload = msg := by
  intro request member
  obtain ⟨remote, within⟩ := (mem_requestsOf_iff _ request).mp member
  unfold Batching.gcoapPost at within
  split at within
  · cases within
  · dsimp only at within
    split at within
    · cases within
    · dsimp only [Batching.send] at within
      split at within
      · cases within
      · split at within
        · obtain rfl := (Coap.Output.request.inj (List.mem_singleton.mp within)).2
          rfl
        · cases within

/-- A reading above the gate is posted as one message. -/
theorem mainLoop_above {siteName : String} {node : Batching.State} (aligned : Batching.Aligned node)
    {temp : Int16} (gate : temp > 30) :
    Batching.mainLoop (Batching.getBinaryValue siteName) node temp =
      .ok (Batching.nextState node temp,
        [Batching.message (Batching.getBinaryValue siteName) (Batching.nextCode node temp)]) := by
  rw [Batching.mainLoop, if_pos gate, Batching.getBinaryValue,
    Batching.sendReading_eq (sites_lookup_binaryValue siteName).1 aligned.cleared temp]
  rfl

theorem mainLoop_below (siteName : String) (node : Batching.State) {temp : Int16}
    (gate : ¬ temp > 30) :
    Batching.mainLoop (Batching.getBinaryValue siteName) node temp = .ok (node, []) := by
  rw [Batching.mainLoop, if_neg gate]
  rfl

/-- A round with a reading above the gate posts its message. -/
theorem batchStep_above (deployment : Deployment) {state : State} {siteName : String}
    (aligned : Batching.Aligned (state.batching siteName).1) {temp : Int16} (gate : temp > 30)
    (accepted : Bool) {console : Coap.State} {result : ℤ} {outputs : List Coap.Output}
    (posted : Batching.gcoapPost deployment.batchingServer deployment.batchingRoom
      (state.batching siteName).2 (Batching.message (Batching.getBinaryValue siteName)
        (Batching.nextCode (state.batching siteName).1 temp)) .temp accepted =
      (console, result, outputs)) :
    batchStep deployment state siteName temp accepted =
      { state with
        batching := Function.update state.batching siteName
          (Batching.nextState (state.batching siteName).1 temp, console)
        network := state.network ++ requestsOf outputs } := by
  simp only [batchStep, mainLoop_above aligned gate, List.foldl_cons, List.foldl_nil, posted,
    List.nil_append]

/-- A round with another reading changes nothing. -/
theorem batchStep_below (deployment : Deployment) (state : State) (siteName : String)
    {temp : Int16} (gate : ¬ temp > 30) (accepted : Bool) :
    batchStep deployment state siteName temp accepted = state := by
  simp only [batchStep, mainLoop_below siteName _ gate, List.foldl_nil]
  rw [Function.update_eq_self, requestsOf, List.filterMap_nil, List.append_nil]

/-- A round of a batching node keeps its loop aligned and adds messages to the network. -/
theorem batchStep_eq (deployment : Deployment) {state : State} {siteName : String}
    (aligned : Batching.Aligned (state.batching siteName).1) (temp : Int16) (accepted : Bool) :
    ∃ node console requests,
      batchStep deployment state siteName temp accepted =
        { state with
          batching := Function.update state.batching siteName (node, console)
          network := state.network ++ requests } ∧
      Batching.Aligned node ∧
      ∀ request ∈ requests, ∃ code, request.payload =
        Batching.message (Batching.getBinaryValue siteName) code := by
  by_cases gate : temp > 30
  · exact ⟨_, _, _, batchStep_above deployment aligned gate accepted rfl,
      aligned.nextState ((Batching.gate_iff temp).mp gate), fun request member =>
        ⟨_, gcoapPost_payload _ _ _ _ _ _ request member⟩⟩
  · refine ⟨(state.batching siteName).1, (state.batching siteName).2, [], ?_, aligned,
      fun _ member => absurd member List.not_mem_nil⟩
    rw [batchStep_below deployment state siteName gate, Function.update_eq_self, List.append_nil]

/-- The pass of a node extends its run by one read. -/
theorem SystemHolds.mainLoop_nodes {deployment : Deployment} {events : List Event} {state : State}
    (holds : SystemHolds deployment events state) (sensor : Sensor) (reading : Option Int16) :
    Node.mainLoop (state.nodes sensor) reading =
      Node.run (Node.initialTemp (deployment.initialTemp sensor))
        (readsOf sensor events ++ [reading]) := by
  rw [holds.nodes, Node.run, Node.run, List.foldl_append]
  rfl

/-- A pass of one node extends the run of that node only. -/
theorem SystemHolds.nodes_read {deployment : Deployment} {events : List Event} {state : State}
    (holds : SystemHolds deployment events state) (sensor : Sensor) (reading : Option Int16)
    (conversion : Int16) (transmission : Coap.Transmission) (other : Sensor) :
    Function.update state.nodes sensor (Node.mainLoop (state.nodes sensor) reading) other =
      Node.run (Node.initialTemp (deployment.initialTemp other))
        (readsOf other (events ++ [.read sensor reading conversion transmission])) := by
  rw [readsOf_concat]
  by_cases same : other = sensor
  · obtain rfl := same
    have own : readsOf other [.read other reading conversion transmission] = [reading] :=
      List.filterMap_cons_some (if_pos rfl)
    rw [Function.update_self, holds.mainLoop_nodes, own]
  · have foreign : readsOf other [.read sensor reading conversion transmission] = [] :=
      List.filterMap_cons_none (if_neg (Ne.symm same))
    rw [Function.update_of_ne same, foreign, List.append_nil, holds.nodes]

/-- An event without a read leaves every node at the end of its run. -/
theorem SystemHolds.nodes_other {deployment : Deployment} {events : List Event} {state : State}
    (holds : SystemHolds deployment events state) {event : Event}
    (noRead : ∀ sensor, readsOf sensor [event] = []) (sensor : Sensor) :
    state.nodes sensor = Node.run (Node.initialTemp (deployment.initialTemp sensor))
      (readsOf sensor (events ++ [event])) := by
  rw [readsOf_concat, noRead, List.append_nil, holds.nodes]

/-- A successful read reports the average of the node. -/
theorem SystemHolds.readStep {deployment : Deployment} {events : List Event} {state : State}
    (holds : SystemHolds deployment events state) (sensor : Sensor) (reading conversion : Int16)
    (transmission : Coap.Transmission) :
    SystemHolds deployment (events ++ [.read sensor (some reading) conversion transmission])
      (readStep deployment state sensor reading conversion transmission) := by
  obtain ⟨console, requests, unproxied, carries, result⟩ := readStep_eq deployment sensor
    (state.nodes sensor) (holds.consoles sensor) reading conversion transmission
  rw [result state rfl rfl]
  rw [holds.mainLoop_nodes] at carries
  have consoles : ∀ other, (Function.update state.consoles sensor console other).proxied = false :=
    (Function.forall_update_iff state.consoles fun _ kept => kept.proxied = false).mpr
      ⟨unproxied, fun other _ => holds.consoles other⟩
  refine ⟨holds.nodes_read sensor (some reading) conversion transmission, consoles,
    holds.batching, fun request member => ?_⟩
  rcases List.mem_append.mp member with carried | posted
  · exact holds.network_mono _ request carried
  · refine Or.inl ⟨sensor, _,
      ⟨events, reading, conversion, transmission, List.prefix_rfl, rfl⟩, ?_⟩
    rw [carries request posted, payloadBytes_payloadText]

/-- A batching node posts messages that the server refuses. -/
theorem SystemHolds.batchStep {deployment : Deployment} {events : List Event} {state : State}
    (holds : SystemHolds deployment events state) (siteName : String) (temp : Int16)
    (accepted : Bool) :
    SystemHolds deployment (events ++ [.batch siteName temp accepted])
      (batchStep deployment state siteName temp accepted) := by
  obtain ⟨node, console, requests, result, aligned, messages⟩ :=
    batchStep_eq deployment (holds.batching siteName) temp accepted
  rw [result]
  have batching : ∀ other,
      Batching.Aligned (Function.update state.batching siteName (node, console) other).1 :=
    (Function.forall_update_iff state.batching fun _ kept => Batching.Aligned kept.1).mpr
      ⟨aligned, fun other _ => holds.batching other⟩
  refine ⟨holds.nodes_other fun _ => rfl, holds.consoles, batching, fun request member => ?_⟩
  rcases List.mem_append.mp member with carried | posted
  · exact holds.network_mono _ request carried
  · obtain ⟨code, payload⟩ := messages request posted
    right
    rw [payload, Server.acceptedReading, readReport_message]

/-- Every step keeps the description of the run. -/
theorem SystemHolds.step {deployment : Deployment} {events : List Event} {state : State}
    (holds : SystemHolds deployment events state) (event : Event) :
    SystemHolds deployment (events ++ [event]) ((system deployment).step state event).1 := by
  cases event with
  | read sensor reading conversion transmission =>
      cases reading with
      | none =>
          refine ⟨fun other => ?_, holds.consoles, holds.batching, holds.network_mono _⟩
          rw [← holds.nodes_read sensor none conversion transmission]
          exact (congrFun (Function.update_eq_self sensor state.nodes) other).symm
      | some reading => exact holds.readStep sensor reading conversion transmission
  | batch siteName temp accepted => exact holds.batchStep siteName temp accepted
  | testClient values =>
      refine ⟨holds.nodes_other fun _ => rfl, holds.consoles, holds.batching,
        fun request member => ?_⟩
      rcases List.mem_append.mp member with carried | posted
      · exact holds.network_mono _ request carried
      · obtain rfl := List.mem_singleton.mp posted
        right
        rw [Client.request, Server.acceptedReading, readReport_clientPayload]
  | deliver request written =>
      have kept : (deliverStep state request written).1 =
          { state with siteData := (deliverStep state request written).1.siteData } := by
        rw [deliverStep]
        split <;> rfl
      show SystemHolds deployment _ (deliverStep state request written).1
      rw [kept]
      exact ⟨holds.nodes_other fun _ => rfl, holds.consoles, holds.batching, holds.network_mono _⟩

/-- Every run keeps it. -/
theorem run_holds (deployment : Deployment) (events : List Event) :
    SystemHolds deployment events (run deployment events).1 :=
  Machine.run_history (start_holds deployment)
    (fun _ _ event holds => SystemHolds.step holds event) events

end DataStreamPilot.Pipeline
