/-
This file proves what the server stores when the network delivers each report once and in order.
Each sensor then has exactly the averages of its node.
-/

import DataStreamPilot.Proof.Pipeline.Provenance

namespace DataStreamPilot.Pipeline

open Library

/-- One pass of a node whose report is delivered before the next pass of any node. -/
structure Round where
  sensor : Sensor
  reading : Option Int16
  conversion : Int16
  observed : Bool
  written : Bool

/-- The pass of the node. The network accepts its transmission. -/
def Round.read (round : Round) : Event :=
  .read round.sensor round.reading round.conversion ⟨true, round.observed⟩

/-- The pass and the delivery of each request that it posts. -/
def Round.events (deployment : Deployment) (state : State) (round : Round) : List Event :=
  let posted :=
    ((system deployment).step state round.read).1.network.drop state.network.length
  round.read :: posted.map fun request => .deliver request round.written

/-- The events of a sequence of rounds. -/
def linkEvents (deployment : Deployment) (state : State) : List Round → List Event
  | [] => []
  | round :: rest =>
      let events := round.events deployment state
      events ++ linkEvents deployment ((system deployment).run state events).1 rest

/-- The averages that a node forms in its rounds. -/
def averages (sensor : Sensor) (node : Node.State) : List Round → List ℤ
  | [] => []
  | round :: rest =>
      if round.sensor = sensor then
        let next := Node.mainLoop node round.reading
        (round.reading.map fun _ => (next.roundedAvgTemp.getD round.conversion).toInt).toList ++
          averages sensor next rest
      else averages sensor node rest

/-- The post of a report. -/
def reportRequest (payload : List Char) : Coap.Request where
  method := .post
  confirmable := false
  path := some "/temp".toList
  textFormat := decide (payload ≠ [])
  proxyUri := none
  block := none
  payload := payload

/-- The stack accepts the address of the server and has room for every report. -/
structure Reaches (deployment : Deployment) : Prop where
  address : deployment.serverIp ≠ "-c".toList
  endpoint : (Coap.parseEndpoint deployment.stack Coap.zeroEndpoint deployment.serverIp
    "5683".toList).2 = none
  room : ∀ payload : List Char, payload.length < Node.maxJsonPayloadSize →
    payload.length ≤ deployment.room (reportRequest payload)

/-- A command of a node transmits its report once. -/
theorem gcoapCliCmd_posts {deployment : Deployment} (reaches : Reaches deployment)
    {console : Coap.State} (unproxied : console.proxied = false) {payload : List Char}
    (short : payload.length < Node.maxJsonPayloadSize) (observed : Bool) :
    ∃ final result outputs,
      Coap.gcoapCliCmd deployment.stack deployment.room console (coapCommand deployment payload)
        ⟨true, observed⟩ = .ok (final, result, outputs) ∧
      final.proxied = false ∧ requestsOf outputs = [reportRequest payload] := by
  have found : Coap.codePos "post".toList = some .post := by decide
  have parsed := parseArguments_coapCommand deployment.serverIp payload
  rw [if_neg reaches.address] at parsed
  have fits : ¬ ((reportRequest payload).payload ≠ [] ∧
      deployment.room (reportRequest payload) < (reportRequest payload).payload.length) :=
    fun tooLong => absurd tooLong.2 (Nat.not_lt.mpr (reaches.room payload short))
  obtain ⟨proxied, proxyRemote, lastReqPath, reqCount⟩ := console
  obtain rfl := unproxied
  have formed : Coap.formRequest false ⟨.post, false, deployment.serverIp, "5683".toList,
      some "/temp".toList, some payload⟩ (some "/temp".toList) = reportRequest payload := rfl
  rw [coapCommand, Coap.gcoapCliCmd_parsed _ _ _ found parsed]
  simp only [Coap.sendRequest, Coap.requestUri, Bool.false_eq_true, if_false, bind, Except.bind,
    formed, if_neg fits, Coap.send, reaches.endpoint, if_true]
  refine ⟨_, _, _, rfl, rfl, ?_⟩
  cases observed <;> rfl

theorem payloadText_length_lt (siteName sensorId : String) (value : Int16) :
    (Node.payloadText siteName sensorId value).length < Node.maxJsonPayloadSize :=
  Nat.lt_succ_of_le (List.length_take_le _ _)

/-- A successful read adds one request to the network. -/
theorem readStep_posts {deployment : Deployment} (reaches : Reaches deployment) {state : State}
    (sensor : Sensor) (unproxied : (state.consoles sensor).proxied = false)
    (reading conversion : Int16) (observed : Bool) :
    ∃ console, console.proxied = false ∧
      readStep deployment state sensor reading conversion ⟨true, observed⟩ =
        { state with
          nodes := Function.update state.nodes sensor
            (Node.mainLoop (state.nodes sensor) (some reading))
          consoles := Function.update state.consoles sensor console
          network := state.network ++ [reportRequest (Node.payloadText sensor.siteName
            sensor.sensorId ((Node.mainLoop (state.nodes sensor)
              (some reading)).roundedAvgTemp.getD conversion))] } := by
  obtain ⟨console, result, outputs, returns, proxied, posts⟩ :=
    gcoapCliCmd_posts reaches unproxied (payloadText_length_lt sensor.siteName sensor.sensorId
      ((Node.mainLoop (state.nodes sensor) (some reading)).roundedAvgTemp.getD conversion)) observed
  refine ⟨console, proxied, ?_⟩
  simp only [readStep, returns, posts]

/-- The history after the report of a node. -/
def recordReport (history : Server.History) (sensor : Sensor) (value : Int16) : Server.History :=
  if sensor.siteName ∈ storedSites then
    history.record ⟨sensor.siteName, sensor.sensorId, value.toInt⟩
  else history

/-- The delivery of a report extends the history of its sensor. -/
theorem deliverStep_report {state : State} {history : Server.History}
    (same : state.siteData = Server.siteDataOf history) (sensor : Sensor) (value : Int16)
    (carried : reportRequest (Node.payloadText sensor.siteName sensor.sensorId value) ∈
      state.network) (written : Bool) :
    (deliverStep state (reportRequest (Node.payloadText sensor.siteName sensor.sensorId value))
      written).1 = { state with
        siteData := Server.siteDataOf (recordReport history sensor value) } := by
  have reaches : Server.reachesTemperature
      (reportRequest (Node.payloadText sensor.siteName sensor.sensorId value)) = true := rfl
  have payload : Server.payloadBytes
      (reportRequest (Node.payloadText sensor.siteName sensor.sensorId value)).payload =
      Node.report sensor.siteName sensor.sensorId value := payloadBytes_payloadText sensor value
  rw [deliverStep, if_pos carried, Server.handleRequest, if_pos reaches, payload, same,
    recordReport]
  by_cases stored : sensor.siteName ∈ storedSites
  · rw [Server.handlePost_accepted history
      (acceptedReading_stored _ _ value sensor.known stored), if_pos stored]
  · rw [Server.handlePost_rejected history
      (acceptedReading_absent _ _ value sensor.known stored), if_neg stored]

/-- The histories before a round and after it. -/
def Round.record (round : Round) (node : Node.State) (history : Server.History) : Server.History :=
  match round.reading with
  | none => history
  | some _ =>
      recordReport history round.sensor
        ((Node.mainLoop node round.reading).roundedAvgTemp.getD round.conversion)

/-- The state of a system whose nodes use no proxy and whose server holds the given histories. -/
structure LinkHolds (nodes : Sensor → Node.State) (history : Server.History) (state : State) :
    Prop where
  nodes : state.nodes = nodes
  consoles : ∀ sensor, (state.consoles sensor).proxied = false
  siteData : state.siteData = Server.siteDataOf history

/-- A round runs the node and extends the history of its sensor. -/
theorem LinkHolds.round {deployment : Deployment} (reaches : Reaches deployment)
    {nodes : Sensor → Node.State} {history : Server.History} {state : State}
    (holds : LinkHolds nodes history state) (round : Round) :
    LinkHolds (Function.update nodes round.sensor
        (Node.mainLoop (nodes round.sensor) round.reading))
      (round.record (nodes round.sensor) history)
      ((system deployment).run state (round.events deployment state)).1 := by
  obtain ⟨sensor, reading, conversion, observed, written⟩ := round
  obtain ⟨rfl, unproxied, siteData⟩ := holds
  cases reading with
  | none =>
      have silent : Round.events deployment state ⟨sensor, none, conversion, observed, written⟩ =
          [.read sensor none conversion ⟨true, observed⟩] := by
        have kept : state.network.drop state.network.length = [] := List.drop_length
        show Event.read sensor none conversion ⟨true, observed⟩ ::
          (state.network.drop state.network.length).map _ = _
        rw [kept]
        rfl
      rw [silent]
      exact ⟨(Function.update_eq_self sensor state.nodes).symm, unproxied, siteData⟩
  | some reading =>
      obtain ⟨console, proxied, result⟩ :=
        readStep_posts reaches sensor (unproxied sensor) reading conversion observed
      let value :=
        (Node.mainLoop (state.nodes sensor) (some reading)).roundedAvgTemp.getD conversion
      let request := reportRequest (Node.payloadText sensor.siteName sensor.sensorId value)
      let next := readStep deployment state sensor reading conversion ⟨true, observed⟩
      have network : next.network = state.network ++ [request] := congrArg State.network result
      have pair : Round.events deployment state
          ⟨sensor, some reading, conversion, observed, written⟩ =
          [.read sensor (some reading) conversion ⟨true, observed⟩, .deliver request written] := by
        show Event.read sensor (some reading) conversion ⟨true, observed⟩ ::
          (next.network.drop state.network.length).map _ = _
        rw [network, List.drop_left]
        rfl
      have carried : request ∈ next.network := by
        rw [network]
        exact List.mem_append_right _ (List.mem_singleton_self request)
      have kept : next.siteData = Server.siteDataOf history :=
        (congrArg State.siteData result).trans siteData
      have delivered := deliverStep_report kept sensor value carried written
      have consoles : ∀ other, (next.consoles other).proxied = false := by
        rw [congrArg State.consoles result]
        exact (Function.forall_update_iff state.consoles fun _ kept => kept.proxied = false).mpr
          ⟨proxied, fun other _ => unproxied other⟩
      have passed : ((system deployment).step state
          (.read sensor (some reading) conversion ⟨true, observed⟩)).1 = next := rfl
      have handled : (system deployment).step next (.deliver request written) =
          deliverStep next request written := rfl
      rw [pair, Machine.run_cons, passed, Machine.run_cons, handled, Machine.run_nil, delivered]
      exact ⟨congrArg State.nodes result, consoles, rfl⟩

/-- The values of the rounds are added to the histories of the stored sites. -/
theorem recordReport_sensor (history : Server.History) (round sensor : Sensor) (value : Int16)
    (stored : sensor.siteName ∈ storedSites) :
    recordReport history round value sensor.siteName sensor.sensorId =
      history sensor.siteName sensor.sensorId ++
        if round = sensor then [value.toInt] else [] := by
  rw [recordReport]
  by_cases same : round = sensor
  · subst same
    rw [if_pos stored, if_pos rfl, Server.History.record, if_pos ⟨rfl, rfl⟩]
  · rw [if_neg same, List.append_nil]
    split
    · rw [Server.History.record, if_neg]
      rintro ⟨site, name⟩
      obtain ⟨siteName, sensorId, known⟩ := sensor
      subst site
      subst name
      exact same rfl
    · rfl

/-- One round adds at most the average of its own node. -/
theorem Round.record_sensor (round : Round) (nodes : Sensor → Node.State)
    (history : Server.History) (rest : List Round) {sensor : Sensor}
    (stored : sensor.siteName ∈ storedSites) :
    round.record (nodes round.sensor) history sensor.siteName sensor.sensorId ++
        averages sensor (Function.update nodes round.sensor
          (Node.mainLoop (nodes round.sensor) round.reading) sensor) rest =
      history sensor.siteName sensor.sensorId ++
        averages sensor (nodes sensor) (round :: rest) := by
  obtain ⟨other, reading, conversion, observed, written⟩ := round
  by_cases same : other = sensor
  · subst same
    rw [averages, if_pos rfl, Function.update_self]
    cases reading with
    | none => rfl
    | some reading =>
        show recordReport history other _ other.siteName other.sensorId ++ _ = _
        rw [recordReport_sensor _ _ _ _ stored, if_pos rfl, List.append_assoc]
        rfl
  · rw [averages, if_neg same, Function.update_of_ne (Ne.symm same)]
    cases reading with
    | none => rfl
    | some reading =>
        show recordReport history other _ sensor.siteName sensor.sensorId ++ _ = _
        rw [recordReport_sensor _ _ _ _ stored, if_neg same, List.append_nil]

/-- A sequence of rounds extends each stored history by the averages of its node. -/
theorem LinkHolds.run {deployment : Deployment} (reaches : Reaches deployment)
    (rounds : List Round) {nodes : Sensor → Node.State} {history : Server.History} {state : State}
    (holds : LinkHolds nodes history state) :
    ∃ final, ((system deployment).run state (linkEvents deployment state rounds)).1.siteData =
        Server.siteDataOf final ∧
      ∀ sensor, sensor.siteName ∈ storedSites → final sensor.siteName sensor.sensorId =
        history sensor.siteName sensor.sensorId ++ averages sensor (nodes sensor) rounds := by
  induction rounds generalizing nodes history state with
  | nil => exact ⟨history, holds.siteData, fun sensor _ => (List.append_nil _).symm⟩
  | cons round rest ih =>
      obtain ⟨final, siteData, later⟩ := ih (holds.round reaches round)
      refine ⟨final, ?_, fun sensor stored => ?_⟩
      · rw [linkEvents, Machine.run_append]
        exact siteData
      · rw [later sensor stored, round.record_sensor nodes history rest stored]

/-- Boards with room for 128 bytes whose first reads succeed. -/
def labDeployment : Deployment where
  stack := Coap.labStack
  room _ := 128
  serverIp := "2001:db8::1".toList
  batchingServer := ⟨none, none⟩
  batchingRoom _ := 128
  initialTemp _ := some 2000

theorem labDeployment_reaches : Reaches labDeployment where
  address := by decide
  endpoint := by decide
  room _ short := short.le

/-- A sensor in Saclay. -/
def saclaySensor : Sensor := ⟨"saclay", "1", by decide⟩

end DataStreamPilot.Pipeline
