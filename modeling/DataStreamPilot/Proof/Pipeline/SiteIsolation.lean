/-
This file proves that the server's view of a site depends on the nodes of that site only.
The two runs of the proof differ by the events of all other programs.
-/

import DataStreamPilot.Proof.Pipeline.Provenance

namespace DataStreamPilot.Pipeline

open Library

/-- The events that concern a site are the passes of its nodes and all deliveries. -/
def Event.concerns (siteName : String) : Event → Bool
  | .read sensor _ _ _ => decide (sensor.siteName = siteName)
  | .batch _ _ _ => false
  | .testClient _ => false
  | .deliver _ _ => true

/-- The server accepts the request as a reading of the site. -/
def Concerns (siteName : String) (request : Coap.Request) : Prop :=
  ∃ accepted, Server.acceptedReading (Server.payloadBytes request.payload) = some accepted ∧
    accepted.siteName = siteName

/-- A report of a node concerns at most the site of the node. -/
theorem siteName_of_concerns {sensor : Sensor} {value : Int16} {siteName : String}
    {request : Coap.Request} (concerns : Concerns siteName request)
    (payload : request.payload = Node.payloadText sensor.siteName sensor.sensorId value) :
    sensor.siteName = siteName := by
  obtain ⟨accepted, reads, own⟩ := concerns
  rw [payload, payloadBytes_payloadText] at reads
  by_cases stored : sensor.siteName ∈ storedSites
  · rw [acceptedReading_stored _ _ _ sensor.known stored] at reads
    rw [← own, ← Option.some.inj reads]
  · rw [acceptedReading_absent _ _ _ sensor.known stored] at reads
    cases reads

/-- Two states of the system that agree about one site. -/
structure Isolated (deployment : Deployment) (siteName : String) (state other : State) : Prop where
  described : ∃ events, SystemHolds deployment events state
  nodes : ∀ sensor, sensor.siteName = siteName → state.nodes sensor = other.nodes sensor
  consoles : ∀ sensor, sensor.siteName = siteName → state.consoles sensor = other.consoles sensor
  network : ∀ request, Concerns siteName request →
    (request ∈ state.network ↔ request ∈ other.network)
  histories : ∃ history otherHistory, state.siteData = Server.siteDataOf history ∧
    other.siteData = Server.siteDataOf otherHistory ∧ history siteName = otherHistory siteName

theorem start_isolated (deployment : Deployment) (siteName : String) :
    Isolated deployment siteName (start deployment) (start deployment) where
  described := ⟨[], start_holds deployment⟩
  nodes _ _ := rfl
  consoles _ _ := rfl
  network _ _ := Iff.rfl
  histories := ⟨Server.acceptedReadings [], _, rfl, rfl, rfl⟩

/-- Requests that do not concern the site make no difference. -/
theorem Isolated.network_append {deployment : Deployment} {siteName : String}
    {state other : State} (isolated : Isolated deployment siteName state other)
    {requests : List Coap.Request}
    (foreign : ∀ request ∈ requests, ¬ Concerns siteName request) (request : Coap.Request)
    (concerns : Concerns siteName request) :
    request ∈ state.network ++ requests ↔ request ∈ other.network := by
  rw [List.mem_append, isolated.network request concerns]
  exact or_iff_left fun member => foreign request member concerns

/-- A pass of a node changes two states that agree about its site in the same way. -/
theorem Isolated.readStep {deployment : Deployment} {state other : State} (sensor : Sensor)
    (isolated : Isolated deployment sensor.siteName state other) (reading conversion : Int16)
    (transmission : Coap.Transmission) :
    Isolated deployment sensor.siteName
      (readStep deployment state sensor reading conversion transmission)
      (readStep deployment other sensor reading conversion transmission) := by
  obtain ⟨events, holds⟩ := isolated.described
  have described := holds.readStep sensor reading conversion transmission
  obtain ⟨console, requests, _, _, result⟩ := readStep_eq deployment sensor (state.nodes sensor)
    (holds.consoles sensor) reading conversion transmission
  have mine := result state rfl rfl
  have theirs := result other (isolated.nodes sensor rfl).symm (isolated.consoles sensor rfl).symm
  rw [mine] at described ⊢
  rw [theirs]
  refine ⟨⟨_, described⟩, fun node own => ?_, fun node own => ?_, fun request concerns => ?_,
    isolated.histories⟩
  · by_cases same : node = sensor
    · obtain rfl := same
      simp only [Function.update_self]
    · simp only [Function.update_of_ne same, isolated.nodes node own]
  · by_cases same : node = sensor
    · obtain rfl := same
      simp only [Function.update_self]
    · simp only [Function.update_of_ne same, isolated.consoles node own]
  · rw [List.mem_append, List.mem_append, isolated.network request concerns]

/-- A pass of a node makes no difference to another site. -/
theorem Isolated.readStep_hidden {deployment : Deployment} {siteName : String}
    {state other : State} (isolated : Isolated deployment siteName state other) {sensor : Sensor}
    (foreign : sensor.siteName ≠ siteName) (reading conversion : Int16)
    (transmission : Coap.Transmission) :
    Isolated deployment siteName
      (Pipeline.readStep deployment state sensor reading conversion transmission) other := by
  obtain ⟨events, holds⟩ := isolated.described
  have described := holds.readStep sensor reading conversion transmission
  obtain ⟨console, requests, _, carries, result⟩ := readStep_eq deployment sensor
    (state.nodes sensor) (holds.consoles sensor) reading conversion transmission
  rw [result state rfl rfl] at described ⊢
  have different (node : Sensor) (own : node.siteName = siteName) : node ≠ sensor :=
    fun same => foreign (same ▸ own)
  refine ⟨⟨_, described⟩, fun node own => ?_, fun node own => ?_,
    isolated.network_append fun request member concerns =>
      foreign (siteName_of_concerns concerns (carries request member)), isolated.histories⟩
  · simp only [Function.update_of_ne (different node own), isolated.nodes node own]
  · simp only [Function.update_of_ne (different node own), isolated.consoles node own]

/-- A round of a batching node makes no difference to any site. -/
theorem Isolated.batchStep_hidden {deployment : Deployment} {siteName : String}
    {state other : State} (isolated : Isolated deployment siteName state other) (place : String)
    (temp : Int16) (accepted : Bool) :
    Isolated deployment siteName (batchStep deployment state place temp accepted) other := by
  obtain ⟨events, holds⟩ := isolated.described
  have described := holds.batchStep place temp accepted
  obtain ⟨node, console, requests, result, _, messages⟩ :=
    batchStep_eq deployment (holds.batching place) temp accepted
  rw [result] at described ⊢
  refine ⟨⟨_, described⟩, isolated.nodes, isolated.consoles,
    isolated.network_append fun request member concerns => ?_, isolated.histories⟩
  obtain ⟨code, payload⟩ := messages request member
  obtain ⟨accepted, reads, _⟩ := concerns
  rw [payload, Server.acceptedReading, readReport_message] at reads
  cases reads

/-- A request of the test client makes no difference to any site. -/
theorem Isolated.testClient_hidden {deployment : Deployment} {siteName : String}
    {state other : State} (isolated : Isolated deployment siteName state other)
    (values : List ℤ) :
    Isolated deployment siteName
      { state with network := state.network ++ [Client.request values] } other := by
  obtain ⟨events, holds⟩ := isolated.described
  refine ⟨⟨_, holds.step (.testClient values)⟩, isolated.nodes, isolated.consoles,
    isolated.network_append fun request member concerns => ?_, isolated.histories⟩
  obtain rfl := List.mem_singleton.mp member
  obtain ⟨accepted, reads, _⟩ := concerns
  rw [Client.request, Server.acceptedReading, readReport_clientPayload] at reads
  cases reads

/-- What a delivery does to the history of a state. -/
structure Delivers (state : State) (request : Coap.Request) (written : Bool)
    (history next : Server.History) (points : List Server.Point) : Prop where
  result : deliverStep state request written =
    ({ state with siteData := Server.siteDataOf next }, points)
  reached : request ∈ state.network ∧ Server.reachesTemperature request = true →
    (next, points) = Server.storeStep history ⟨Server.payloadBytes request.payload, written⟩
  missed : ¬ (request ∈ state.network ∧ Server.reachesTemperature request = true) →
    (next, points) = (history, [])

theorem exists_delivers {state : State} {history : Server.History}
    (same : state.siteData = Server.siteDataOf history) (request : Coap.Request) (written : Bool) :
    ∃ next points, Delivers state request written history next points := by
  by_cases reached : request ∈ state.network ∧ Server.reachesTemperature request = true
  · let delivery : Server.Delivery := ⟨Server.payloadBytes request.payload, written⟩
    refine ⟨(Server.storeStep history delivery).1, (Server.storeStep history delivery).2,
      ?_, fun _ => rfl, fun missed => absurd reached missed⟩
    have handled := Server.handler_step history delivery
    simp only [Server.handler, Prod.mk.injEq] at handled
    rw [deliverStep, if_pos reached.1, Server.handleRequest, if_pos reached.2, same]
    simp only [delivery, ← handled.1, ← handled.2]
  · refine ⟨history, [], ?_, fun both => absurd both reached, fun _ => rfl⟩
    rw [← same, deliverStep]
    split
    · rename_i carried
      rw [Server.handleRequest, if_neg fun reaches => reached ⟨carried, reaches⟩]
    · rfl

/-- The points about one site. -/
def aboutSite (siteName : String) (point : Server.Point) : Bool :=
  decide (point.measurement = siteName)

/-- A request that does not concern the site changes nothing about it. -/
theorem Delivers.hidden {state : State} {request : Coap.Request} {written : Bool}
    {history next : Server.History} {points : List Server.Point}
    (delivers : Delivers state request written history next points) {siteName : String}
    (foreign : ¬ Concerns siteName request) :
    next siteName = history siteName ∧ points.filter (aboutSite siteName) = [] := by
  by_cases reached : request ∈ state.network ∧ Server.reachesTemperature request = true
  · have stored := delivers.reached reached
    obtain ⟨rfl, rfl⟩ := Prod.mk.inj stored
    exact Server.storeStep_other history fun accepted reads own => foreign ⟨accepted, reads, own⟩
  · obtain ⟨rfl, rfl⟩ := Prod.mk.inj (delivers.missed reached)
    exact ⟨rfl, rfl⟩

/-- One event of the system and the same event without the other sites. -/
theorem Isolated.deliverStep {deployment : Deployment} {siteName : String} {state other : State}
    (isolated : Isolated deployment siteName state other) (request : Coap.Request)
    (written : Bool) :
    Isolated deployment siteName (deliverStep state request written).1
        (deliverStep other request written).1 ∧
      (deliverStep state request written).2.filter (aboutSite siteName) =
        (deliverStep other request written).2.filter (aboutSite siteName) := by
  obtain ⟨events, holds⟩ := isolated.described
  have described := holds.step (.deliver request written)
  obtain ⟨history, otherHistory, same, otherSame, agree⟩ := isolated.histories
  obtain ⟨next, points, mine⟩ := exists_delivers same request written
  obtain ⟨otherNext, otherPoints, theirs⟩ := exists_delivers otherSame request written
  have outcome : next siteName = otherNext siteName ∧
      points.filter (aboutSite siteName) = otherPoints.filter (aboutSite siteName) := by
    by_cases concerns : Concerns siteName request
    · have carried := isolated.network request concerns
      by_cases reached : request ∈ state.network ∧ Server.reachesTemperature request = true
      · obtain ⟨rfl, rfl⟩ := Prod.mk.inj (mine.reached reached)
        obtain ⟨rfl, rfl⟩ := Prod.mk.inj (theirs.reached ⟨carried.mp reached.1, reached.2⟩)
        obtain ⟨accepted, reads, own⟩ := concerns
        let delivery : Server.Delivery := ⟨Server.payloadBytes request.payload, written⟩
        have accepts : Server.acceptedReading delivery.payload = some accepted := reads
        have stored := Server.storeStep_own agree accepts own
        exact ⟨stored.1, congrArg _ stored.2⟩
      · obtain ⟨rfl, rfl⟩ := Prod.mk.inj (mine.missed reached)
        obtain ⟨rfl, rfl⟩ := Prod.mk.inj (theirs.missed fun both =>
          reached ⟨carried.mpr both.1, both.2⟩)
        exact ⟨agree, rfl⟩
    · obtain ⟨kept, silent⟩ := mine.hidden concerns
      obtain ⟨otherKept, otherSilent⟩ := theirs.hidden concerns
      exact ⟨kept.trans (agree.trans otherKept.symm), silent.trans otherSilent.symm⟩
  change SystemHolds deployment _ (Pipeline.deliverStep state request written).1 at described
  rw [mine.result] at described ⊢
  rw [theirs.result]
  exact ⟨⟨⟨_, described⟩, isolated.nodes, isolated.consoles, isolated.network,
    next, otherNext, rfl, rfl, outcome.1⟩, outcome.2⟩

/-- The system with the points about one site. -/
def siteSystem (deployment : Deployment) (siteName : String) :
    Machine State Event Server.Point :=
  (system deployment).filterOutputs (aboutSite siteName)

/-- Each event is matched by the same event, or by nothing when it does not concern the site. -/
theorem Isolated.step {deployment : Deployment} {siteName : String} (state other : State)
    (event : Event) (isolated : Isolated deployment siteName state other) :
    Isolated deployment siteName ((siteSystem deployment siteName).step state event).1
        ((siteSystem deployment siteName).run other
          ([event].filter (Event.concerns siteName))).1 ∧
      ((siteSystem deployment siteName).step state event).2 =
        ((siteSystem deployment siteName).run other
          ([event].filter (Event.concerns siteName))).2 := by
  cases event with
  | read sensor reading conversion transmission =>
      cases reading with
      | none =>
          have silent : (siteSystem deployment siteName).run other
              ([Event.read sensor none conversion transmission].filter
                (Event.concerns siteName)) = (other, []) := by
            by_cases own : sensor.siteName = siteName
            · rw [List.filter_singleton, Event.concerns, decide_eq_true own]
              rfl
            · rw [List.filter_singleton, Event.concerns, decide_eq_false own]
              rfl
          rw [silent]
          exact ⟨isolated, rfl⟩
      | some reading =>
          by_cases own : sensor.siteName = siteName
          · obtain rfl := own
            rw [List.filter_singleton, Event.concerns, decide_eq_true rfl]
            exact ⟨isolated.readStep sensor reading conversion transmission, rfl⟩
          · rw [List.filter_singleton, Event.concerns, decide_eq_false own]
            exact ⟨isolated.readStep_hidden own reading conversion transmission, rfl⟩
  | batch place temp accepted => exact ⟨isolated.batchStep_hidden place temp accepted, rfl⟩
  | testClient values => exact ⟨isolated.testClient_hidden values, rfl⟩
  | deliver request written =>
      obtain ⟨next, same⟩ := isolated.deliverStep request written
      rw [List.filter_singleton, Event.concerns, cond_true, Machine.run_cons, Machine.run_nil,
        List.append_nil]
      exact ⟨next, same⟩

/-- The two runs agree about the site. -/
theorem run_agrees (deployment : Deployment) (events : List Event) (siteName : String) :
    Isolated deployment siteName (run deployment events).1
        (run deployment (events.filter (Event.concerns siteName))).1 ∧
      (run deployment events).2.filter (aboutSite siteName) =
        (run deployment (events.filter (Event.concerns siteName))).2.filter
          (aboutSite siteName) := by
  have simulated := Machine.run_simulation Isolated.step (start_isolated deployment siteName) events
  rwa [Machine.run_observe_filter, siteSystem, Machine.run_filterOutputs,
    Machine.run_filterOutputs] at simulated

/-- A run with the events of one site writes points about that site only. -/
theorem point_aboutSite {deployment : Deployment} {events : List Event} {siteName : String}
    {point : Server.Point}
    (member : point ∈ (run deployment (events.filter (Event.concerns siteName))).2) :
    aboutSite siteName point = true := by
  obtain ⟨past, request, accepted, within, _, arrived, reads, rfl⟩ := point_of_run member
  have recorded := Server.mem_acceptedReadings_iff.mpr ⟨_, arrived, reads⟩
  obtain ⟨_, sensor, _, place, _, ⟨before, reading, conversion, transmission, reported, _⟩, _⟩ :=
    reported_of_history recorded
  have event : Event.read sensor (some reading) conversion transmission ∈ past :=
    reported.subset (List.mem_append_right _ (List.mem_singleton_self _))
  have own := (List.mem_filter.mp (within.subset event)).2
  rw [Event.concerns, place] at own
  exact own

/-- Erasing all events of the other sites, of the batching nodes and of the test clients changes
nothing about a site. Its buffers are the same, and its points are those of the erased run. -/
theorem run_isolated (deployment : Deployment) (events : List Event) (siteName : String) :
    (∀ sensorId,
      Server.sensorEntry (run deployment events).1.siteData siteName sensorId =
        Server.sensorEntry
          (run deployment (events.filter (Event.concerns siteName))).1.siteData
          siteName sensorId) ∧
    (run deployment events).2.filter (aboutSite siteName) =
      (run deployment (events.filter (Event.concerns siteName))).2 := by
  obtain ⟨isolated, points⟩ := run_agrees deployment events siteName
  refine ⟨fun sensorId => ?_, ?_⟩
  · obtain ⟨history, otherHistory, same, otherSame, agree⟩ := isolated.histories
    rw [same, otherSame, Server.siteDataOf, Server.siteDataOf, Server.sensorEntry_siteDataFrom,
      Server.sensorEntry_siteDataFrom, agree]
  · rw [points]
    exact List.filter_eq_self.mpr fun point member => point_aboutSite member

end DataStreamPilot.Pipeline
