/-
This file proves where the contents of the server come from in every run of the whole system.
The network may lose, repeat and reorder the reports of the nodes.
-/

import DataStreamPilot.Proof.Pipeline.Traffic
import DataStreamPilot.Proof.Node.EmptiedWindow
import DataStreamPilot.Proof.Server.Database
import DataStreamPilot.Proof.Server.RecordedValue

namespace DataStreamPilot.Pipeline

open Library

/-- The delivery that an event makes to the handler of the server. -/
def deliveriesOf (state : State) : Event → List Server.Delivery
  | .deliver request written =>
      if request ∈ state.network ∧ Server.reachesTemperature request then
        [⟨Server.payloadBytes request.payload, written⟩]
      else []
  | _ => []

/-- The deliveries of a run. -/
def deliveries (deployment : Deployment) (events : List Event) : List Server.Delivery :=
  (((system deployment).observe deliveriesOf).run (start deployment) events).2

/-- The requests that the handler of the server gets in a run. -/
def delivered (deployment : Deployment) (events : List Event) : List ByteArray :=
  (deliveries deployment events).map Server.Delivery.payload

/-- Only the deliveries of an event change the buffers and the database. -/
theorem step_siteData (deployment : Deployment) (state : State) (siteData : Server.SiteData)
    (event : Event) (same : state.siteData = siteData) :
    ((system deployment).step state event).1.siteData =
        (Server.handler.run siteData (deliveriesOf state event)).1 ∧
      ((system deployment).step state event).2 =
        (Server.handler.run siteData (deliveriesOf state event)).2 := by
  subst same
  cases event with
  | read sensor reading conversion transmission =>
      cases reading with
      | none => exact ⟨rfl, rfl⟩
      | some reading =>
          refine ⟨?_, rfl⟩
          show (readStep deployment state sensor reading conversion transmission).siteData = _
          unfold readStep
          dsimp only
          split <;> rfl
  | batch siteName temp accepted =>
      refine ⟨?_, rfl⟩
      show (batchStep deployment state siteName temp accepted).siteData = _
      unfold batchStep
      dsimp only
      split <;> rfl
  | testClient values => exact ⟨rfl, rfl⟩
  | deliver request written =>
      show (deliverStep state request written).1.siteData = _ ∧
        (deliverStep state request written).2 = _
      by_cases carried : request ∈ state.network
      · by_cases reaches : Server.reachesTemperature request = true
        · have reached : deliveriesOf state (.deliver request written) =
              [⟨Server.payloadBytes request.payload, written⟩] := if_pos ⟨carried, reaches⟩
          rw [reached, Machine.run_cons, Machine.run_nil, List.append_nil, deliverStep,
            if_pos carried, Server.handleRequest, if_pos reaches]
          exact ⟨rfl, rfl⟩
        · have missed : deliveriesOf state (.deliver request written) = [] :=
            if_neg fun both => reaches both.2
          rw [missed, deliverStep, if_pos carried, Server.handleRequest, if_neg reaches]
          exact ⟨rfl, rfl⟩
      · have missed : deliveriesOf state (.deliver request written) = [] :=
          if_neg fun both => carried both.1
        rw [missed, deliverStep, if_neg carried]
        exact ⟨rfl, rfl⟩

/-- The server of a run is the abstract store of the deliveries. -/
theorem run_siteData (deployment : Deployment) (events : List Event) :
    (run deployment events).1.siteData =
        Server.siteDataOf (Server.acceptedReadings (delivered deployment events)) ∧
      (run deployment events).2 =
        (Server.store.run (Server.acceptedReadings []) (deliveries deployment events)).2 := by
  have simulated : (run deployment events).1.siteData = (Server.handler.run
      (Server.siteDataOf (Server.acceptedReadings [])) (deliveries deployment events)).1 ∧
      (run deployment events).2 = (Server.handler.run
        (Server.siteDataOf (Server.acceptedReadings [])) (deliveries deployment events)).2 :=
    Machine.run_simulation (step_siteData deployment) rfl events
  rw [Server.handler_run, Server.store_history] at simulated
  exact simulated

/-- A delivered request was carried when it was delivered. -/
theorem carried_of_delivered {deployment : Deployment} {events : List Event} {payload : ByteArray}
    (member : payload ∈ delivered deployment events) :
    ∃ request, Carried deployment events request ∧
      Server.payloadBytes request.payload = payload := by
  obtain ⟨delivery, inside, rfl⟩ := List.mem_map.mp member
  obtain ⟨earlier, event, within, emitted⟩ :=
    (Machine.mem_run_outputs_iff (start deployment) events delivery).mp inside
  rw [Machine.run_observe] at emitted
  have holds := run_holds deployment earlier
  cases event with
  | deliver request written =>
      change delivery ∈ if _ then _ else _ at emitted
      split at emitted
      · rename_i reached
        obtain rfl := List.mem_singleton.mp emitted
        refine ⟨request, ?_, rfl⟩
        exact (holds.network request reached.1).mono ((List.prefix_append _ _).trans within)
      · cases emitted
  | _ => cases emitted

/-- The sites for which the server has buffers. -/
def storedSites : List String := ["grenoble", "saclay", "strasbourg"]

/-- Every reading of a history was reported by the node of that very site and sensor. -/
theorem reported_of_history {deployment : Deployment} {events : List Event}
    {siteName sensorId : String} {value : ℤ}
    (member : value ∈ Server.acceptedReadings (delivered deployment events) siteName sensorId) :
    siteName ∈ storedSites ∧ ∃ sensor reported, sensor.siteName = siteName ∧
      sensor.sensorId = sensorId ∧ Reported deployment events sensor reported ∧
      reported.toInt = value := by
  obtain ⟨payload, inside, reads⟩ := Server.mem_acceptedReadings_iff.mp member
  obtain ⟨request, carried, rfl⟩ := carried_of_delivered inside
  rcases carried with ⟨sensor, reported, formed, same⟩ | refused
  · rw [same] at reads
    by_cases stored : sensor.siteName ∈ storedSites
    · rw [acceptedReading_stored _ _ _ sensor.known stored] at reads
      obtain ⟨rfl, rfl, rfl⟩ := Server.Accepted.mk.inj (Option.some.inj reads)
      exact ⟨stored, sensor, reported, rfl, rfl, formed, rfl⟩
    · rw [acceptedReading_absent _ _ _ sensor.known stored] at reads
      cases reads
  · rw [refused] at reads
    cases reads

/-- A slot of a buffer holds the placeholder or a reading of its history. -/
theorem bufferOf_slot (readings : List ℤ) (slot : Fin Server.windowSize) :
    (Server.bufferOf readings).values.get slot = 0 ∨
      (Server.bufferOf readings).values.get slot ∈ readings := by
  have held := RingBuffer.pushAll_slot (by decide : 0 < Server.windowSize) (0 : ℤ) readings
    slot.val slot.isLt
  rw [Vector.getElem?_eq_getElem slot.isLt] at held
  rcases held with ⟨_, untouched⟩ | ⟨back, _, _, _, pushed⟩
  · exact Or.inl (Option.some.inj untouched)
  · exact Or.inr (List.mem_of_getElem? pushed.symm)

/-- In every run the server has the buffers of the start, and each slot of a buffer is the
placeholder or an average that the node of that very site and sensor has reported. -/
theorem run_slots (deployment : Deployment) (events : List Event) :
    (∀ siteName sensorId,
      (Server.sensorEntry (run deployment events).1.siteData siteName sensorId).isSome =
        Server.hasSensor siteName sensorId) ∧
    ∀ siteName sensorId, ∀ buffer ∈
      Server.sensorEntry (run deployment events).1.siteData siteName sensorId,
      ∀ slot, buffer.values.get slot = 0 ∨
        siteName ∈ storedSites ∧ ∃ sensor reported, sensor.siteName = siteName ∧
          sensor.sensorId = sensorId ∧ Reported deployment events sensor reported ∧
          reported.toInt = buffer.values.get slot := by
  rw [(run_siteData deployment events).1, Server.siteDataOf]
  refine ⟨fun siteName sensorId => ?_, fun siteName sensorId buffer found slot => ?_⟩
  · rw [Server.sensorEntry_siteDataFrom, Option.isSome_map, Server.hasSensor]
  · rw [Server.sensorEntry_siteDataFrom, Option.mem_def, Option.map_eq_some_iff] at found
    obtain ⟨_, _, rfl⟩ := found
    rcases bufferOf_slot _ slot with empty | held
    · exact Or.inl empty
    · exact Or.inr (reported_of_history held)

/-- A value that a node of a site has read, or its initial temperature. -/
inductive ReadBy (deployment : Deployment) (events : List Event) (siteName : String) :
    Int16 → Prop where
  | initial (sensor : Sensor) (own : sensor.siteName = siteName) :
      ReadBy deployment events siteName (Node.initialTemp (deployment.initialTemp sensor))
  | reading (sensor : Sensor) (own : sensor.siteName = siteName) (value : Int16)
      (member : some value ∈ readsOf sensor events) : ReadBy deployment events siteName value

/-- The value of a cast for which a node of a site had no defined average. -/
def Converted (deployment : Deployment) (events : List Event) (siteName : String)
    (value : Int16) : Prop :=
  ∃ sensor earlier reading transmission, sensor.siteName = siteName ∧
    earlier ++ [.read sensor (some reading) value transmission] <+: events ∧
    (Node.run (Node.initialTemp (deployment.initialTemp sensor))
      (readsOf sensor earlier ++ [some reading])).roundedAvgTemp = none

/-- What bounds a reported average. -/
def Source (deployment : Deployment) (events : List Event) (siteName : String)
    (value : Int16) : Prop :=
  ReadBy deployment events siteName value ∨ Converted deployment events siteName value

/-- The nodes of a site have never had an average that is not a number. -/
def SiteDefined (deployment : Deployment) (events : List Event) (siteName : String) : Prop :=
  ∀ sensor : Sensor, sensor.siteName = siteName →
    Node.AveragesDefined (Node.initialTemp (deployment.initialTemp sensor)) (readsOf sensor events)

/-- The reads of a node up to one of its steps are a prefix of its reads. -/
theorem readsOf_step {sensor : Sensor} {earlier events : List Event} {reading conversion : Int16}
    {transmission : Coap.Transmission}
    (within : earlier ++ [.read sensor (some reading) conversion transmission] <+: events) :
    readsOf sensor earlier ++ [some reading] <+: readsOf sensor events := by
  have own : readsOf sensor [.read sensor (some reading) conversion transmission] =
      [some reading] := List.filterMap_cons_some (if_pos rfl)
  obtain ⟨later, rfl⟩ := within
  refine ⟨readsOf sensor later, ?_⟩
  rw [← own, ← readsOf_concat]
  exact List.filterMap_append.symm

/-- Without an undefined average every source has been read. -/
theorem Source.readBy {deployment : Deployment} {events : List Event} {siteName : String}
    (defined : SiteDefined deployment events siteName) {value : Int16}
    (source : Source deployment events siteName value) :
    ReadBy deployment events siteName value := by
  rcases source with known | ⟨sensor, earlier, reading, transmission, own, within, undefined⟩
  · exact known
  · obtain ⟨_, _, rounded, average⟩ := defined sensor own _ reading (readsOf_step within)
    rw [undefined] at average
    cases average

/-- A recent reading of a node has been read at its site. -/
theorem readBy_of_recent {deployment : Deployment} {events : List Event} {sensor : Sensor}
    {reads : List (Option Int16)} (within : reads <+: readsOf sensor events) {value : Int16}
    (recent : value ∈ Node.recentReadings (Node.initialTemp (deployment.initialTemp sensor))
      reads.reduceOption) : ReadBy deployment events sensor.siteName value := by
  rcases List.mem_append.mp recent with read | initial
  · have member := List.reduceOption_mem_iff.mp (List.mem_of_mem_drop read)
    exact .reading sensor rfl value (within.subset member)
  · split at initial
    · obtain rfl := List.mem_singleton.mp initial
      exact .initial sensor rfl
    · cases initial

/-- A reported average lies between two sources of its site. -/
theorem Reported.between {deployment : Deployment} {events : List Event} {sensor : Sensor}
    {value : Int16} (reported : Reported deployment events sensor value) :
    ∃ low high, Source deployment events sensor.siteName low ∧
      Source deployment events sensor.siteName high ∧
      low.toInt ≤ value.toInt ∧ value.toInt ≤ high.toInt := by
  obtain ⟨earlier, reading, conversion, transmission, within, rfl⟩ := reported
  let initialTemp := Node.initialTemp (deployment.initialTemp sensor)
  let reads := readsOf sensor earlier ++ [some reading]
  have average := Node.acceptedRun_avgTemp initialTemp (readsOf sensor earlier) reading
  have rounding := Node.acceptedRun_roundedAvgTemp initialTemp (readsOf sensor earlier) reading
  rcases (Node.nonZeroSlots (Node.run initialTemp reads).tempList).eq_empty_or_nonempty
    with empty | counted
  · have undefined : (Node.run initialTemp reads).roundedAvgTemp = none := by
      rw [rounding, average, Node.calculateAverage_of_empty _ empty]
      rfl
    have source : Source deployment events sensor.siteName conversion :=
      Or.inr ⟨sensor, earlier, reading, transmission, rfl, within, undefined⟩
    rw [undefined, Option.getD_none]
    exact ⟨conversion, conversion, source, source, le_rfl, le_rfl⟩
  · obtain ⟨_, rounded, _, isRounded, _, ⟨low, lowCounted, lower⟩, high, highCounted, upper⟩ :=
      Node.calculateAverage_between _ counted
    have source (i : Fin Node.windowSize)
        (inside : i ∈ Node.nonZeroSlots (Node.run initialTemp reads).tempList) :
        Source deployment events sensor.siteName ((Node.run initialTemp reads).tempList.get i) :=
      Or.inl (readBy_of_recent (readsOf_step within)
        (Node.tempList_mem_recentReadings initialTemp reads i
          ((Node.mem_nonZeroSlots _ i).mp inside)))
    rw [rounding, average, isRounded, Option.getD_some]
    exact ⟨_, _, source low lowCounted, source high highCounted, lower, upper⟩

/-- The deliveries of the last event of a run. -/
theorem deliveries_concat (deployment : Deployment) (events : List Event) (event : Event) :
    deliveries deployment (events ++ [event]) =
      deliveries deployment events ++ deliveriesOf (run deployment events).1 event := by
  rw [deliveries, Machine.run_concat, Machine.run_observe]
  rfl

/-- A point of the database is written by one delivery. It shows the history of the site of this
delivery right after it. -/
theorem point_of_run {deployment : Deployment} {events : List Event} {point : Server.Point}
    (member : point ∈ (run deployment events).2) :
    ∃ past request accepted, past <+: events ∧ past.getLast? = some (.deliver request true) ∧
      Server.payloadBytes request.payload ∈ delivered deployment past ∧
      Server.acceptedReading (Server.payloadBytes request.payload) = some accepted ∧
      point = (Server.acceptedReadings (delivered deployment past)).point accepted.siteName := by
  obtain ⟨earlier, event, within, emitted⟩ :=
    (Machine.mem_run_outputs_iff (start deployment) events point).mp member
  have written := (step_siteData deployment (run deployment earlier).1 _ event
    (run_siteData deployment earlier).1).2
  change point ∈ ((system deployment).step (run deployment earlier).1 event).2 at emitted
  rw [written, Server.handler_run] at emitted
  have grown := deliveries_concat deployment earlier event
  cases event with
  | deliver request stored =>
      change deliveries _ _ = _ ++ if _ then _ else _ at grown
      change point ∈ (Server.store.run _ (if _ then _ else _)).2 at emitted
      split at emitted
      · rename_i reached
        rw [if_pos reached] at grown
        rw [Machine.run_cons, Machine.run_nil, List.append_nil] at emitted
        obtain ⟨accepted, reads, rfl, same⟩ := Server.mem_storeStep_points emitted
        have all : delivered deployment (earlier ++ [.deliver request true]) =
            delivered deployment earlier ++ [Server.payloadBytes request.payload] := by
          rw [delivered, grown, List.map_append]
          rfl
        refine ⟨_, request, accepted, within, List.getLast?_concat, ?_, reads, ?_⟩
        · rw [all]
          exact List.mem_append_right _ (List.mem_singleton_self _)
        · rw [all]
          exact same
      · cases emitted
  | _ => cases emitted

/-- What the filter can show for a site: a known value, or the placeholder while a sensor of the
site has had fewer than two accepted reports. -/
inductive Shown (known : Int16 → Prop) (history : Server.History) (siteName : String) :
    ℤ → Prop where
  | known (value : Int16) (holds : known value) : Shown known history siteName value.toInt
  | placeholder (sensor : Fin 3)
      (few : (history siteName (Server.sensorKey sensor)).length < 2) :
      Shown known history siteName 0

/-- The last slot of a sensor lies between two values that the filter can show. -/
theorem lastValues_between (deployment : Deployment) (events : List Event) (siteName : String)
    (sensor : Fin 3) :
    ∃ low high,
      Shown (Source deployment events siteName)
        (Server.acceptedReadings (delivered deployment events)) siteName low ∧
      Shown (Source deployment events siteName)
        (Server.acceptedReadings (delivered deployment events)) siteName high ∧
      low ≤ Server.lastValues (Server.acceptedReadings (delivered deployment events)) siteName
        sensor ∧
      Server.lastValues (Server.acceptedReadings (delivered deployment events)) siteName sensor ≤
        high := by
  let readings := Server.acceptedReadings (delivered deployment events) siteName
    (Server.sensorKey sensor)
  rcases Nat.lt_or_ge readings.length 2 with few | two
  · have empty : Server.lastValues (Server.acceptedReadings (delivered deployment events))
        siteName sensor = 0 := Server.bufferOf_last_short readings few
    rw [empty]
    exact ⟨0, 0, .placeholder sensor few, .placeholder sensor few, le_rfl, le_rfl⟩
  · have held := List.mem_of_getElem? (Server.bufferOf_last readings two)
    obtain ⟨_, node, reported, rfl, _, formed, same⟩ := reported_of_history held
    obtain ⟨low, high, lowSource, highSource, lower, upper⟩ := formed.between
    rw [same] at lower upper
    exact ⟨_, _, .known low lowSource, .known high highSource, lower, upper⟩

/-- The mean of the readings that pass is NaN, or it lies between two of the readings. -/
theorem npMean_correctValues (readings : Fin 3 → ℤ) :
    (Server.npMean (Server.correctValues readings Server.zThreshold) = .nan ∧
      readings 0 = readings 1 ∧ readings 1 = readings 2) ∨
    ∃ number, Server.npMean (Server.correctValues readings Server.zThreshold) = .real number ∧
      (∃ sensor, (readings sensor : ℚ) ≤ number) ∧ ∃ sensor, number ≤ readings sensor := by
  by_cases empty : Server.correctValues readings Server.zThreshold = []
  · left
    refine ⟨?_, (Server.correctValues_eq_nil_iff readings).mp empty⟩
    rw [empty]
    rfl
  · right
    refine ⟨_, Server.npMean_of_ne_nil empty, ?_⟩
    have read (entry : ℚ) (member : entry ∈ (Server.correctValues readings Server.zThreshold).map
        fun reading : ℤ => (reading : ℚ)) : ∃ sensor, (readings sensor : ℚ) = entry := by
      obtain ⟨reading, inside, rfl⟩ := List.mem_map.mp member
      rw [Server.correctValues_eq] at inside
      obtain ⟨sensor, rfl⟩ := List.mem_ofFn.mp (List.mem_of_mem_filter inside)
      exact ⟨sensor, rfl⟩
    obtain ⟨⟨low, lowMember, below⟩, high, highMember, above⟩ := Server.npMean_withinRange empty
    obtain ⟨lowSensor, rfl⟩ := read low lowMember
    obtain ⟨highSensor, rfl⟩ := read high highMember
    exact ⟨⟨lowSensor, below⟩, highSensor, above⟩

/-- What the database holds about a site: NaN when the filter shows three equal values, else a
number of degrees between two values that it can show. -/
def DegreesBetween (known : Int16 → Prop) (history : Server.History) (siteName : String) :
    ExactFloat → Prop
  | .nan => ∃ shown, Server.lastValues history siteName = fun _ => shown
  | .infinity _ => False
  | .real degrees => ∃ low high, Shown known history siteName low ∧
      Shown known history siteName high ∧ (low : ℚ) / 100 ≤ degrees ∧ degrees ≤ (high : ℚ) / 100

theorem Shown.mono {known more : Int16 → Prop} (within : ∀ value, known value → more value)
    {history : Server.History} {siteName : String} {value : ℤ}
    (shown : Shown known history siteName value) : Shown more history siteName value := by
  cases shown with
  | known value holds => exact .known value (within value holds)
  | placeholder sensor few => exact .placeholder sensor few

theorem DegreesBetween.mono {known more : Int16 → Prop} (within : ∀ value, known value → more value)
    {history : Server.History} {siteName : String} {value : ExactFloat}
    (between : DegreesBetween known history siteName value) :
    DegreesBetween more history siteName value := by
  cases value with
  | nan => exact between
  | infinity negative => exact between
  | real degrees =>
      obtain ⟨low, high, lowShown, highShown, bounds⟩ := between
      exact ⟨low, high, lowShown.mono within, highShown.mono within, bounds⟩

/-- The mean of a site lies between two sources of the site. -/
theorem toDegrees_between (deployment : Deployment) (events : List Event) (siteName : String) :
    DegreesBetween (Source deployment events siteName)
      (Server.acceptedReadings (delivered deployment events)) siteName
      ((Server.acceptedReadings (delivered deployment events)).point siteName).value := by
  show DegreesBetween _ _ siteName (Server.toDegrees _)
  let readings :=
    Server.lastValues (Server.acceptedReadings (delivered deployment events)) siteName
  rcases npMean_correctValues readings with
    ⟨isNan, first, second⟩ | ⟨number, isNumber, ⟨lowSensor, below⟩, highSensor, above⟩
  · rw [isNan]
    refine ⟨readings 1, ?_⟩
    funext sensor
    fin_cases sensor
    · exact first
    · rfl
    · exact second.symm
  · rw [isNumber]
    obtain ⟨low, _, lowShown, _, lower, _⟩ :=
      lastValues_between deployment events siteName lowSensor
    obtain ⟨_, high, _, highShown, _, upper⟩ :=
      lastValues_between deployment events siteName highSensor
    refine ⟨low, high, lowShown, highShown, ?_, ?_⟩
    · exact div_le_div_of_nonneg_right ((Int.cast_le.mpr lower).trans below) (by norm_num)
    · exact div_le_div_of_nonneg_right (above.trans (Int.cast_le.mpr upper)) (by norm_num)

/-- In every run the server writes one point for each accepted delivery whose database call
succeeds. The point names the stored site of its delivery, always the sensor `1` and never an
outlier. Its value is bounded by what the nodes of this site have read before or have converted from
an average that was not a number, and by their readings alone when they had no such average. -/
theorem run_points (deployment : Deployment) (events : List Event) :
    (run deployment events).2.length = (deliveries deployment events).countP (fun delivery =>
      delivery.written && (Server.acceptedReading delivery.payload).isSome) ∧
    ∀ point ∈ (run deployment events).2, ∃ past request accepted,
      past <+: events ∧ past.getLast? = some (.deliver request true) ∧
      Server.acceptedReading (Server.payloadBytes request.payload) = some accepted ∧
      accepted.siteName ∈ storedSites ∧ point.measurement = accepted.siteName ∧
      point.tags = ⟨accepted.siteName, "1", false⟩ ∧
      DegreesBetween (Source deployment past accepted.siteName)
        (Server.acceptedReadings (delivered deployment past)) accepted.siteName point.value ∧
      (SiteDefined deployment past accepted.siteName →
        DegreesBetween (ReadBy deployment past accepted.siteName)
          (Server.acceptedReadings (delivered deployment past)) accepted.siteName
          point.value) := by
  refine ⟨?_, fun point member => ?_⟩
  · rw [(run_siteData deployment events).2, Server.store_length]
  · obtain ⟨past, request, accepted, within, last, arrived, reads, rfl⟩ := point_of_run member
    have recorded := Server.mem_acceptedReadings_iff.mpr ⟨_, arrived, reads⟩
    have between := toDegrees_between deployment past accepted.siteName
    exact ⟨past, request, accepted, within, last, reads, (reported_of_history recorded).1, rfl, rfl,
      between, fun defined => between.mono fun _ source => source.readBy defined⟩

end DataStreamPilot.Pipeline
