/-
This file proves that the store of the server is a ring buffer for each sensor.
The abstract state is the list of accepted readings of each sensor.
-/

import DataStreamPilot.Library.RingBuffer
import DataStreamPilot.Proof.Server.SiteData

namespace DataStreamPilot.Server

open Library Library.Json

/-- The ring buffer of one sensor starts with the placeholder zero. -/
def sensorRing (readings : List ℤ) : RingBuffer ℤ windowSize :=
  (RingBuffer.fresh (by decide) 0).pushAll readings

/-- The concrete buffer after the accepted readings of one sensor. -/
def bufferOf (readings : List ℤ) : SensorBuffer where
  values := (sensorRing readings).slots
  index := (sensorRing readings).next

/-- The write and the advance of an accepted report are one push. -/
theorem bufferOf_concat (readings : List ℤ) (value : ℤ) :
    ((bufferOf readings).write value).advance = bufferOf (readings ++ [value]) := by
  have pushed : sensorRing (readings ++ [value]) = (sensorRing readings).push value := by
    rw [sensorRing, RingBuffer.pushAll_append, RingBuffer.pushAll_singleton, sensorRing]
  rw [bufferOf, bufferOf, pushed]
  rfl

/-- The accepted readings of each sensor, in the order of their reports. -/
abbrev History := String → String → List ℤ

/-- The dictionary that a history leaves. -/
def siteDataOf (history : History) : SiteData :=
  siteDataFrom fun siteName sensor => bufferOf (history siteName sensor)

/-- A reading that the server stores for a sensor. -/
structure Accepted where
  siteName : String
  sensor : String
  value : ℤ
  deriving DecidableEq

/-- A report is accepted when it names a present sensor and passes the parity check. -/
def acceptReport (report : Report) : Option Accepted :=
  match report.sensor with
  | .string sensor =>
      if hasSensor report.siteName sensor && parityCheck report.sensorValue report.parity then
        some ⟨report.siteName, sensor, report.sensorValue⟩
      else none
  | _ => none

/-- The reading that a request adds to the store. -/
def acceptedReading (request : ByteArray) : Option Accepted :=
  match readReport request with
  | .ok report => acceptReport report
  | .error _ => none

/-- An accepted reading extends the list of its own sensor. -/
def History.record (history : History) (accepted : Accepted) : History := fun siteName sensor =>
  if siteName = accepted.siteName ∧ sensor = accepted.sensor then
    history siteName sensor ++ [accepted.value]
  else history siteName sensor

/-- Each sensor keeps the order of its own readings. -/
def historyOf (stored : List Accepted) : History := fun siteName sensor =>
  (stored.filter fun accepted =>
    siteName = accepted.siteName ∧ sensor = accepted.sensor).map Accepted.value

/-- The accepted readings of each sensor in a sequence of requests. -/
def acceptedReadings (requests : List ByteArray) : History :=
  historyOf (requests.filterMap acceptedReading)

theorem acceptedReadings_accepted (requests : List ByteArray) (request : ByteArray)
    {accepted : Accepted} (reads : acceptedReading request = some accepted) :
    acceptedReadings (requests ++ [request]) = (acceptedReadings requests).record accepted := by
  funext siteName sensor
  rw [acceptedReadings, historyOf, History.record, List.filterMap_append, List.filter_append,
    List.map_append]
  by_cases own : siteName = accepted.siteName ∧ sensor = accepted.sensor
  · simp [reads, own, acceptedReadings, historyOf]
  · simp [reads, own, acceptedReadings, historyOf]

theorem acceptedReadings_rejected (requests : List ByteArray) (request : ByteArray)
    (rejected : acceptedReading request = none) :
    acceptedReadings (requests ++ [request]) = acceptedReadings requests := by
  rw [acceptedReadings, List.filterMap_append]
  simp [rejected, acceptedReadings]

/-- The branch for a parity mismatch raises a key error before it changes the dictionary. -/
theorem storeCorrupted_keyError (buffers : String → String → SensorBuffer) (report : Report) :
    storeCorrupted (siteDataFrom buffers) report = .error (.keyError (.string
      (if ((siteDataFrom buffers).lookup report.siteName).isSome then "values"
        else report.siteName))) := by
  have missing := sensorEntry_of_not_hasSensor buffers (hasSensor_values report.siteName)
  cases site : (siteDataFrom buffers).lookup report.siteName with
  | none => simp [storeCorrupted, getItem, site, bind, Except.bind]
  | some sensors =>
      have entry : sensors.lookup "values" = none := by simpa [sensorEntry, site] using missing
      simp [storeCorrupted, getItem, site, entry, bind, Except.bind]

/-- An accepted report names a present sensor and passes the parity check. -/
theorem acceptReport_eq_some_iff {report : Report} {accepted : Accepted} :
    acceptReport report = some accepted ↔
      report.sensor = .string accepted.sensor ∧ report.siteName = accepted.siteName ∧
      report.sensorValue = accepted.value ∧
      hasSensor accepted.siteName accepted.sensor = true ∧
      parityCheck report.sensorValue report.parity = true := by
  obtain ⟨site, siteName, sensor, value, parity⟩ := report
  obtain ⟨acceptedSite, acceptedSensor, acceptedValue⟩ := accepted
  cases sensor with
  | string name =>
      simp only [acceptReport, JsonValue.string.injEq]
      by_cases passes : (hasSensor siteName name && parityCheck value parity) = true
      · obtain ⟨present, valid⟩ := Bool.and_eq_true_iff.mp passes
        rw [if_pos passes, Option.some.injEq, Accepted.mk.injEq]
        refine ⟨?_, ?_⟩
        · rintro ⟨rfl, rfl, rfl⟩
          exact ⟨rfl, rfl, rfl, present, valid⟩
        · rintro ⟨rfl, rfl, rfl, _, _⟩
          exact ⟨rfl, rfl, rfl⟩
      · rw [if_neg passes]
        refine ⟨fun none => (nomatch none), ?_⟩
        rintro ⟨rfl, rfl, rfl, present, valid⟩
        exact absurd (Bool.and_eq_true_iff.mpr ⟨present, valid⟩) passes
  | _ => simp [acceptReport]

theorem acceptedReading_eq_some_iff {request : ByteArray} {accepted : Accepted} :
    acceptedReading request = some accepted ↔
      ∃ report, readReport request = .ok report ∧ acceptReport report = some accepted := by
  unfold acceptedReading
  cases readReport request with
  | error error => simp
  | ok report => simp

/-- An accepted reading belongs to a present sensor. -/
theorem acceptedReading_present {request : ByteArray} {accepted : Accepted}
    (reads : acceptedReading request = some accepted) :
    hasSensor accepted.siteName accepted.sensor = true := by
  obtain ⟨report, _, accepts⟩ := acceptedReading_eq_some_iff.mp reads
  exact (acceptReport_eq_some_iff.mp accepts).2.2.2.1

/-- An accepted report is stored in the buffer of its sensor and the index advances. -/
theorem storeReading_accepted (history : History) (report : Report) {accepted : Accepted}
    (accepts : acceptReport report = some accepted) :
    ∃ stored, storeReading (siteDataOf history) report = .ok stored ∧
      advanceIndex stored report = .ok (siteDataOf (history.record accepted)) := by
  obtain ⟨site, siteName, sensor, value, parity⟩ := report
  obtain ⟨rfl, rfl, rfl, present, valid⟩ := acceptReport_eq_some_iff.mp accepts
  let written : String → String → SensorBuffer := fun site name =>
    if site = accepted.siteName ∧ name = accepted.sensor then
      (bufferOf (history site name)).write accepted.value
    else bufferOf (history site name)
  have store : modifyBuffer (siteDataOf history) accepted.siteName accepted.sensor
      (·.write accepted.value) = siteDataFrom written := modifyBuffer_siteDataFrom _ _ _ _
  refine ⟨siteDataFrom written, ?_, ?_⟩
  · have found := getBuffer_found (sensorEntry_of_hasSensor
      (fun siteName sensor => bufferOf (history siteName sensor)) present)
    rw [← store]
    simp only [storeReading, valid, if_true, storeAccepted, siteDataOf, found, bind, Except.bind]
  · have found := getBuffer_found (sensorEntry_of_hasSensor written present)
    simp only [advanceIndex, found, bind, Except.bind]
    rw [modifyBuffer_siteDataFrom, siteDataOf]
    congr 2
    funext siteName sensor
    by_cases own : siteName = accepted.siteName ∧ sensor = accepted.sensor
    · simp only [written, History.record, if_pos own]
      exact bufferOf_concat (history siteName sensor) accepted.value
    · simp only [written, History.record, if_neg own]

/-- A report that is not accepted raises an exception before it changes the dictionary. -/
theorem storeReading_rejected (buffers : String → String → SensorBuffer) (report : Report)
    (rejected : acceptReport report = none) :
    ∃ error, storeReading (siteDataFrom buffers) report = .error error := by
  obtain ⟨site, siteName, sensor, value, parity⟩ := report
  cases valid : parityCheck value parity with
  | false =>
      simp only [storeReading, valid, Bool.false_eq_true, if_false]
      exact ⟨_, storeCorrupted_keyError buffers ⟨site, siteName, sensor, value, parity⟩⟩
  | true =>
      have missing : ∃ error, getBuffer (siteDataFrom buffers) siteName sensor = .error error := by
        cases sensor with
        | string name =>
            have absent : hasSensor siteName name = false := by
              simpa [acceptReport, valid] using rejected
            exact getBuffer_missing (sensorEntry_of_not_hasSensor buffers absent)
        | _ => exact getBuffer_not_string _ siteName fun name same => nomatch same
      obtain ⟨error, missing⟩ := missing
      simp only [storeReading, valid, if_true, storeAccepted, missing, bind, Except.bind]
      exact ⟨error, rfl⟩

/-- The keys of the three sensors of a site. -/
def sensorKey : Fin 3 → String := ![ "1", "2", "3"]

theorem hasSensor_sensorKey {siteName sensor : String} (present : hasSensor siteName sensor = true)
    (index : Fin 3) : hasSensor siteName (sensorKey index) = true := by
  have known : ∀ index, (emptySensors.lookup (sensorKey index)).isSome = true := by decide
  exact hasSensor_of_site present (known index)

/-- The value in the last slot of each sensor of a site. -/
def lastValues (history : History) (siteName : String) (sensor : Fin 3) : ℤ :=
  (bufferOf (history siteName (sensorKey sensor))).last

/-- The handler passes the last slots of the three sensors to the filter. -/
theorem zscoreAnalysisList_present (history : History) {siteName sensor : String}
    (present : hasSensor siteName sensor = true) :
    zscoreAnalysisList (siteDataOf history) siteName = .ok (lastValues history siteName) := by
  have found (index : Fin 3) := getBuffer_found (sensorEntry_of_hasSensor
    (fun siteName sensor => bufferOf (history siteName sensor))
    (hasSensor_sensorKey present index))
  have first : getBuffer _ siteName (.string "1") = _ := found 0
  have second : getBuffer _ siteName (.string "2") = _ := found 1
  have third : getBuffer _ siteName (.string "3") = _ := found 2
  simp only [zscoreAnalysisList, siteDataOf, first, second, third, bind, Except.bind]
  congr 1
  funext index
  fin_cases index <;> rfl

/-- An accepted request extends the history and sends the filtered value. -/
theorem renderPost_accepted (history : History) {request : ByteArray} {accepted : Accepted}
    (reads : acceptedReading request = some accepted) :
    ∃ record, renderPost (siteDataOf history) request =
        (siteDataOf (history.record accepted), .ok record) ∧
      record.isOutlier = false ∧ record.decodedValue =
        npMean (correctValues (lastValues (history.record accepted) accepted.siteName)
          zThreshold) := by
  obtain ⟨report, payload, accepts⟩ := acceptedReading_eq_some_iff.mp reads
  obtain ⟨stored, stores, advances⟩ := storeReading_accepted history report accepts
  obtain ⟨_, siteName, _, present, _⟩ := acceptReport_eq_some_iff.mp accepts
  refine ⟨⟨npMean (correctValues
    (lastValues (history.record accepted) accepted.siteName) zThreshold),
    false, report.site, "1"⟩, ?_, rfl, rfl⟩
  simp only [renderPost, payload, stores, advances, analyse, siteName, filterOutliers,
    zscoreAnalysisList_present (history.record accepted) present, bind, Except.bind]

/-- A rejected request raises an exception and changes nothing. -/
theorem renderPost_rejected (buffers : String → String → SensorBuffer) {request : ByteArray}
    (rejected : acceptedReading request = none) :
    ∃ error, renderPost (siteDataFrom buffers) request = (siteDataFrom buffers, .error error) := by
  unfold acceptedReading at rejected
  cases payload : readReport request with
  | error error => exact ⟨error, by simp only [renderPost, payload]⟩
  | ok report =>
      rw [payload] at rejected
      obtain ⟨error, raises⟩ := storeReading_rejected buffers report rejected
      exact ⟨error, by simp only [renderPost, payload, raises]⟩

theorem serve_concat (requests : List ByteArray) (request : ByteArray) :
    serve (requests ++ [request]) = (renderPost (serve requests) request).1 := by
  rw [serve, List.foldl_append]
  rfl

/-- Every run leaves the ring buffers of its accepted readings. -/
theorem serve_eq_siteDataOf (requests : List ByteArray) :
    serve requests = siteDataOf (acceptedReadings requests) := by
  induction requests using List.reverseRecOn with
  | nil => rfl
  | append_singleton requests request ih =>
      rw [serve_concat, ih]
      cases reads : acceptedReading request with
      | none =>
          obtain ⟨error, result⟩ := renderPost_rejected
            (fun siteName sensor => bufferOf (acceptedReadings requests siteName sensor)) reads
          rw [acceptedReadings_rejected requests request reads, siteDataOf, result]
      | some accepted =>
          obtain ⟨record, result, _⟩ := renderPost_accepted (acceptedReadings requests) reads
          rw [acceptedReadings_accepted requests request reads, result]

/-- The contents of one buffer after the accepted readings of its sensor. -/
structure BufferHolds (readings : List ℤ) (buffer : SensorBuffer) : Prop where
  index : buffer.index.val = readings.length % windowSize
  recent : ∀ back < min readings.length windowSize,
    buffer.values[(readings.length - 1 - back) % windowSize]? =
      readings[readings.length - 1 - back]?
  remaining : ∀ slot : Fin windowSize, readings.length ≤ slot.val → buffer.values[slot] = 0

theorem bufferOf_holds (readings : List ℤ) : BufferHolds readings (bufferOf readings) where
  index := RingBuffer.pushAll_next (by decide) 0 readings
  recent back within :=
    RingBuffer.pushAll_recent (by decide) 0 readings back (Nat.lt_min.mp within).1
      (Nat.lt_min.mp within).2
  remaining slot beyond := by
    have untouched := RingBuffer.pushAll_untouched (by decide : 0 < windowSize) (0 : ℤ) readings
      slot.val slot.isLt beyond
    rw [Vector.getElem?_eq_getElem slot.isLt] at untouched
    exact Option.some.inj untouched

/-- Requests for different sensors leave the same histories in both orders. -/
theorem acceptedReadings_swap (earlier later : List ByteArray) (first second : ByteArray)
    (different : ∀ one ∈ acceptedReading first, ∀ other ∈ acceptedReading second,
      (one.siteName, one.sensor) ≠ (other.siteName, other.sensor)) :
    acceptedReadings (earlier ++ first :: second :: later) =
      acceptedReadings (earlier ++ second :: first :: later) := by
  funext siteName sensor
  let own (accepted : Accepted) : Bool := siteName = accepted.siteName ∧ sensor = accepted.sensor
  have pair : ([first, second].filterMap acceptedReading).filter own =
      ([second, first].filterMap acceptedReading).filter own := by
    cases reads : acceptedReading first with
    | none => simp [reads, List.filterMap_cons]
    | some one =>
        cases readsOther : acceptedReading second with
        | none => simp [reads, readsOther]
        | some other =>
            have apart : own one = false ∨ own other = false := by
              by_contra both
              simp only [not_or, Bool.not_eq_false, own, decide_eq_true_eq] at both
              obtain ⟨⟨site, name⟩, siteOther, nameOther⟩ := both
              exact different one reads other readsOther
                (Prod.ext (site.symm.trans siteOther) (name.symm.trans nameOther))
            rcases apart with foreign | foreign
            · simp [reads, readsOther, List.filter_cons, foreign]
            · simp [reads, readsOther, List.filter_cons, foreign]
  have split (head : List ByteArray) :
      acceptedReadings (earlier ++ (head ++ later)) siteName sensor =
      (((earlier.filterMap acceptedReading).filter own) ++
        (((head.filterMap acceptedReading).filter own) ++
          (later.filterMap acceptedReading).filter own)).map Accepted.value := by
    rw [acceptedReadings, historyOf, List.filterMap_append, List.filterMap_append,
      List.filter_append, List.filter_append]
  have swapped := split [first, second]
  rw [pair, ← split [second, first]] at swapped
  exact swapped

end DataStreamPilot.Server
