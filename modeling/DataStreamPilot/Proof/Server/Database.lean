/-
This file proves which points a sequence of requests writes to the database.
The abstract store holds the accepted readings of each sensor and writes one point for each.
-/

import DataStreamPilot.Construction.Server.Site
import DataStreamPilot.Library.Machine
import DataStreamPilot.Proof.Server.StoreRefinement

namespace DataStreamPilot.Server

open Library Library.Json

/-- A payload that reaches the handler, with the outcome of its database call. -/
structure Delivery where
  payload : ByteArray
  written : Bool

/-- The point for a site after a reading of the site has entered the history. -/
def History.point (history : History) (siteName : String) : Point where
  measurement := siteName
  tags := ⟨siteName, "1", false⟩
  value := toDegrees (npMean (correctValues (lastValues history siteName) zThreshold))

/-- The abstract store. -/
def storeStep (history : History) (delivery : Delivery) : History × List Point :=
  match acceptedReading delivery.payload with
  | none => (history, [])
  | some accepted =>
      let history := history.record accepted
      (history, if delivery.written then [history.point accepted.siteName] else [])

def store : Machine History Delivery Point := ⟨storeStep⟩

/-- The handler of the server with the database. -/
def handler : Machine SiteData Delivery Point where
  step siteData delivery :=
    let (next, points, _) := handlePost siteData delivery.payload delivery.written
    (next, points)

/-- The site of a report is a key of the table of sites. -/
theorem readReport_site {request : ByteArray} {report : Report}
    (reads : readReport request = .ok report) :
    getItem sites report.site = .ok report.siteName := by
  simp only [readReport, bind, Except.bind] at reads
  repeat' split at reads
  all_goals cases reads
  assumption

/-- A recorded value carries the site of its report and the sensor `1`. -/
theorem renderPost_record_site {siteData : SiteData} {request : ByteArray} {record : Record}
    (sends : (renderPost siteData request).2 = .ok record) :
    ∃ report, readReport request = .ok report ∧ record.site = report.site ∧
      record.sensor = "1" := by
  unfold renderPost at sends
  split at sends
  · cases sends
  · rename_i report reads
    refine ⟨report, reads, ?_⟩
    split at sends
    · cases sends
    · split at sends
      · cases sends
      · rw [analyse] at sends
        obtain ⟨_, _, sends⟩ := exists_of_bind_eq_ok sends
        cases sends
        exact ⟨rfl, rfl⟩

/-- The call of the database for an accepted report. -/
theorem handlePost_accepted (history : History) {payload : ByteArray} {accepted : Accepted}
    (reads : acceptedReading payload = some accepted) (written : Bool) :
    handlePost (siteDataOf history) payload written =
      (siteDataOf (history.record accepted),
        if written then [(history.record accepted).point accepted.siteName] else [],
        if written then .statusOk else .serverError) := by
  obtain ⟨record, result, outlier, value⟩ := renderPost_accepted history reads
  have sends : (renderPost (siteDataOf history) payload).2 = .ok record := by rw [result]
  obtain ⟨report, parsed, site, sensor⟩ := renderPost_record_site sends
  obtain ⟨other, same, accepts⟩ := acceptedReading_eq_some_iff.mp reads
  obtain rfl : report = other := by
    rw [parsed] at same
    exact Except.ok.inj same
  obtain ⟨_, siteName, _⟩ := acceptReport_eq_some_iff.mp accepts
  have place : getItem sites record.site = .ok accepted.siteName := by
    rw [site, readReport_site parsed, siteName]
  have point : sendInfluxdb record = .ok ((history.record accepted).point accepted.siteName) := by
    simp only [sendInfluxdb, place, bind, Except.bind, sensor, outlier, value, History.point]
  simp only [handlePost, result, point]
  cases written <;> rfl

/-- A refused report writes no point. -/
theorem handlePost_rejected (history : History) {payload : ByteArray}
    (rejected : acceptedReading payload = none) (written : Bool) :
    handlePost (siteDataOf history) payload written =
      (siteDataOf history, [], .serverError) := by
  obtain ⟨error, result⟩ := renderPost_rejected
    (fun siteName sensor => bufferOf (history siteName sensor)) rejected
  rw [← siteDataOf] at result
  simp only [handlePost, result]

/-- A request that raises before any change leaves the buffers alone and writes no point. -/
theorem handler_step_raises (siteData : SiteData) (delivery : Delivery) {error : PyError}
    (raises : renderPost siteData delivery.payload = (siteData, .error error)) :
    handler.step siteData delivery = (siteData, []) := by
  change ((handlePost siteData delivery.payload delivery.written).1,
    (handlePost siteData delivery.payload delivery.written).2.1) = _
  simp only [handlePost, raises]

/-- One delivery to the handler is one delivery to the abstract store. -/
theorem handler_step (history : History) (delivery : Delivery) :
    handler.step (siteDataOf history) delivery =
      (siteDataOf (storeStep history delivery).1, (storeStep history delivery).2) := by
  cases reads : acceptedReading delivery.payload with
  | none => simp only [handler, storeStep, reads, handlePost_rejected history reads]
  | some accepted => simp only [handler, storeStep, reads, handlePost_accepted history reads]

/-- The handler refines the abstract store, point by point. -/
theorem handler_run (history : History) (deliveries : List Delivery) :
    handler.run (siteDataOf history) deliveries =
      (siteDataOf (store.run history deliveries).1, (store.run history deliveries).2) := by
  induction deliveries generalizing history with
  | nil => rfl
  | cons delivery rest ih =>
      rw [Machine.run_cons, Machine.run_cons, handler_step, ih]
      rfl

/-- A reading of a site depends on the history of that site only. -/
theorem storeStep_own {siteName : String} {history other : History}
    (same : history siteName = other siteName) {delivery : Delivery} {accepted : Accepted}
    (reads : acceptedReading delivery.payload = some accepted)
    (own : accepted.siteName = siteName) :
    (storeStep history delivery).1 siteName = (storeStep other delivery).1 siteName ∧
      (storeStep history delivery).2 = (storeStep other delivery).2 := by
  subst own
  have recorded : (history.record accepted) accepted.siteName =
      (other.record accepted) accepted.siteName := by
    funext sensor
    rw [History.record, History.record, same]
  have point : (history.record accepted).point accepted.siteName =
      (other.record accepted).point accepted.siteName := by
    have shown : lastValues (history.record accepted) accepted.siteName =
        lastValues (other.record accepted) accepted.siteName := by
      funext sensor
      rw [lastValues, lastValues, recorded]
    rw [History.point, History.point, shown]
  rw [storeStep, storeStep, reads]
  refine ⟨recorded, ?_⟩
  show (if _ then [_] else []) = if _ then [_] else []
  rw [point]

/-- A reading of another site changes nothing about a site. -/
theorem storeStep_other {siteName : String} (history : History) {delivery : Delivery}
    (foreign : ∀ accepted, acceptedReading delivery.payload = some accepted →
      accepted.siteName ≠ siteName) :
    (storeStep history delivery).1 siteName = history siteName ∧
      (storeStep history delivery).2.filter (fun point => point.measurement = siteName) = [] := by
  cases reads : acceptedReading delivery.payload with
  | none =>
      rw [storeStep, reads]
      exact ⟨rfl, rfl⟩
  | some accepted =>
      have different := foreign accepted reads
      rw [storeStep, reads]
      refine ⟨?_, ?_⟩
      · funext sensor
        show (history.record accepted) siteName sensor = history siteName sensor
        rw [History.record, if_neg fun both => different both.1.symm]
      · show (if _ then [_] else []).filter _ = []
        split
        · exact List.filter_cons_of_neg fun own => different (of_decide_eq_true own)
        · rfl

/-- The abstract store holds the accepted readings of its deliveries. -/
theorem store_history (deliveries : List Delivery) :
    (store.run (acceptedReadings []) deliveries).1 =
      acceptedReadings (deliveries.map Delivery.payload) := by
  induction deliveries using List.reverseRecOn with
  | nil => rfl
  | append_singleton deliveries delivery ih =>
      rw [Machine.run_concat, ih, List.map_append, List.map_singleton]
      cases reads : acceptedReading delivery.payload with
      | none =>
          rw [acceptedReadings_rejected _ _ reads]
          simp only [store, storeStep, reads]
      | some accepted =>
          rw [acceptedReadings_accepted _ _ reads]
          simp only [store, storeStep, reads]

/-- A value of a history is the reading of an accepted request. -/
theorem mem_acceptedReadings_iff {requests : List ByteArray} {siteName sensor : String}
    {value : ℤ} :
    value ∈ acceptedReadings requests siteName sensor ↔
      ∃ request ∈ requests, acceptedReading request = some ⟨siteName, sensor, value⟩ := by
  rw [acceptedReadings, historyOf, List.mem_map]
  constructor
  · rintro ⟨accepted, member, rfl⟩
    obtain ⟨stored, own⟩ := List.mem_filter.mp member
    obtain ⟨rfl, rfl⟩ := of_decide_eq_true own
    exact List.mem_filterMap.mp stored
  · rintro ⟨request, member, reads⟩
    exact ⟨_, List.mem_filter.mpr ⟨List.mem_filterMap.mpr ⟨request, member, reads⟩,
      decide_eq_true ⟨rfl, rfl⟩⟩, rfl⟩

/-- The store writes one point for each accepted delivery whose database call succeeds. -/
theorem store_length (history : History) (deliveries : List Delivery) :
    (store.run history deliveries).2.length =
      deliveries.countP fun delivery =>
        delivery.written && (acceptedReading delivery.payload).isSome := by
  induction deliveries generalizing history with
  | nil => rfl
  | cons delivery rest ih =>
      rw [Machine.run_cons, List.length_append, ih, List.countP_cons, Nat.add_comm]
      congr 1
      show (storeStep history delivery).2.length = _
      cases reads : acceptedReading delivery.payload with
      | none => simp [storeStep, reads]
      | some accepted => cases written : delivery.written <;> simp [storeStep, reads, written]

/-- A point belongs to the accepted delivery that wrote it. -/
theorem mem_storeStep_points {requests : List ByteArray} {delivery : Delivery} {point : Point}
    (emitted : point ∈ (storeStep (acceptedReadings requests) delivery).2) :
    ∃ accepted, acceptedReading delivery.payload = some accepted ∧ delivery.written = true ∧
      point = (acceptedReadings (requests ++ [delivery.payload])).point accepted.siteName := by
  rw [storeStep] at emitted
  cases reads : acceptedReading delivery.payload with
  | none =>
      rw [reads] at emitted
      cases emitted
  | some accepted =>
      simp only [reads] at emitted
      rw [acceptedReadings_accepted _ _ reads]
      split at emitted
      · rename_i written
        exact ⟨accepted, rfl, written, List.mem_singleton.mp emitted⟩
      · cases emitted

end DataStreamPilot.Server
