/-
This file connects the report of the node to the handler of the server.
The three tables of sites decide which reports are stored.
-/

import DataStreamPilot.Proof.ReportRoundTrip

namespace DataStreamPilot

open Library Library.Json

/-- The handler reaches the call of `sendInfluxdb` and stores the value for the site and the sensor
of the node. It changes no other buffer. -/
def Processed (requests : List ByteArray) (siteName sensor : String) (value : Int16) : Prop :=
  (∃ record, (Server.renderPost (Server.serve requests)
    (Node.report siteName sensor value)).2 = .ok record) ∧
  (∃ buffer, Server.sensorEntry (Server.serve requests) siteName sensor = some buffer ∧
    Server.sensorEntry (Server.renderPost (Server.serve requests)
      (Node.report siteName sensor value)).1 siteName sensor =
      some (buffer.write value.toInt).advance) ∧
  ∀ otherSite otherSensor, (otherSite, otherSensor) ≠ (siteName, sensor) →
    Server.sensorEntry (Server.renderPost (Server.serve requests)
      (Node.report siteName sensor value)).1 otherSite otherSensor =
      Server.sensorEntry (Server.serve requests) otherSite otherSensor

theorem storedSites_subset : ["grenoble", "saclay", "strasbourg"] ⊆
    ["grenoble", "paris", "lille", "saclay", "strasbourg"] := by decide

/-- The server has buffers for three of the sites that a node can name. -/
theorem hasSensor_serverSite (siteName sensor : String) (known : sensor ∈ ["1", "2", "3"]) :
    Server.hasSensor (serverSite siteName) sensor =
      decide (siteName ∈ ["grenoble", "saclay", "strasbourg"]) := by
  have present : (Server.emptySensors.lookup sensor).isSome = true := by
    simp only [List.mem_cons, List.not_mem_nil, or_false] at known
    rcases known with rfl | rfl | rfl
    all_goals decide
  rw [Server.hasSensor_eq, present, Bool.and_true]
  by_cases listed : siteName ∈ ["grenoble", "paris", "lille", "saclay", "strasbourg"]
  · rw [serverSite, if_pos listed]
    simp only [List.mem_cons, List.not_mem_nil, or_false] at listed
    rcases listed with rfl | rfl | rfl | rfl | rfl
    all_goals decide
  · have absent : siteName ∉ ["grenoble", "saclay", "strasbourg"] :=
      fun member => listed (storedSites_subset member)
    rw [serverSite, if_neg listed, decide_eq_false absent]
    decide

/-- The server reads the report of a node with one of the three sensor keys. -/
theorem readReport_report (siteName sensor : String) (value : Int16)
    (known : sensor ∈ ["1", "2", "3"]) :
    ∃ site, Server.readReport (Node.report siteName sensor value) =
      .ok ⟨site, serverSite siteName, .string sensor, value.toInt,
        Node.calculateOddParity value⟩ := by
  obtain ⟨small, _⟩ := sites_lookup_binaryValue siteName
  have text : (PlainText sensor.toList) ∧ PythonText.AsciiText sensor.toList ∧
      sensor.toList.length ≤ 64 := by
    simp only [List.mem_cons, List.not_mem_nil, or_false] at known
    rcases known with rfl | rfl | rfl
    all_goals decide
  obtain ⟨plain, ascii, short⟩ := text
  have parity := calculateOddParity_le value
  exact ⟨_, readReport_report_of_fits siteName sensor value plain ascii
    (jsonText_length _ sensor value _ small (by omega) short)⟩

/-- The server accepts the reports of the nodes in three sites. -/
theorem acceptedReading_stored (siteName sensor : String) (value : Int16)
    (known : sensor ∈ ["1", "2", "3"]) (stored : siteName ∈ ["grenoble", "saclay", "strasbourg"]) :
    Server.acceptedReading (Node.report siteName sensor value) =
      some ⟨siteName, sensor, value.toInt⟩ := by
  obtain ⟨site, reads⟩ := readReport_report siteName sensor value known
  have present := hasSensor_serverSite siteName sensor known
  have same : serverSite siteName = siteName := by
    rw [serverSite, if_pos (storedSites_subset stored)]
  rw [same, decide_eq_true stored] at present
  rw [Server.acceptedReading, reads]
  exact Server.acceptReport_eq_some_iff.mpr
    ⟨rfl, same, rfl, present, parityCheck_calculateOddParity value⟩

/-- The server rejects the reports of all other nodes. -/
theorem acceptedReading_absent (siteName sensor : String) (value : Int16)
    (known : sensor ∈ ["1", "2", "3"]) (absent : siteName ∉ ["grenoble", "saclay", "strasbourg"]) :
    Server.acceptedReading (Node.report siteName sensor value) = none := by
  obtain ⟨site, reads⟩ := readReport_report siteName sensor value known
  have missing := hasSensor_serverSite siteName sensor known
  rw [decide_eq_false absent] at missing
  simp only [Server.acceptedReading, reads, Server.acceptReport, missing, Bool.false_and,
    Bool.false_eq_true, if_false]

/-- A report from a site without buffers raises an exception. -/
theorem not_processed_of_absent (requests : List ByteArray) (siteName sensor : String)
    (value : Int16) (known : sensor ∈ ["1", "2", "3"])
    (absent : siteName ∉ ["grenoble", "saclay", "strasbourg"]) :
    ¬ Processed requests siteName sensor value := by
  intro processed
  obtain ⟨error, raises⟩ := Server.renderPost_rejected
    (fun site name => Server.bufferOf (Server.acceptedReadings requests site name))
    (acceptedReading_absent siteName sensor value known absent)
  obtain ⟨record, sends⟩ := processed.1
  rw [Server.serve_eq_siteDataOf, Server.siteDataOf, raises] at sends
  cases sends

/-- The server processes the reports of a node exactly when it has buffers for the site. -/
theorem processed_iff (requests : List ByteArray) (siteName sensor : String) (value : Int16)
    (known : sensor ∈ ["1", "2", "3"]) :
    Processed requests siteName sensor value ↔
      siteName ∈ ["grenoble", "saclay", "strasbourg"] := by
  constructor
  · intro processed
    by_contra absent
    exact not_processed_of_absent requests siteName sensor value known absent processed
  · intro stored
    have reads := acceptedReading_stored siteName sensor value known stored
    have present := Server.acceptedReading_present reads
    obtain ⟨record, result, _⟩ :=
      Server.renderPost_accepted (Server.acceptedReadings requests) reads
    rw [Processed, Server.serve_eq_siteDataOf, result]
    refine ⟨⟨record, rfl⟩, ?_, ?_⟩
    · refine ⟨_, Server.sensorEntry_of_hasSensor _ present, ?_⟩
      rw [Server.bufferOf_concat, Server.siteDataOf, Server.sensorEntry_of_hasSensor _ present,
        Server.History.record, if_pos ⟨rfl, rfl⟩]
    · intro otherSite otherSensor different
      rw [Server.siteDataOf, Server.siteDataOf, Server.sensorEntry_siteDataFrom,
        Server.sensorEntry_siteDataFrom, Server.History.record, if_neg]
      intro same
      exact different (Prod.ext same.1 same.2)

/-- A node in Grenoble with the sensor 2 reports 21.5 degrees. -/
theorem processed_iff_grenoble : Processed [] "grenoble" "2" 2150 ↔
    "grenoble" ∈ ["grenoble", "saclay", "strasbourg"] :=
  processed_iff [] "grenoble" "2" 2150 (by decide)

/-- The server has the key `lillie`, and the node sends the site `lille`. -/
theorem processed_lille : ¬ Processed [] "lille" "1" 2150 :=
  not_processed_of_absent [] "lille" "1" 2150 (by decide) (by decide)

end DataStreamPilot
