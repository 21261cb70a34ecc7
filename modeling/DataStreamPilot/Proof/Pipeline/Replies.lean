/-
This file proves how the server answers what the network of the whole system carries.
Only the reports of the nodes of three sites are answered with success.
-/

import DataStreamPilot.Proof.Pipeline.Provenance
import DataStreamPilot.Proof.Pipeline.ReliableLink

namespace DataStreamPilot

open Library Library.Json

/-- Whatever a batching node posts in a whole run, the server raises the same key error, keeps its
buffers and writes no point. -/
theorem Batching.run_refused (siteName : String) (temps : List Int16) :
    ∃ final posted, Batching.run (Batching.getBinaryValue siteName) Batching.start temps =
        .ok (final, posted) ∧
      posted.length = (Batching.sentReadings temps).length ∧
      (∀ message ∈ posted, ∀ siteData,
        Server.renderPost siteData (Server.payloadBytes message) =
          (siteData, .error (.keyError (.string "site")))) ∧
      ∀ siteData (deliveries : List Server.Delivery),
        (∀ delivery ∈ deliveries, ∃ message ∈ posted,
          delivery.payload = Server.payloadBytes message) →
        Server.handler.run siteData deliveries = (siteData, []) := by
  have small := (sites_lookup_binaryValue siteName).1
  obtain ⟨final, codes, _, runs, encoded⟩ :=
    Batching.run_encodes small temps Batching.start_aligned
  have refuses : ∀ message ∈ codes.map (Batching.message (Batching.getBinaryValue siteName)),
      ∀ siteData, Server.renderPost siteData (Server.payloadBytes message) =
        (siteData, .error (.keyError (.string "site"))) := by
    intro message member siteData
    obtain ⟨code, _, rfl⟩ := List.mem_map.mp member
    rw [Server.renderPost, readReport_message]
  refine ⟨final, _, runs, ?_, refuses, fun siteData deliveries foreign => ?_⟩
  · have lengths := congrArg List.length encoded
    rw [List.length_map, DeltaCode.length_encode, List.length_map] at lengths
    rw [List.length_map, lengths]
  · induction deliveries with
    | nil => rfl
    | cons delivery rest ih =>
        obtain ⟨message, member, same⟩ := foreign delivery List.mem_cons_self
        have raises := refuses message member siteData
        rw [← same] at raises
        have refused := Server.handler_step_raises siteData delivery raises
        rw [Machine.run_cons, refused, ih fun other inside =>
          foreign other (List.mem_cons_of_mem _ inside)]
        rfl

namespace Pipeline

/-- The request is a report that a node of a stored site has formed. -/
def StoredReport (deployment : Deployment) (events : List Event) (request : Coap.Request) : Prop :=
  ∃ sensor value, Reported deployment events sensor value ∧ sensor.siteName ∈ storedSites ∧
    Server.payloadBytes request.payload = Node.report sensor.siteName sensor.sensorId value

/-- The server accepts exactly the reports of stored sites. -/
theorem acceptedReading_isSome_iff {deployment : Deployment} {events : List Event}
    {request : Coap.Request} (carried : Carried deployment events request) :
    (Server.acceptedReading (Server.payloadBytes request.payload)).isSome = true ↔
      StoredReport deployment events request := by
  constructor
  · intro accepted
    rcases carried with ⟨sensor, value, reported, same⟩ | refused
    · by_cases stored : sensor.siteName ∈ storedSites
      · exact ⟨sensor, value, reported, stored, same⟩
      · rw [same, acceptedReading_absent _ _ _ sensor.known stored] at accepted
        cases accepted
    · rw [refused] at accepted
      cases accepted
  · rintro ⟨sensor, value, _, stored, same⟩
    rw [same, acceptedReading_stored _ _ _ sensor.known stored]
    rfl

/-- In every run a request that the network carries is answered with success exactly when it is
the report of a node of a stored site and the database call succeeds. A request that is no such
report raises an exception, changes no buffer and writes no point. -/
theorem run_replies (deployment : Deployment) (events : List Event) (request : Coap.Request)
    (carried : request ∈ (run deployment events).1.network) (written : Bool) :
    ((Server.handlePost (run deployment events).1.siteData
        (Server.payloadBytes request.payload) written).2.2 = .statusOk ↔
      written = true ∧ StoredReport deployment events request) ∧
    (¬ StoredReport deployment events request →
      Server.handlePost (run deployment events).1.siteData
          (Server.payloadBytes request.payload) written =
        ((run deployment events).1.siteData, [], .serverError)) := by
  have accepts := acceptedReading_isSome_iff ((run_holds deployment events).network request carried)
  rw [(run_siteData deployment events).1]
  cases reads : Server.acceptedReading (Server.payloadBytes request.payload) with
  | none =>
      rw [reads] at accepts
      have foreign : ¬ StoredReport deployment events request :=
        fun stored => Bool.false_ne_true (accepts.mpr stored)
      rw [Server.handlePost_rejected _ reads]
      refine ⟨⟨fun answer => ?_, fun both => absurd both.2 foreign⟩, fun _ => rfl⟩
      cases answer
  | some accepted =>
      rw [reads] at accepts
      have stored : StoredReport deployment events request := accepts.mp rfl
      rw [Server.handlePost_accepted _ reads]
      refine ⟨?_, fun foreign => absurd stored foreign⟩
      cases written with
      | true => exact iff_of_true rfl ⟨rfl, stored⟩
      | false =>
          have failed : Server.Reply.serverError ≠ .statusOk := by decide
          exact iff_of_false failed fun both => Bool.false_ne_true both.1

/-- A test client and a node in Saclay post one request each. -/
def labEvents : List Event :=
  [.testClient [3500], .read saclaySensor (some 2100) 0 ⟨true, false⟩]

/-- The average that the node reports. -/
def labValue : Int16 :=
  (Node.run (Node.initialTemp (some 2000)) [some 2100]).roundedAvgTemp.getD 0

/-- The request of the node. -/
def labReport : Coap.Request := reportRequest (Node.payloadText "saclay" "1" labValue)

theorem storedReport_lab : StoredReport labDeployment labEvents labReport := by
  have formed : Reported labDeployment labEvents saclaySensor labValue :=
    ⟨[.testClient [3500]], 2100, 0, ⟨true, false⟩, List.prefix_rfl, rfl⟩
  exact ⟨saclaySensor, labValue, formed, by decide, payloadBytes_payloadText saclaySensor labValue⟩

theorem labEvents_network :
    (run labDeployment labEvents).1.network = [Client.request [3500], labReport] := by
  let state := ((system labDeployment).step (start labDeployment) (.testClient [3500])).1
  obtain ⟨console, _, result⟩ :=
    @readStep_posts labDeployment labDeployment_reaches state saclaySensor rfl 2100 0 false
  exact congrArg State.network result

theorem not_storedReport_testClient :
    ¬ StoredReport labDeployment labEvents (Client.request [3500]) := by
  rintro ⟨sensor, value, _, stored, same⟩
  have accepted := acceptedReading_stored sensor.siteName sensor.sensorId value sensor.known stored
  rw [← same, Client.request, Server.acceptedReading, readReport_clientPayload] at accepted
  cases accepted

/-- The report of the node is answered with success, and the request of the test client raises. -/
theorem run_replies_lab :
    (Server.handlePost (run labDeployment labEvents).1.siteData
        (Server.payloadBytes labReport.payload) true).2.2 = .statusOk ∧
      Server.handlePost (run labDeployment labEvents).1.siteData
          (Server.payloadBytes (Client.request [3500]).payload) true =
        ((run labDeployment labEvents).1.siteData, [], .serverError) := by
  have carried (request : Coap.Request) (member : request ∈ [Client.request [3500], labReport]) :
      request ∈ (run labDeployment labEvents).1.network := labEvents_network ▸ member
  have report := run_replies labDeployment labEvents labReport
    (carried _ (List.mem_cons_of_mem _ List.mem_cons_self)) true
  have testClient := run_replies labDeployment labEvents (Client.request [3500])
    (carried _ List.mem_cons_self) true
  exact ⟨report.1.mpr ⟨rfl, storedReport_lab⟩, testClient.2 not_storedReport_testClient⟩

end Pipeline

end DataStreamPilot
