/-
This file proves that a report with a parity mismatch always raises an exception.
The recovery branch looks up `values` among the sensors of the site.
-/

import DataStreamPilot.Proof.Server.ReadReport

namespace DataStreamPilot.Server

open Library Library.Json

/-- The handler does not raise, writes the last accepted reading of the sensor into its current
slot, advances its index, and changes no other buffer. -/
def RecoversFrom (requests : List ByteArray) (request : ByteArray) (siteName sensor : String) :
    Prop :=
  (∃ record, (renderPost (serve requests) request).2 = .ok record) ∧
    ∀ previous ∈ (acceptedReadings requests siteName sensor).getLast?,
      (renderPost (serve requests) request).1 =
        modifyBuffer (serve requests) siteName sensor fun buffer => (buffer.write previous).advance

/-- A corrupted report leaves the dictionary as it was and raises. -/
theorem renderPost_corrupted (requests : List ByteArray) (sensor : String) {request : ByteArray}
    {report : Report} (reads : readReport request = .ok report)
    (present : hasSensor report.siteName sensor = true)
    (corrupted : parityCheck report.sensorValue report.parity = false) :
    renderPost (serve requests) request =
      (serve requests, .error (.keyError (.string "values"))) := by
  rw [serve_eq_siteDataOf, siteDataOf]
  have found := sensorEntry_of_hasSensor
    (fun siteName sensor => bufferOf (acceptedReadings requests siteName sensor)) present
  obtain ⟨sensors, site, _⟩ := Option.bind_eq_some_iff.mp found
  simp only [renderPost, reads, storeReading, corrupted, Bool.false_eq_true, if_false,
    storeCorrupted_keyError, site, Option.isSome_some, if_true]

theorem not_recoversFrom_of_error {requests : List ByteArray} {request : ByteArray}
    {siteName sensor : String} {error : PyError}
    (raises : renderPost (serve requests) request = (serve requests, .error error)) :
    ¬ RecoversFrom requests request siteName sensor := by
  intro recovers
  obtain ⟨⟨record, sends⟩, _⟩ := recovers
  rw [raises] at sends
  cases sends

/-- The handler recovers from no corrupted report in any reachable state. -/
theorem corruptedReport_raises (requests : List ByteArray) (request : ByteArray) (site : JsonValue)
    (siteName sensor : String) (value parity : ℤ)
    (reads : readReport request = .ok ⟨site, siteName, .string sensor, value, parity⟩)
    (present : (sensorEntry (serve requests) siteName sensor).isSome = true)
    (corrupted : parityCheck value parity = false) :
    renderPost (serve requests) request =
        (serve requests, .error (.keyError (.string "values"))) ∧
      ¬ RecoversFrom requests request siteName sensor := by
  rw [serve_eq_siteDataOf, siteDataOf, sensorEntry_siteDataFrom, Option.isSome_map] at present
  have raises := renderPost_corrupted requests sensor reads present corrupted
  exact ⟨raises, not_recoversFrom_of_error raises⟩

/-- The number 2500 has five bits that are set, so the parity bit 1 is corrupted. -/
theorem readReport_corrupted : readReport (printedReport "4" "1" 2500 1) =
    .ok ⟨.string "4", "saclay", .string "1", 2500, 1⟩ :=
  readReport_printedReport (by decide) (by decide) (by decide) (by decide) (by decide)

theorem corruptedReport_raises_first :
    renderPost (serve []) (printedReport "4" "1" 2500 1) =
        (serve [], .error (.keyError (.string "values"))) ∧
      ¬ RecoversFrom [] (printedReport "4" "1" 2500 1) "saclay" "1" :=
  corruptedReport_raises [] _ _ _ _ _ _ readReport_corrupted (by decide) (by decide)

/-- A corrupted report from Saclay after an accepted one. -/
theorem recoversFrom_counterexample :
    ¬ RecoversFrom [printedReport "4" "1" 2500 0] (printedReport "4" "1" 2500 1) "saclay" "1" :=
  not_recoversFrom_of_error (renderPost_corrupted [printedReport "4" "1" 2500 0] "1"
    readReport_corrupted (by decide) (by decide))

end DataStreamPilot.Server
