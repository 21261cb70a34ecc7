/-
This file says when the handler reads the latest reading of each sensor.
The write position rotates, but the handler always reads the last slot.
-/

import DataStreamPilot.Proof.Server.ReadReport

namespace DataStreamPilot.Server

open Library Library.Json

/-- The last slot holds the latest reading of an even count and the one before of an odd count. -/
theorem bufferOf_last (readings : List ℤ) (two : 2 ≤ readings.length) :
    readings[readings.length - 1 - readings.length % 2]? = some (bufferOf readings).last := by
  have recent := RingBuffer.pushAll_recent (by decide : 0 < 2) (0 : ℤ) readings
    (readings.length % 2) (by omega) (Nat.mod_lt _ (by decide))
  have slot : (readings.length - 1 - readings.length % 2) % 2 = 1 := by omega
  rw [slot] at recent
  rw [← recent]
  exact Vector.getElem?_eq_getElem (by decide)

/-- The last slot holds the placeholder until the second reading. -/
theorem bufferOf_last_short (readings : List ℤ) (few : readings.length < 2) :
    (bufferOf readings).last = 0 :=
  (bufferOf_holds readings).remaining ⟨1, by decide⟩ (Nat.le_of_lt_succ few)

/-- The latest readings of the three sensors of a site. -/
def latestReadings (requests : List ByteArray) (siteName : String) (sensor : Fin 3) : ℤ :=
  (acceptedReadings requests siteName (sensorKey sensor)).getLast?.getD 0

/-- An even number of readings, or two equal readings at the end. -/
def UpToDate (readings : List ℤ) : Prop :=
  readings.length % 2 = 0 ∨ readings[readings.length - 2]? = readings[readings.length - 1]?

instance (readings : List ℤ) : Decidable (UpToDate readings) := inferInstanceAs (Decidable (_ ∨ _))

/-- The last slot of one sensor. -/
theorem bufferOf_last_eq_iff (readings : List ℤ) (two : 2 ≤ readings.length) :
    (bufferOf readings).last = readings.getLast?.getD 0 ↔ UpToDate readings := by
  have last := bufferOf_last readings two
  have inside : readings.length - 1 < readings.length := by omega
  rw [UpToDate, List.getLast?_eq_getElem?, List.getElem?_eq_getElem inside, Option.getD_some]
  rcases Nat.mod_two_eq_zero_or_one readings.length with even | odd
  · rw [even, Nat.sub_zero, List.getElem?_eq_getElem inside] at last
    exact ⟨fun _ => Or.inl even, fun _ => (Option.some.inj last).symm⟩
  · rw [odd, Nat.sub_sub] at last
    rw [last, Option.some.injEq]
    refine ⟨Or.inr, fun fresh => fresh.resolve_left ?_⟩
    rw [odd]
    exact Nat.one_ne_zero

/-- The values of the filter after any accepted request. -/
theorem zscoreAnalysisList_renderPost (requests : List ByteArray) {request : ByteArray}
    {accepted : Accepted} (reads : acceptedReading request = some accepted) :
    zscoreAnalysisList (renderPost (serve requests) request).1 accepted.siteName =
      .ok (lastValues (acceptedReadings (requests ++ [request])) accepted.siteName) := by
  rw [← serve_concat, serve_eq_siteDataOf]
  exact zscoreAnalysisList_present _ (acceptedReading_present reads)

/-- The filter gets the latest readings exactly when the buffers of the site are up to date. -/
theorem zscoreAnalysisList_latest_iff (requests : List ByteArray) (request : ByteArray)
    (accepted : Accepted) (reads : acceptedReading request = some accepted)
    (two : ∀ sensor, 2 ≤ (acceptedReadings requests accepted.siteName (sensorKey sensor)).length) :
    zscoreAnalysisList (renderPost (serve requests) request).1 accepted.siteName =
        .ok (latestReadings (requests ++ [request]) accepted.siteName) ↔
      ∀ sensor, UpToDate
        (acceptedReadings (requests ++ [request]) accepted.siteName (sensorKey sensor)) := by
  have longer (sensor : Fin 3) : 2 ≤
      (acceptedReadings (requests ++ [request]) accepted.siteName (sensorKey sensor)).length := by
    rw [acceptedReadings_accepted requests request reads, History.record]
    have enough := two sensor
    split
    · rw [List.length_append]
      omega
    · exact enough
  rw [zscoreAnalysisList_renderPost requests reads, Except.ok.injEq, funext_iff]
  exact forall_congr' fun sensor => bufferOf_last_eq_iff _ (longer sensor)

/-- Two accepted reports from each sensor in Saclay. -/
def saclayReports : List ByteArray :=
  [printedReport "4" "1" 2500 0, printedReport "4" "1" 2500 0, printedReport "4" "2" 2500 0,
    printedReport "4" "2" 2500 0, printedReport "4" "3" 2500 0, printedReport "4" "3" 2500 0]

/-- The number 2500 has five bits that are set, so its parity bit is zero. -/
theorem acceptedReading_2500 (sensor : String) (plain : PlainText sensor.toList)
    (present : hasSensor "saclay" sensor = true) :
    acceptedReading (printedReport "4" sensor 2500 0) = some ⟨"saclay", sensor, 2500⟩ :=
  acceptedReading_printedReport (by decide) plain (by decide) (by decide) (by decide) present
    (by decide)

/-- The number 2600 has four bits that are set, so its parity bit is one. -/
theorem acceptedReading_2600 :
    acceptedReading (printedReport "4" "1" 2600 1) = some ⟨"saclay", "1", 2600⟩ :=
  acceptedReading_printedReport (by decide) (by decide) (by decide) (by decide) (by decide)
    (by decide) (by decide)

theorem acceptedReadings_saclayReports : acceptedReadings saclayReports = historyOf
    [⟨"saclay", "1", 2500⟩, ⟨"saclay", "1", 2500⟩, ⟨"saclay", "2", 2500⟩, ⟨"saclay", "2", 2500⟩,
      ⟨"saclay", "3", 2500⟩, ⟨"saclay", "3", 2500⟩] := by
  rw [acceptedReadings, saclayReports]
  simp only [List.filterMap_cons, List.filterMap_nil,
    acceptedReading_2500 "1" (by decide) (by decide),
    acceptedReading_2500 "2" (by decide) (by decide),
    acceptedReading_2500 "3" (by decide) (by decide)]

theorem zscoreAnalysisList_latest_iff_steady :
    zscoreAnalysisList (renderPost (serve saclayReports) (printedReport "4" "1" 2500 0)).1
      "saclay" = .ok (latestReadings (saclayReports ++ [printedReport "4" "1" 2500 0]) "saclay") ↔
      ∀ sensor, UpToDate (acceptedReadings (saclayReports ++ [printedReport "4" "1" 2500 0])
        "saclay" (sensorKey sensor)) :=
  zscoreAnalysisList_latest_iff saclayReports (printedReport "4" "1" 2500 0)
    ⟨"saclay", "1", 2500⟩ (acceptedReading_2500 "1" (by decide) (by decide)) (by
      rw [acceptedReadings_saclayReports]
      decide)

/-- A third report from sensor 1 with a new value is not what the filter gets. -/
theorem zscoreAnalysisList_latest_counterexample :
    (∀ sensor, 2 ≤ (acceptedReadings saclayReports "saclay" (sensorKey sensor)).length) ∧
    zscoreAnalysisList (renderPost (serve saclayReports) (printedReport "4" "1" 2600 1)).1
      "saclay" ≠
      .ok (latestReadings (saclayReports ++ [printedReport "4" "1" 2600 1]) "saclay") := by
  refine ⟨?_, ?_⟩
  · rw [acceptedReadings_saclayReports]
    decide
  · rw [zscoreAnalysisList_renderPost saclayReports acceptedReading_2600]
    intro equal
    have first := congrFun (Except.ok.inj equal) 0
    rw [latestReadings, acceptedReadings_accepted saclayReports _ acceptedReading_2600,
      acceptedReadings_saclayReports] at first
    exact absurd first (by decide)

end DataStreamPilot.Server
