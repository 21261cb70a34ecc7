/-
This file says when the recorded value is a number in the range of the three readings.
Three equal readings have no z-scores, and the mean of the empty selection is not a number.
-/

import DataStreamPilot.Proof.Server.KeptReadings
import DataStreamPilot.Proof.Server.LatestReadings

namespace DataStreamPilot.Server

open Library Library.Json

/-- The value that the handler will read for a sensor, from the state before the report. -/
def valueRead (siteData : SiteData) (accepted : Accepted) (sensor : Fin 3) : ℤ :=
  match sensorEntry siteData accepted.siteName (sensorKey sensor) with
  | some buffer =>
      if sensorKey sensor = accepted.sensor ∧ buffer.index.val = windowSize - 1 then accepted.value
      else buffer.last
  | none => 0

/-- The recorded value is a number in the range of the three readings. A filter that keeps no
reading leaves the reading of the reporting sensor, marked as an outlier. -/
def RecordedInRange (record : Record) (readings : Fin 3 → ℤ) (own : ℤ) : Prop :=
  (∃ number, record.decodedValue = .real number ∧
    WithinRange ((readingList readings).map fun reading : ℤ => (reading : ℚ)) number) ∧
  (correctValues readings zThreshold = [] →
    record.isOutlier = true ∧ record.decodedValue = .real own)

/-- A write is visible in the last slot only at the last index. -/
theorem last_advance_write (buffer : SensorBuffer) (value : ℤ) :
    ((buffer.write value).advance).last =
      if buffer.index.val = windowSize - 1 then value else buffer.last :=
  Vector.getElem_set buffer.index.isLt (by decide)

/-- The state before the report determines the three values. -/
theorem lastValues_acceptedReadings (requests : List ByteArray) {request : ByteArray}
    {accepted : Accepted} (reads : acceptedReading request = some accepted) :
    lastValues (acceptedReadings (requests ++ [request])) accepted.siteName =
      valueRead (serve requests) accepted := by
  funext sensor
  have entry := sensorEntry_of_hasSensor
    (fun siteName sensor => bufferOf (acceptedReadings requests siteName sensor))
    (hasSensor_sensorKey (acceptedReading_present reads) sensor)
  rw [valueRead, serve_eq_siteDataOf, siteDataOf, entry, lastValues,
    acceptedReadings_accepted requests request reads, History.record]
  by_cases own : sensorKey sensor = accepted.sensor
  · have pushed := last_advance_write
      (bufferOf (acceptedReadings requests accepted.siteName (sensorKey sensor))) accepted.value
    rw [bufferOf_concat] at pushed
    rw [if_pos ⟨rfl, own⟩, pushed]
    simp only [own, true_and]
  · rw [if_neg fun same => own same.2]
    simp only [own, false_and, if_false]

/-- The recorded value of an accepted request. -/
theorem renderPost_record (requests : List ByteArray) {request : ByteArray} {accepted : Accepted}
    (reads : acceptedReading request = some accepted) :
    ∃ record, (renderPost (serve requests) request).2 = .ok record ∧ record.isOutlier = false ∧
      record.decodedValue =
        npMean (correctValues (valueRead (serve requests) accepted) zThreshold) := by
  rw [← lastValues_acceptedReadings requests reads, serve_eq_siteDataOf,
    acceptedReadings_accepted requests request reads]
  obtain ⟨record, result, flag, value⟩ := renderPost_accepted (acceptedReadings requests) reads
  exact ⟨record, by rw [result], flag, value⟩

/-- The filtered mean is in range exactly when the readings are not all equal. -/
theorem recordedInRange_iff (record : Record) (readings : Fin 3 → ℤ) (own : ℤ)
    (flag : record.isOutlier = false)
    (value : record.decodedValue = npMean (correctValues readings zThreshold)) :
    RecordedInRange record readings own ↔
      ¬ (readings 0 = readings 1 ∧ readings 1 = readings 2) := by
  rw [← correctValues_eq_nil_iff, RecordedInRange, value]
  constructor
  · intro inRange empty
    rw [flag] at inRange
    exact absurd (inRange.2 empty).1 Bool.false_ne_true
  · intro kept
    refine ⟨⟨_, npMean_of_ne_nil kept, ?_⟩, fun empty => absurd empty kept⟩
    apply (npMean_withinRange kept).mono
    intro entry member
    obtain ⟨reading, inside, rfl⟩ := List.mem_map.mp member
    rw [correctValues_eq] at inside
    exact List.mem_map_of_mem (List.mem_of_mem_filter inside)

/-- In every reachable state the recorded value of an accepted report is in range exactly when the
three values that the handler reads are not all equal. -/
theorem recordedValue_inRange_iff (requests : List ByteArray) (request : ByteArray)
    (accepted : Accepted) (reads : acceptedReading request = some accepted) :
    ∃ record readings buffer, (renderPost (serve requests) request).2 = .ok record ∧
      zscoreAnalysisList (renderPost (serve requests) request).1 accepted.siteName = .ok readings ∧
      sensorEntry (renderPost (serve requests) request).1 accepted.siteName accepted.sensor =
        some buffer ∧
      (RecordedInRange record readings buffer.last ↔
        ¬ (valueRead (serve requests) accepted 0 = valueRead (serve requests) accepted 1 ∧
          valueRead (serve requests) accepted 1 = valueRead (serve requests) accepted 2)) := by
  obtain ⟨record, sends, flag, value⟩ := renderPost_record requests reads
  have passed := zscoreAnalysisList_renderPost requests reads
  rw [lastValues_acceptedReadings requests reads] at passed
  have entry := sensorEntry_of_hasSensor
    (fun siteName sensor => bufferOf (acceptedReadings (requests ++ [request]) siteName sensor))
    (acceptedReading_present reads)
  rw [← siteDataOf, ← serve_eq_siteDataOf, serve_concat] at entry
  exact ⟨record, _, _, sends, passed, entry, recordedInRange_iff record _ _ flag value⟩

/-- A report from Saclay after two reports from each sensor. -/
theorem recordedValue_inRange_iff_steady :
    ∃ record readings buffer,
      (renderPost (serve saclayReports) (printedReport "4" "1" 2600 1)).2 = .ok record ∧
      zscoreAnalysisList (renderPost (serve saclayReports) (printedReport "4" "1" 2600 1)).1
        "saclay" = .ok readings ∧
      sensorEntry (renderPost (serve saclayReports) (printedReport "4" "1" 2600 1)).1 "saclay" "1" =
        some buffer ∧
      (RecordedInRange record readings buffer.last ↔
        ¬ (valueRead (serve saclayReports) ⟨"saclay", "1", 2600⟩ 0 =
            valueRead (serve saclayReports) ⟨"saclay", "1", 2600⟩ 1 ∧
          valueRead (serve saclayReports) ⟨"saclay", "1", 2600⟩ 1 =
            valueRead (serve saclayReports) ⟨"saclay", "1", 2600⟩ 2)) :=
  recordedValue_inRange_iff saclayReports _ ⟨"saclay", "1", 2600⟩ acceptedReading_2600

/-- The first report of a run records a value that is not a number. -/
theorem recordedValue_firstReport :
    ∃ record, (renderPost (serve []) (printedReport "4" "1" 2500 0)).2 = .ok record ∧
      ∀ readings own, ¬ RecordedInRange record readings own := by
  have reads := acceptedReading_2500 "1" (by decide) (by decide)
  obtain ⟨record, sends, _, value⟩ := renderPost_record [] reads
  have empty : correctValues (valueRead (serve []) ⟨"saclay", "1", 2500⟩) zThreshold = [] := by
    rw [correctValues_eq_nil_iff]
    decide
  rw [empty] at value
  refine ⟨record, sends, ?_⟩
  intro readings own inRange
  obtain ⟨number, isNumber, _⟩ := inRange.1
  rw [value] at isNumber
  cases isNumber

end DataStreamPilot.Server
