/-
This file proves what becomes of a report that does not fit into the payload buffer of the node.
The node posts the cut text, and the server refuses it.
-/

import DataStreamPilot.Library.JsonPrefix
import DataStreamPilot.Proof.ReportRoundTrip

namespace DataStreamPilot

open Library Library.Json

/-- The text of a report fits into the payload buffer. -/
def Fits (siteName sensorId : String) (value : Int16) : Prop :=
  (Node.jsonText (Node.getBinaryValue Node.locationMap siteName) sensorId value
    (Node.calculateOddParity value)).length < Node.maxJsonPayloadSize

/-- The server reads the site, the sensor, the value and the parity bit that the node meant. -/
def ReadsAsMeant (siteName sensorId : String) (value : Int16) : Prop :=
  ∃ site, Server.readReport (Node.report siteName sensorId value) =
    .ok ⟨site, serverSite siteName, .string sensorId, value.toInt, Node.calculateOddParity value⟩

/-- The text of a report is an object of plain strings. -/
theorem jsonText_eq_objectText (siteName : Nat) (sensorId : String) (value : Int16) (parity : Nat) :
    Node.jsonText siteName sensorId value parity = objectText
      [("site".toList, PythonText.decimal siteName), ("sensor".toList, sensorId.toList),
        ("value".toList, PythonText.decimal value.toInt ++ ", ".toList ++
          PythonText.decimal parity)] :=
  jsonText_eq_reportText siteName sensorId value parity

/-- The keys and the strings of a report are plain. -/
theorem plain_reportMembers (siteName : Nat) {sensorId : String} (plain : PlainText sensorId.toList)
    (value : Int16) (parity : Nat) :
    ∀ member ∈ [("site".toList, PythonText.decimal siteName), ("sensor".toList, sensorId.toList),
        ("value".toList, PythonText.decimal value.toInt ++ ", ".toList ++
          PythonText.decimal parity)], PlainText member.1 ∧ PlainText member.2 := by
  intro member inside
  simp only [List.mem_cons, List.not_mem_nil, or_false] at inside
  rcases inside with rfl | rfl | rfl
  · exact ⟨(by decide : PlainText "site".toList), Server.plain_decimal _⟩
  · exact ⟨(by decide : PlainText "sensor".toList), plain⟩
  · refine ⟨(by decide : PlainText "value".toList), fun c digits => ?_⟩
    rw [List.mem_append, List.mem_append] at digits
    rcases digits with (digit | comma) | digit
    · exact Server.plain_decimal _ c digit
    · exact (by decide : PlainText ", ".toList) c comma
    · exact Server.plain_decimal _ c digit

/-- The payload is the text up to the last byte of the buffer. -/
theorem report_eq_take {siteName sensorId : String} {value : Int16}
    (ascii : PythonText.AsciiText sensorId.toList) :
    Node.report siteName sensorId value = (String.ofList ((Node.jsonText
      (Node.getBinaryValue Node.locationMap siteName) sensorId value
        (Node.calculateOddParity value)).take (Node.maxJsonPayloadSize - 1))).toUTF8 :=
  PythonText.extract_toUTF8_ofList _ (asciiText_jsonText _ _ _ _ ascii) _

/-- A cut report is not a JSON document. -/
theorem readReport_truncated {siteName sensorId : String} {value : Int16}
    (plain : PlainText sensorId.toList) (ascii : PythonText.AsciiText sensorId.toList)
    (long : ¬ Fits siteName sensorId value) :
    Server.readReport (Node.report siteName sensorId value) = .error .jsonDecodeError := by
  let text := Node.jsonText (Node.getBinaryValue Node.locationMap siteName) sensorId value
    (Node.calculateOddParity value)
  have inside : Node.maxJsonPayloadSize - 1 < text.length :=
    Nat.lt_of_lt_of_le (by decide) (Nat.not_lt.mp long)
  have strict : StrictPrefix (text.take (Node.maxJsonPayloadSize - 1)) text :=
    ⟨_, _, (List.take_append_drop _ text).symm.trans
      (congrArg _ (List.drop_eq_getElem_cons inside))⟩
  have refused : loads (text.take (Node.maxJsonPayloadSize - 1)) = none := by
    apply loads_cut _ (List.cons_ne_nil _ _)
      (plain_reportMembers (Node.getBinaryValue Node.locationMap siteName) plain value
        (Node.calculateOddParity value))
    rwa [← jsonText_eq_objectText]
  simp only [Server.readReport, report_eq_take ascii, PythonText.fromUTF8?_toUTF8,
    String.toList_ofList, refused, bind, Except.bind, text]

/-- The server reads a report as the node meant it exactly when the text fits into the payload
buffer. A report that does not fit is cut, and the server refuses it and changes nothing. -/
theorem report_readsAsMeant_iff (siteName sensorId : String) (value : Int16)
    (plain : PlainText sensorId.toList) (ascii : PythonText.AsciiText sensorId.toList) :
    (ReadsAsMeant siteName sensorId value ↔ Fits siteName sensorId value) ∧
      (¬ Fits siteName sensorId value → ∀ siteData,
        Server.renderPost siteData (Node.report siteName sensorId value) =
          (siteData, .error .jsonDecodeError)) := by
  refine ⟨⟨fun reads => ?_, fun fits => ?_⟩, fun long siteData => ?_⟩
  · by_contra long
    obtain ⟨site, result⟩ := reads
    rw [readReport_truncated plain ascii long] at result
    cases result
  · exact ⟨_, readReport_report_of_fits siteName sensorId value plain ascii fits⟩
  · rw [Server.renderPost, readReport_truncated plain ascii long]

/-- A sensor id of equal letters. -/
def repeatedSensorId (count : Nat) : String := String.ofList (List.replicate count 'a')

theorem eq_of_mem_repeatedSensorId {count : Nat} {c : Char}
    (member : c ∈ (repeatedSensorId count).toList) : c = 'a' := by
  rw [repeatedSensorId, String.toList_ofList] at member
  exact List.eq_of_mem_replicate member

theorem plain_repeatedSensorId (count : Nat) : PlainText (repeatedSensorId count).toList ∧
    PythonText.AsciiText (repeatedSensorId count).toList := by
  refine ⟨fun c member => ?_, fun c member => ?_⟩
  · rw [eq_of_mem_repeatedSensorId member]
    decide
  · rw [eq_of_mem_repeatedSensorId member]
    decide

/-- A sensor id of a hundred letters. -/
theorem report_readsAsMeant_iff_long :
    (ReadsAsMeant "saclay" (repeatedSensorId 100) 2500 ↔
      Fits "saclay" (repeatedSensorId 100) 2500) ∧
      (¬ Fits "saclay" (repeatedSensorId 100) 2500 → ∀ siteData,
        Server.renderPost siteData (Node.report "saclay" (repeatedSensorId 100) 2500) =
          (siteData, .error .jsonDecodeError)) :=
  report_readsAsMeant_iff "saclay" (repeatedSensorId 100) 2500 (plain_repeatedSensorId 100).1
    (plain_repeatedSensorId 100).2

end DataStreamPilot
