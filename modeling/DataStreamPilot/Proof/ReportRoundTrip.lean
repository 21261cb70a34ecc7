/-
This file proves that the server decodes the report that the node encodes.
-/

import DataStreamPilot.Proof.Parity
import DataStreamPilot.Proof.Server.ReadReport

namespace DataStreamPilot

open Library Library.Json

/-- The characters of a report in the order in which the node prints them. -/
theorem jsonText_eq (siteName : Nat) (sensorId : String) (roundedAvgTemp : Int16) (parity : Nat) :
    Node.jsonText siteName sensorId roundedAvgTemp parity =
      ['{', '"', 's', 'i', 't', 'e', '"', ':', ' ', '"'] ++ PythonText.decimal siteName ++
        ['"', ',', ' ', '"', 's', 'e', 'n', 's', 'o', 'r', '"', ':', ' ', '"'] ++ sensorId.toList ++
        ['"', ',', ' ', '"', 'v', 'a', 'l', 'u', 'e', '"', ':', ' ', '"'] ++
        PythonText.decimal roundedAvgTemp.toInt ++ [',', ' '] ++ PythonText.decimal parity ++
        ['"', '}'] := rfl

theorem reportText_eq (site sensor : List Char) (value parity : ℤ) :
    Server.reportText site sensor value parity =
      ['{', '"', 's', 'i', 't', 'e', '"', ':', ' ', '"'] ++ site ++
        ['"', ',', ' ', '"', 's', 'e', 'n', 's', 'o', 'r', '"', ':', ' ', '"'] ++ sensor ++
        ['"', ',', ' ', '"', 'v', 'a', 'l', 'u', 'e', '"', ':', ' ', '"'] ++
        PythonText.decimal value ++ [',', ' '] ++ PythonText.decimal parity ++ ['"', '}'] := by
  show objectText [(['s', 'i', 't', 'e'], site), (['s', 'e', 'n', 's', 'o', 'r'], sensor),
    (['v', 'a', 'l', 'u', 'e'],
      PythonText.decimal value ++ [',', ' '] ++ PythonText.decimal parity)] = _
  simp [objectText, membersText, quoted]

theorem natAbs_toInt_lt (value : Int16) : value.toInt.natAbs < 10 ^ 5 := by
  have lower := value.le_toInt
  have upper := value.toInt_lt
  omega

theorem decimal_toInt_length (value : Int16) :
    (PythonText.decimal value.toInt).length ≤ 5 + 1 :=
  PythonText.decimal_length_le (by decide) (natAbs_toInt_lt value)

theorem decimal_digit_length {digit : Nat} (small : digit < 10) :
    (PythonText.decimal digit).length ≤ 1 + 1 :=
  PythonText.decimal_length_le (by decide) (by rwa [Int.natAbs_natCast])

theorem asciiText_jsonText (siteName : Nat) (sensorId : String) (roundedAvgTemp : Int16)
    (parity : Nat) (ascii : PythonText.AsciiText sensorId.toList) :
    PythonText.AsciiText (Node.jsonText siteName sensorId roundedAvgTemp parity) := by
  have decimals := PythonText.asciiText_decimal
  rw [jsonText_eq]
  simp only [PythonText.asciiText_append, decimals, ascii, and_true]
  decide

/-- Every report of a node fits into the payload buffer. -/
theorem jsonText_length (siteName : Nat) (sensorId : String) (roundedAvgTemp : Int16) (parity : Nat)
    (smallSite : siteName < 10) (smallParity : parity < 10)
    (shortSensor : sensorId.toList.length ≤ 64) :
    (Node.jsonText siteName sensorId roundedAvgTemp parity).length <
      Node.maxJsonPayloadSize := by
  have site := decimal_digit_length smallSite
  have value := decimal_toInt_length roundedAvgTemp
  have bit := decimal_digit_length smallParity
  rw [jsonText_eq]
  simp only [List.length_append, List.length_cons, List.length_nil, Node.maxJsonPayloadSize]
  omega

/-- The text of the node is the text of a printed report. -/
theorem jsonText_eq_reportText (siteName : Nat) (sensorId : String) (roundedAvgTemp : Int16)
    (parity : Nat) : Node.jsonText siteName sensorId roundedAvgTemp parity =
      Server.reportText (PythonText.decimal siteName) sensorId.toList roundedAvgTemp.toInt
        parity := by
  rw [jsonText_eq, reportText_eq]

/-- A text that fits into the payload buffer is posted whole. -/
theorem jsonPayload_eq (siteName : Nat) (sensorId : String) (roundedAvgTemp : Int16)
    (ascii : PythonText.AsciiText sensorId.toList)
    (fits : (Node.jsonText siteName sensorId roundedAvgTemp
      (Node.calculateOddParity roundedAvgTemp)).length < Node.maxJsonPayloadSize) :
    Node.jsonPayload siteName sensorId roundedAvgTemp =
      Server.printedReport (String.ofList (PythonText.decimal siteName)) sensorId
        roundedAvgTemp.toInt (Node.calculateOddParity roundedAvgTemp) := by
  have small := Nat.le_sub_one_of_lt fits
  rw [← PythonText.utf8ByteSize_ofList _ (asciiText_jsonText _ _ _ _ ascii)] at small
  rw [Node.jsonPayload, PythonText.extract_toUTF8 _ _ small, Server.printedReport,
    String.toList_ofList, jsonText_eq_reportText]

/-- The name that the server gives to the site of a node. -/
def serverSite (siteName : String) : String :=
  if siteName ∈ ["grenoble", "paris", "lille", "saclay", "strasbourg"] then siteName else "UNKNOWN"

/-- The tables of the node and of the server agree on the five known sites. -/
theorem sites_lookup_binaryValue (siteName : String) :
    Node.getBinaryValue Node.locationMap siteName < 10 ∧
    Server.sites.lookup (String.ofList
      (PythonText.decimal (Node.getBinaryValue Node.locationMap siteName))) =
      some (serverSite siteName) := by
  by_cases known : siteName ∈ ["grenoble", "paris", "lille", "saclay", "strasbourg"]
  · rw [serverSite, if_pos known]
    simp only [List.mem_cons, List.not_mem_nil, or_false] at known
    rcases known with rfl | rfl | rfl | rfl | rfl
    all_goals decide
  · rw [serverSite, if_neg known]
    have zero : Node.getBinaryValue Node.locationMap siteName = 0 := by
      simp only [List.mem_cons, List.not_mem_nil, or_false, not_or] at known
      obtain ⟨one, two, three, four, five⟩ := known
      simp [Node.getBinaryValue, Node.locationMap, Ne.symm one, Ne.symm two, Ne.symm three,
        Ne.symm four, Ne.symm five]
    rw [zero]
    decide

/-- The numbers of a report are short. -/
theorem toDigits_length_le {number : ℤ} (bound : number.natAbs < 10 ^ 5) :
    (Nat.toDigits 10 number.natAbs).length ≤ PythonText.maxNumeralDigits :=
  ((Nat.length_toDigits_le_iff (by decide) (by decide)).mpr bound).trans (by decide)

theorem toDigits_parity_length_le (value : Int16) :
    (Nat.toDigits 10 (Node.calculateOddParity value : ℤ).natAbs).length ≤
      PythonText.maxNumeralDigits := by
  have parity := calculateOddParity_le value
  apply toDigits_length_le
  rw [Int.natAbs_natCast]
  omega

/-- The server reads a report that fits into the payload buffer as the node meant it. -/
theorem readReport_report_of_fits (siteName sensorId : String) (value : Int16)
    (plain : PlainText sensorId.toList) (ascii : PythonText.AsciiText sensorId.toList)
    (fits : (Node.jsonText (Node.getBinaryValue Node.locationMap siteName) sensorId value
      (Node.calculateOddParity value)).length < Node.maxJsonPayloadSize) :
    Server.readReport (Node.report siteName sensorId value) =
      .ok ⟨.string (String.ofList (PythonText.decimal
          (Node.getBinaryValue Node.locationMap siteName))), serverSite siteName,
        .string sensorId, value.toInt, Node.calculateOddParity value⟩ := by
  rw [Node.report, jsonPayload_eq _ _ _ ascii fits]
  refine Server.readReport_printedReport ?_ plain (toDigits_length_le (natAbs_toInt_lt value))
    (toDigits_parity_length_le value) (sites_lookup_binaryValue siteName).2
  rw [String.toList_ofList]
  exact Server.plain_decimal _

/-- The known sites are the locations of the table of the node. -/
theorem serverSite_eq (siteName : String) : serverSite siteName =
    if siteName ∈ Node.locationMap.map Node.LocationMapping.location then siteName
    else "UNKNOWN" := by
  have locations : Node.locationMap.map Node.LocationMapping.location =
      "UNKNOWN" :: ["grenoble", "paris", "lille", "saclay", "strasbourg"] := rfl
  rw [serverSite, locations]
  by_cases unknown : siteName = "UNKNOWN"
  · rw [unknown]
    decide
  · simp only [List.mem_cons, unknown, false_or]

/-- The server decodes the site, the sensor, the value and the parity bit of every report that
fits into the payload buffer, and the parity check succeeds. -/
theorem readReport_roundTrip (siteName sensorId : String) (value : Int16)
    (plain : PlainText sensorId.toList) (ascii : PythonText.AsciiText sensorId.toList)
    (fits : (Node.jsonText (Node.getBinaryValue Node.locationMap siteName) sensorId value
      (Node.calculateOddParity value)).length < Node.maxJsonPayloadSize) :
    ∃ payload site numbers,
      loads (Node.jsonText (Node.getBinaryValue Node.locationMap siteName) sensorId value
        (Node.calculateOddParity value)) = some payload ∧
      Server.getMember payload "value" = .ok (.string numbers) ∧
      Server.readInts numbers.toList = .ok [value.toInt, Node.calculateOddParity value] ∧
      Server.readReport (Node.report siteName sensorId value) = .ok ⟨site,
        if siteName ∈ Node.locationMap.map Node.LocationMapping.location then siteName
        else "UNKNOWN", .string sensorId, value.toInt, Node.calculateOddParity value⟩ ∧
      Server.parityCheck value.toInt (Node.calculateOddParity value) = true := by
  have reads := readReport_report_of_fits siteName sensorId value plain ascii fits
  rw [serverSite_eq] at reads
  have parsed := Server.loads_reportText value.toInt (Node.calculateOddParity value)
    (Server.plain_decimal (Node.getBinaryValue Node.locationMap siteName)) plain
  rw [jsonText_eq_reportText]
  refine ⟨_, _, _, parsed, (Server.getMember_report _ _ _).2.2, ?_, reads,
    parityCheck_calculateOddParity value⟩
  rw [String.toList_ofList]
  exact Server.readInts_decimals _ _ (toDigits_length_le (natAbs_toInt_lt value))
    (toDigits_parity_length_le value)

/-- A node in an unlisted site with a sensor id of several words. -/
theorem readReport_roundTrip_unlisted :
    ∃ payload site numbers,
      loads (Node.jsonText (Node.getBinaryValue Node.locationMap "oulu") "roof 7" (-1250)
        (Node.calculateOddParity (-1250))) = some payload ∧
      Server.getMember payload "value" = .ok (.string numbers) ∧
      Server.readInts numbers.toList =
        .ok [(-1250 : Int16).toInt, Node.calculateOddParity (-1250)] ∧
      Server.readReport (Node.report "oulu" "roof 7" (-1250)) = .ok ⟨site,
        if "oulu" ∈ Node.locationMap.map Node.LocationMapping.location then "oulu"
        else "UNKNOWN", .string "roof 7", (-1250 : Int16).toInt,
        Node.calculateOddParity (-1250)⟩ ∧
      Server.parityCheck (-1250 : Int16).toInt (Node.calculateOddParity (-1250)) = true :=
  readReport_roundTrip "oulu" "roof 7" (-1250) (by decide) (by decide)
    (jsonText_length _ _ _ _ (by decide) ((calculateOddParity_le _).trans_lt (by decide))
      (by decide))

end DataStreamPilot
