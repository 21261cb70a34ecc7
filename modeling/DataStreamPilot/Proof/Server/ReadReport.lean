/-
This file proves that the server reads a printed report back.
-/

import DataStreamPilot.Library.JsonText
import DataStreamPilot.Proof.Server.StoreRefinement

namespace DataStreamPilot.Server

open Library Library.Json

/-- The object of a report, with the decimal texts of its value and of its parity. -/
def reportText (site sensor : List Char) (value parity : ℤ) : List Char :=
  objectText [("site".toList, site), ("sensor".toList, sensor),
    ("value".toList, PythonText.decimal value ++ ", ".toList ++ PythonText.decimal parity)]

theorem not_mem_decimal {c : Char} (noSign : c ≠ '-') (noDigit : c.isDigit = false) (value : ℤ) :
    c ∉ PythonText.decimal value := by
  intro member
  rcases PythonText.mem_decimal value c member with rfl | digit
  · exact noSign rfl
  · rw [noDigit] at digit
    cases digit

/-- The two integers of a report read back. -/
theorem readInts_decimals (value parity : ℤ)
    (shortValue : (Nat.toDigits 10 value.natAbs).length ≤ PythonText.maxNumeralDigits)
    (shortParity : (Nat.toDigits 10 parity.natAbs).length ≤ PythonText.maxNumeralDigits) :
    readInts (PythonText.decimal value ++ ", ".toList ++ PythonText.decimal parity) =
      .ok [value, parity] := by
  have text : PythonText.decimal value ++ ", ".toList ++ PythonText.decimal parity =
      PythonText.decimal value ++ ',' :: ' ' :: PythonText.decimal parity := by
    rw [List.append_assoc]
    rfl
  have stripped : PythonText.strip
      (PythonText.decimal value ++ ',' :: ' ' :: PythonText.decimal parity) =
      PythonText.decimal value ++ ',' :: ' ' :: PythonText.decimal parity := by
    apply PythonText.trim_eq_self
    · intro c head
      rw [List.head?_append_of_ne_nil _ (PythonText.decimal_ne_nil value)] at head
      exact PythonText.isSpace_of_mem_decimal value c (List.mem_of_head? head)
    · intro c last
      rw [List.getLast?_append_of_ne_nil _ (List.cons_ne_nil _ _), List.getLast?_cons_cons,
        List.getLast?_cons_of_ne_nil (PythonText.decimal_ne_nil parity)] at last
      exact PythonText.isSpace_of_mem_decimal parity c (List.mem_of_getLast? last)
  have split : (PythonText.decimal value ++ ',' :: ' ' :: PythonText.decimal parity).splitOn ',' =
      [PythonText.decimal value, ' ' :: PythonText.decimal parity] := by
    rw [List.splitOn_append_cons_self_of_not_mem (not_mem_decimal (by decide) (by decide) value),
      List.splitOn_eq_singleton]
    rw [List.mem_cons, not_or]
    exact ⟨by decide, not_mem_decimal (by decide) (by decide) parity⟩
  rw [text, readInts, stripped, split]
  simp [PythonText.int?_blank, PythonText.int?_decimal value shortValue,
    PythonText.int?_decimal parity shortParity]

theorem plain_decimal (value : ℤ) : PlainText (PythonText.decimal value) := by
  intro c member
  rcases PythonText.mem_decimal value c member with rfl | digit
  · decide
  · obtain ⟨lower, _⟩ := Char.isDigit_iff_toNat.mp digit
    refine ⟨?_, ?_, le_trans (by decide) lower⟩
    · rintro rfl
      exact absurd digit (by decide)
    · rintro rfl
      exact absurd digit (by decide)

/-- The three members of a report are found by their keys. -/
theorem getMember_report (site sensor value : JsonValue) :
    getMember (.object [("site", site), ("sensor", sensor), ("value", value)]) "site" = .ok site ∧
    getMember (.object [("site", site), ("sensor", sensor), ("value", value)]) "sensor" =
      .ok sensor ∧
    getMember (.object [("site", site), ("sensor", sensor), ("value", value)]) "value" =
      .ok value := by
  simp [getMember, member?, List.lookup_cons]

/-- The server parses a printed report into its three strings. -/
theorem loads_reportText {site sensor : List Char} (value parity : ℤ)
    (plainSite : PlainText site) (plainSensor : PlainText sensor) :
    loads (reportText site sensor value parity) = some (.object
      [("site", .string (String.ofList site)), ("sensor", .string (String.ofList sensor)),
        ("value", .string (String.ofList
          (PythonText.decimal value ++ ", ".toList ++ PythonText.decimal parity)))]) := by
  have plain (member : List Char × List Char) (inside : member ∈
      [("site".toList, site), ("sensor".toList, sensor), ("value".toList,
        PythonText.decimal value ++ ", ".toList ++ PythonText.decimal parity)]) :
      PlainText member.1 ∧ PlainText member.2 := by
    simp only [List.mem_cons, List.not_mem_nil, or_false] at inside
    rcases inside with rfl | rfl | rfl
    · exact ⟨(by decide : PlainText "site".toList), plainSite⟩
    · exact ⟨(by decide : PlainText "sensor".toList), plainSensor⟩
    · refine ⟨(by decide : PlainText "value".toList), fun c inside => ?_⟩
      rw [List.mem_append, List.mem_append] at inside
      rcases inside with (digit | comma) | digit
      · exact plain_decimal value c digit
      · exact (by decide : PlainText ", ".toList) c comma
      · exact plain_decimal parity c digit
  rw [reportText, loads_objectText _ (List.cons_ne_nil _ _) plain]
  rfl

/-- The server reads the site, the sensor and the two integers of a printed report. -/
theorem readReport_reportText {site sensor : List Char} {siteName : String} {value parity : ℤ}
    (plainSite : PlainText site) (plainSensor : PlainText sensor)
    (shortValue : (Nat.toDigits 10 value.natAbs).length ≤ PythonText.maxNumeralDigits)
    (shortParity : (Nat.toDigits 10 parity.natAbs).length ≤ PythonText.maxNumeralDigits)
    (known : sites.lookup (String.ofList site) = some siteName) :
    readReport (String.ofList (reportText site sensor value parity)).toUTF8 =
      .ok ⟨.string (String.ofList site), siteName, .string (String.ofList sensor), value,
        parity⟩ := by
  have parsed := loads_reportText value parity plainSite plainSensor
  have integers := readInts_decimals value parity shortValue shortParity
  have item : getItem sites (.string (String.ofList site)) = .ok siteName := by
    simp only [getItem, known]
  obtain ⟨siteMember, sensorMember, valueMember⟩ := getMember_report (.string (String.ofList site))
    (.string (String.ofList sensor)) (.string (String.ofList
      (PythonText.decimal value ++ ", ".toList ++ PythonText.decimal parity)))
  simp only [readReport, PythonText.fromUTF8?_toUTF8, String.toList_ofList, parsed, bind,
    Except.bind, siteMember, sensorMember, valueMember, item, integers]

/-- The bytes of a printed report. -/
def printedReport (site sensor : String) (value parity : ℤ) : ByteArray :=
  (String.ofList (reportText site.toList sensor.toList value parity)).toUTF8

theorem readReport_printedReport {site sensor siteName : String} {value parity : ℤ}
    (plainSite : PlainText site.toList) (plainSensor : PlainText sensor.toList)
    (shortValue : (Nat.toDigits 10 value.natAbs).length ≤ PythonText.maxNumeralDigits)
    (shortParity : (Nat.toDigits 10 parity.natAbs).length ≤ PythonText.maxNumeralDigits)
    (known : sites.lookup site = some siteName) :
    readReport (printedReport site sensor value parity) =
      .ok ⟨.string site, siteName, .string sensor, value, parity⟩ := by
  have known : sites.lookup (String.ofList site.toList) = some siteName := by
    rwa [String.ofList_toList]
  have read := readReport_reportText plainSite plainSensor shortValue shortParity known
  rwa [String.ofList_toList, String.ofList_toList] at read

/-- A printed report is accepted at a present sensor with the right parity. -/
theorem acceptedReading_printedReport {site sensor siteName : String} {value parity : ℤ}
    (plainSite : PlainText site.toList) (plainSensor : PlainText sensor.toList)
    (shortValue : (Nat.toDigits 10 value.natAbs).length ≤ PythonText.maxNumeralDigits)
    (shortParity : (Nat.toDigits 10 parity.natAbs).length ≤ PythonText.maxNumeralDigits)
    (known : sites.lookup site = some siteName) (present : hasSensor siteName sensor = true)
    (valid : parityCheck value parity = true) :
    acceptedReading (printedReport site sensor value parity) = some ⟨siteName, sensor, value⟩ := by
  rw [acceptedReading,
    readReport_printedReport plainSite plainSensor shortValue shortParity known]
  exact acceptReport_eq_some_iff.mpr ⟨rfl, rfl, rfl, present, valid⟩

end DataStreamPilot.Server
