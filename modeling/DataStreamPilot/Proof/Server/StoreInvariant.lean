/-
This file proves the invariant of the store together with the requests that it accepts.
The two kinds of requests are described by their JSON fields and not by the handler.
-/

import DataStreamPilot.Library.Machine
import DataStreamPilot.Proof.Server.ReadReport

namespace DataStreamPilot.Server

open Library Library.Json

/-- The bytes of a request are a text that `json.loads` reads. -/
def Carries (request : ByteArray) (payload : JsonValue) : Prop :=
  ∃ text, String.fromUTF8? request = some text ∧ loads text.toList = some payload

/-- A payload is an object whose member of this name has this value. -/
def HasField (payload : JsonValue) (name : String) (value : JsonValue) : Prop :=
  ∃ members, payload = .object members ∧ member? members name = some value

/-- The fields that the handler reads. -/
def fieldNames : List String := ["site", "sensor", "value"]

/-- The texts of the three fields. -/
structure Fields where
  site : String
  sensor : String
  value : String

/-- A request is an object with a text in each of the three fields. -/
structure HasFields (request : ByteArray) (fields : Fields) : Prop where
  texts : ∃ payload, Carries request payload ∧
    HasField payload "site" (.string fields.site) ∧
    HasField payload "sensor" (.string fields.sensor) ∧
    HasField payload "value" (.string fields.value)

/-- The texts between the commas of the field `value`. -/
def Fields.parts (fields : Fields) : List (List Char) :=
  (PythonText.strip fields.value.toList).splitOn ','

/-- A well-formed report of a present sensor that passes the parity check. -/
structure IsReport (request : ByteArray) (accepted : Accepted) : Prop where
  present : hasSensor accepted.siteName accepted.sensor = true
  reads : ∃ fields parity more, HasFields request fields ∧
    sites.lookup fields.site = some accepted.siteName ∧ fields.sensor = accepted.sensor ∧
    fields.parts.mapM PythonText.int? = some (accepted.value :: parity :: more) ∧
    parityCheck accepted.value parity = true

/-- The requests that fail before the handler reaches a buffer. -/
inductive Malformed (request : ByteArray) : Prop where
  | notJson (unread : ∀ payload, ¬ Carries request payload)
  | noText {payload : JsonValue} {name : String} (carries : Carries request payload)
      (read : name ∈ fieldNames) (absent : ∀ text, ¬ HasField payload name (.string text))
  | unknownSite {fields : Fields} (has : HasFields request fields)
      (unknown : sites.lookup fields.site = none)
  | unknownSensor {fields : Fields} {siteName : String} (has : HasFields request fields)
      (site : sites.lookup fields.site = some siteName)
      (unknown : hasSensor siteName fields.sensor = false)
  | notInteger {fields : Fields} {part : List Char} (has : HasFields request fields)
      (inside : part ∈ fields.parts) (unread : PythonText.int? part = none)
  | missingNumber {fields : Fields} (has : HasFields request fields)
      (few : fields.parts.length < 2)

theorem Carries.unique {request : ByteArray} {first second : JsonValue}
    (one : Carries request first) (other : Carries request second) : first = second := by
  obtain ⟨text, decoded, read⟩ := one
  obtain ⟨same, decodedAgain, readAgain⟩ := other
  obtain rfl := Option.some.inj (decoded.symm.trans decodedAgain)
  exact Option.some.inj (read.symm.trans readAgain)

theorem HasField.unique {payload first second : JsonValue} {name : String}
    (one : HasField payload name first) (other : HasField payload name second) :
    first = second := by
  obtain ⟨members, rfl, found⟩ := one
  obtain ⟨same, equal, foundAgain⟩ := other
  obtain rfl := JsonValue.object.inj equal
  exact Option.some.inj (found.symm.trans foundAgain)

/-- The three texts of a request are determined. -/
theorem HasFields.unique {request : ByteArray} {first second : Fields}
    (one : HasFields request first) (other : HasFields request second) : first = second := by
  obtain ⟨payload, carries, site, sensor, value⟩ := one.texts
  obtain ⟨same, carriesAgain, siteAgain, sensorAgain, valueAgain⟩ := other.texts
  obtain rfl := carries.unique carriesAgain
  obtain ⟨siteText, sensorText, valueText⟩ := first
  obtain rfl := JsonValue.string.inj (site.unique siteAgain)
  obtain rfl := JsonValue.string.inj (sensor.unique sensorAgain)
  obtain rfl := JsonValue.string.inj (value.unique valueAgain)
  rfl

/-- A request with three texts has a text in every field that the handler reads. -/
theorem HasFields.text {request : ByteArray} {fields : Fields} (has : HasFields request fields)
    {payload : JsonValue} (carries : Carries request payload) {name : String}
    (read : name ∈ fieldNames) : ∃ text, HasField payload name (.string text) := by
  obtain ⟨same, carriesAgain, site, sensor, value⟩ := has.texts
  obtain rfl := carries.unique carriesAgain
  simp only [fieldNames, List.mem_cons, List.not_mem_nil, or_false] at read
  rcases read with rfl | rfl | rfl
  · exact ⟨_, site⟩
  · exact ⟨_, sensor⟩
  · exact ⟨_, value⟩

theorem getMember_eq_ok_iff {payload value : JsonValue} {name : String} :
    getMember payload name = .ok value ↔ HasField payload name value := by
  cases payload with
  | object members =>
      rw [getMember, HasField]
      cases found : member? members name with
      | none => simp [found]
      | some other => simp [found]
  | _ => simp [getMember, HasField]

/-- Only a text is found among the keys of a dictionary. -/
theorem getItem_eq_ok_iff {A : Type} {dictionary : Dictionary String A} {key : JsonValue}
    {value : A} :
    getItem dictionary key = .ok value ↔
      ∃ name, key = .string name ∧ dictionary.lookup name = some value := by
  cases key with
  | string name =>
      rw [getItem]
      cases found : dictionary.lookup name with
      | none => simp [found]
      | some other => simp [found]
  | _ => simp [getItem]

theorem readInts_eq_ok_iff {text : List Char} {readings : List ℤ} :
    readInts text = .ok readings ↔
      ((PythonText.strip text).splitOn ',').mapM PythonText.int? = some readings := by
  rw [readInts]
  cases ((PythonText.strip text).splitOn ',').mapM PythonText.int? with
  | none => simp
  | some numbers => simp

/-- A request that is read carries a payload. -/
theorem carries_of_readReport {request : ByteArray} {report : Report}
    (reads : readReport request = .ok report) : ∃ payload, Carries request payload := by
  cases decoded : String.fromUTF8? request with
  | none => simp [readReport, decoded, bind, Except.bind] at reads
  | some text =>
      cases parsed : loads text.toList with
      | none => simp [readReport, decoded, parsed, bind, Except.bind] at reads
      | some payload => exact ⟨payload, text, decoded, parsed⟩

/-- The report of a request is determined by its fields. -/
theorem readReport_eq_ok_iff {request : ByteArray} {report : Report} :
    readReport request = .ok report ↔
      ∃ payload site numbers more, Carries request payload ∧
        HasField payload "site" (.string site) ∧ report.site = .string site ∧
        sites.lookup site = some report.siteName ∧
        HasField payload "sensor" report.sensor ∧
        HasField payload "value" (.string numbers) ∧
        ((PythonText.strip numbers.toList).splitOn ',').mapM PythonText.int? =
          some (report.sensorValue :: report.parity :: more) := by
  constructor
  · intro reads
    obtain ⟨payload, text, decoded, parsed⟩ := carries_of_readReport reads
    simp only [readReport, decoded, parsed, bind, Except.bind] at reads
    change (getMember payload "site" >>= _) = _ at reads
    obtain ⟨site, siteField, reads⟩ := exists_of_bind_eq_ok reads
    change (getItem sites site >>= _) = _ at reads
    obtain ⟨siteName, known, reads⟩ := exists_of_bind_eq_ok reads
    change (getMember payload "sensor" >>= _) = _ at reads
    obtain ⟨sensor, sensorField, reads⟩ := exists_of_bind_eq_ok reads
    change (getMember payload "value" >>= _) = _ at reads
    obtain ⟨value, valueField, reads⟩ := exists_of_bind_eq_ok reads
    obtain ⟨name, rfl, found⟩ := getItem_eq_ok_iff.mp known
    cases value with
    | string numbers =>
        change (readInts numbers.toList >>= _) = _ at reads
        obtain ⟨readings, integers, reads⟩ := exists_of_bind_eq_ok reads
        obtain ⟨sensorValue, parity, more, rfl⟩ :
            ∃ sensorValue parity more, readings = sensorValue :: parity :: more := by
          rcases readings with _ | ⟨sensorValue, _ | ⟨parity, more⟩⟩
          · cases reads
          · cases reads
          · exact ⟨sensorValue, parity, more, rfl⟩
        obtain rfl := Except.ok.inj reads
        exact ⟨payload, name, numbers, more, ⟨text, decoded, parsed⟩,
          getMember_eq_ok_iff.mp siteField, rfl, found, getMember_eq_ok_iff.mp sensorField,
          getMember_eq_ok_iff.mp valueField, readInts_eq_ok_iff.mp integers⟩
    | _ => cases reads
  · rintro ⟨payload, site, numbers, more, ⟨text, decoded, parsed⟩, siteField, named, known,
      sensorField, valueField, integers⟩
    have item : getItem sites (.string site) = .ok report.siteName :=
      getItem_eq_ok_iff.mpr ⟨site, rfl, known⟩
    have readings := readInts_eq_ok_iff.mpr integers
    simp only [readReport, decoded, parsed, bind, Except.bind,
      getMember_eq_ok_iff.mpr siteField, item, getMember_eq_ok_iff.mpr sensorField,
      getMember_eq_ok_iff.mpr valueField, readings]
    rw [← named]

/-- The handler accepts exactly the well-formed reports of present sensors with the right
parity. -/
theorem acceptedReading_iff_isReport {request : ByteArray} {accepted : Accepted} :
    acceptedReading request = some accepted ↔ IsReport request accepted := by
  constructor
  · intro accepts
    obtain ⟨report, reads, stored⟩ := acceptedReading_eq_some_iff.mp accepts
    obtain ⟨sensor, siteName, value, present, valid⟩ := acceptReport_eq_some_iff.mp stored
    obtain ⟨payload, site, numbers, more, carries, siteField, _, known, sensorField, valueField,
      integers⟩ := readReport_eq_ok_iff.mp reads
    rw [sensor] at sensorField
    rw [siteName] at known
    rw [value] at integers valid
    exact ⟨present, ⟨site, accepted.sensor, numbers⟩, report.parity, more,
      ⟨payload, carries, siteField, sensorField, valueField⟩, known, rfl, integers, valid⟩
  · rintro ⟨present, fields, parity, more, has, known, sensor, integers, valid⟩
    obtain ⟨payload, carries, siteField, sensorField, valueField⟩ := has.texts
    rw [sensor] at sensorField
    apply acceptedReading_eq_some_iff.mpr
    refine ⟨⟨.string fields.site, accepted.siteName, .string accepted.sensor, accepted.value,
      parity⟩, ?_, acceptReport_eq_some_iff.mpr ⟨rfl, rfl, rfl, present, valid⟩⟩
    exact readReport_eq_ok_iff.mpr ⟨payload, fields.site, fields.value, more, carries, siteField,
      rfl, known, sensorField, valueField, integers⟩

theorem acceptedReading_eq_none_iff {request : ByteArray} :
    acceptedReading request = none ↔ ∀ accepted, ¬ IsReport request accepted := by
  rw [Option.eq_none_iff_forall_ne_some]
  exact forall_congr' fun accepted => not_congr acceptedReading_iff_isReport

/-- A conversion of a whole list converts every element. -/
theorem forall₂_of_mapM {A B : Type} {convert : A → Option B} {list : List A} {results : List B}
    (converts : list.mapM convert = some results) :
    List.Forall₂ (fun element result => convert element = some result) list results := by
  induction list generalizing results with
  | nil =>
      obtain rfl : [] = results := Option.some.inj converts
      exact .nil
  | cons element rest ih =>
      rw [List.mapM_cons] at converts
      obtain ⟨head, first, converts⟩ := Option.bind_eq_some_iff.mp converts
      obtain ⟨tail, later, converts⟩ := Option.bind_eq_some_iff.mp converts
      obtain rfl : head :: tail = results := Option.some.inj converts
      exact .cons first (ih later)

/-- A malformed request is no report. -/
theorem Malformed.not_isReport {request : ByteArray} (malformed : Malformed request)
    (accepted : Accepted) : ¬ IsReport request accepted := by
  rintro ⟨present, fields, parity, more, has, known, sensor, integers, _⟩
  have converted := forall₂_of_mapM integers
  cases malformed with
  | notJson unread =>
      obtain ⟨payload, carries, _⟩ := has.texts
      exact unread payload carries
  | noText carries read absent =>
      obtain ⟨text, field⟩ := has.text carries read
      exact absent text field
  | unknownSite hasAgain unknown =>
      obtain rfl := has.unique hasAgain
      rw [unknown] at known
      cases known
  | unknownSensor hasAgain site unknown =>
      obtain rfl := has.unique hasAgain
      obtain rfl := Option.some.inj (known.symm.trans site)
      rw [← sensor, unknown] at present
      cases present
  | notInteger hasAgain inside unread =>
      obtain rfl := has.unique hasAgain
      obtain ⟨index, within, rfl⟩ := List.getElem_of_mem inside
      have read := List.forall₂_iff_get.mp converted
      have number := read.2 index within (read.1 ▸ within)
      rw [List.get_eq_getElem, unread] at number
      cases number
  | missingNumber hasAgain few =>
      obtain rfl := has.unique hasAgain
      have length := converted.length_eq
      simp only [List.length_cons] at length
      omega

/-- A malformed request adds nothing to a history. -/
theorem Malformed.acceptedReading_eq_none {request : ByteArray} (malformed : Malformed request) :
    acceptedReading request = none :=
  acceptedReading_eq_none_iff.mpr malformed.not_isReport

/-- A printed report of a present sensor with the right parity is a report. -/
theorem isReport_printedReport {site sensor siteName : String} {value parity : ℤ}
    (plainSite : PlainText site.toList) (plainSensor : PlainText sensor.toList)
    (shortValue : (Nat.toDigits 10 value.natAbs).length ≤ PythonText.maxNumeralDigits)
    (shortParity : (Nat.toDigits 10 parity.natAbs).length ≤ PythonText.maxNumeralDigits)
    (known : sites.lookup site = some siteName) (present : hasSensor siteName sensor = true)
    (valid : parityCheck value parity = true) :
    IsReport (printedReport site sensor value parity) ⟨siteName, sensor, value⟩ :=
  acceptedReading_iff_isReport.mp
    (acceptedReading_printedReport plainSite plainSensor shortValue shortParity known present valid)

/-- A report is answered in every reachable state. -/
theorem renderPost_serve_accepted (requests : List ByteArray) {request : ByteArray}
    {accepted : Accepted} (reads : acceptedReading request = some accepted) :
    ∃ record, (renderPost (serve requests) request).2 = .ok record := by
  obtain ⟨record, result, _⟩ := renderPost_accepted (acceptedReadings requests) reads
  exact ⟨record, by rw [serve_eq_siteDataOf, result]⟩

/-- Every other request raises an exception in every reachable state and changes nothing. -/
theorem renderPost_serve_rejected (requests : List ByteArray) {request : ByteArray}
    (rejected : acceptedReading request = none) :
    ∃ error, renderPost (serve requests) request = (serve requests, .error error) := by
  rw [serve_eq_siteDataOf, siteDataOf]
  exact renderPost_rejected _ rejected

/-- Each buffer of a run is determined by the accepted readings of its own sensor. A request
that raises an exception changes nothing, and requests for different sensors commute. The accepted
readings are those of the well-formed reports, which never raise, and every other request raises,
in particular every malformed one. -/
theorem serve_bufferHolds (requests : List ByteArray) :
    (∀ siteName sensor, (sensorEntry (serve requests) siteName sensor).isSome =
      hasSensor siteName sensor) ∧
    (∀ siteName sensor, ∀ buffer ∈ sensorEntry (serve requests) siteName sensor,
      BufferHolds (acceptedReadings requests siteName sensor) buffer) ∧
    (∀ request error, (renderPost (serve requests) request).2 = .error error →
      (renderPost (serve requests) request).1 = serve requests) ∧
    (∀ other, acceptedReadings other = acceptedReadings requests → serve other = serve requests) ∧
    (∀ first second later, (∀ one ∈ acceptedReading first, ∀ other ∈ acceptedReading second,
        (one.siteName, one.sensor) ≠ (other.siteName, other.sensor)) →
      serve (requests ++ first :: second :: later) =
        serve (requests ++ second :: first :: later)) ∧
    (∀ request accepted, acceptedReading request = some accepted ↔ IsReport request accepted) ∧
    (∀ request accepted, IsReport request accepted →
      ∃ record, (renderPost (serve requests) request).2 = .ok record) ∧
    (∀ request, (∀ accepted, ¬ IsReport request accepted) →
      ∃ error, renderPost (serve requests) request = (serve requests, .error error)) ∧
    (∀ request, Malformed request →
      ∃ error, renderPost (serve requests) request = (serve requests, .error error)) ∧
    ∀ site sensor siteName value parity, PlainText site.toList → PlainText sensor.toList →
      (Nat.toDigits 10 value.natAbs).length ≤ PythonText.maxNumeralDigits →
      (Nat.toDigits 10 parity.natAbs).length ≤ PythonText.maxNumeralDigits →
      sites.lookup site = some siteName → hasSensor siteName sensor = true →
      parityCheck value parity = true →
      IsReport (printedReport site sensor value parity) ⟨siteName, sensor, value⟩ := by
  refine ⟨?_, ?_, ?_, ?_, ?_, ?_, ?_, ?_, ?_, ?_⟩
  · intro siteName sensor
    rw [serve_eq_siteDataOf, siteDataOf, sensorEntry_siteDataFrom, Option.isSome_map, hasSensor]
  · intro siteName sensor buffer found
    rw [serve_eq_siteDataOf, siteDataOf, sensorEntry_siteDataFrom, Option.mem_def,
      Option.map_eq_some_iff] at found
    obtain ⟨_, _, rfl⟩ := found
    exact bufferOf_holds _
  · intro request error raises
    cases reads : acceptedReading request with
    | none =>
        obtain ⟨_, result⟩ := renderPost_serve_rejected requests reads
        rw [result]
    | some accepted =>
        obtain ⟨record, sends⟩ := renderPost_serve_accepted requests reads
        rw [sends] at raises
        cases raises
  · intro other same
    rw [serve_eq_siteDataOf, serve_eq_siteDataOf, same]
  · intro first second later different
    rw [serve_eq_siteDataOf, serve_eq_siteDataOf,
      acceptedReadings_swap requests later first second different]
  · intro request accepted
    exact acceptedReading_iff_isReport
  · intro request accepted report
    exact renderPost_serve_accepted requests (acceptedReading_iff_isReport.mpr report)
  · intro request noReport
    exact renderPost_serve_rejected requests (acceptedReading_eq_none_iff.mpr noReport)
  · intro request malformed
    exact renderPost_serve_rejected requests malformed.acceptedReading_eq_none
  · intro site sensor siteName value parity plainSite plainSensor shortValue shortParity known
      present valid
    exact isReport_printedReport plainSite plainSensor shortValue shortParity known present valid

/-- An object without fields is malformed. -/
theorem malformed_noFields : Malformed "\x7b\x7d".toUTF8 := by
  have carries : Carries "\x7b\x7d".toUTF8 (.object []) :=
    ⟨_, PythonText.fromUTF8?_toUTF8 _, rfl⟩
  have absent (text : String) : ¬ HasField (.object []) "site" (.string text) := by
    rintro ⟨members, same, found⟩
    obtain rfl := JsonValue.object.inj same
    cases found
  exact .noText carries List.mem_cons_self absent

/-- Three accepted reports from one sensor in Saclay, one from another sensor and an object without
fields. -/
def mixedRequests : List ByteArray :=
  [printedReport "4" "1" 2500 0, "\x7b\x7d".toUTF8, printedReport "4" "2" 2600 1,
    printedReport "4" "1" 2600 1, printedReport "4" "1" 2500 0]

theorem acceptedReadings_mixedRequests :
    acceptedReadings mixedRequests "saclay" "1" = [2500, 2600, 2500] := by
  have even (sensor : String) (plain : PlainText sensor.toList)
      (present : hasSensor "saclay" sensor = true) :
      acceptedReading (printedReport "4" sensor 2500 0) = some ⟨"saclay", sensor, 2500⟩ :=
    acceptedReading_printedReport (by decide) plain (by decide) (by decide) (by decide) present
      (by decide)
  have odd (sensor : String) (plain : PlainText sensor.toList)
      (present : hasSensor "saclay" sensor = true) :
      acceptedReading (printedReport "4" sensor 2600 1) = some ⟨"saclay", sensor, 2600⟩ :=
    acceptedReading_printedReport (by decide) plain (by decide) (by decide) (by decide) present
      (by decide)
  rw [acceptedReadings, mixedRequests]
  simp only [List.filterMap_cons, List.filterMap_nil, even "1" (by decide) (by decide),
    malformed_noFields.acceptedReading_eq_none, odd "1" (by decide) (by decide),
    odd "2" (by decide) (by decide)]
  decide

/-- The buffer holds the second and the third reading, and the object without fields raises. -/
theorem serve_bufferHolds_mixed :
    (∃ buffer ∈ sensorEntry (serve mixedRequests) "saclay" "1",
      buffer.index = 1 ∧ buffer.values[0]? = some 2500 ∧ buffer.values[1]? = some 2600) ∧
    (∃ record, (renderPost (serve mixedRequests) (printedReport "4" "1" 2500 0)).2 = .ok record) ∧
    ∃ error, renderPost (serve mixedRequests) "\x7b\x7d".toUTF8 =
      (serve mixedRequests, .error error) := by
  obtain ⟨keys, buffers, _, _, _, _, answered, _, rejected, printed⟩ :=
    serve_bufferHolds mixedRequests
  refine ⟨?_, ?_, rejected _ malformed_noFields⟩
  · have present : (sensorEntry (serve mixedRequests) "saclay" "1").isSome = true :=
      (keys "saclay" "1").trans (by decide)
    obtain ⟨buffer, found⟩ := Option.isSome_iff_exists.mp present
    have holds := buffers "saclay" "1" buffer found
    rw [acceptedReadings_mixedRequests] at holds
    exact ⟨buffer, found, Fin.ext holds.index, holds.recent 0 (by decide),
      holds.recent 1 (by decide)⟩
  · exact answered _ _ (printed "4" "1" "saclay" 2500 0 (by decide) (by decide) (by decide)
      (by decide) (by decide) (by decide) (by decide))

end DataStreamPilot.Server
