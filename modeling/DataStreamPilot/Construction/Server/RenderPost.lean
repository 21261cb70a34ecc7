/-
This file models the resource `Temperature` of the CoAP server.
A request either raises an exception or reaches the call of `sendInfluxdb`. The changes that
it made before an exception remain.
-/

import Mathlib.Data.Int.Bitwise
import DataStreamPilot.Library.Dictionary
import DataStreamPilot.Library.Json
import DataStreamPilot.Construction.Server.FilterOutliers

namespace DataStreamPilot.Server

open Library Library.Json

abbrev windowSize : Nat := 2

/-- A key error carries the missing key. -/
inductive PyError where
  | unicodeDecodeError
  | jsonDecodeError
  | typeError
  | attributeError
  | valueError
  | indexError
  | keyError (key : JsonValue)

/-- The dictionary `{'values': [0] * WINDOW_SIZE, 'index': 0}` of one sensor. -/
@[ext] structure SensorBuffer where
  values : Vector ℤ windowSize
  index : Fin windowSize
  deriving DecidableEq

def emptyBuffer : SensorBuffer := ⟨Vector.replicate windowSize 0, 0⟩

/-- `buffer['values'][-1]` -/
def SensorBuffer.last (buffer : SensorBuffer) : ℤ := buffer.values[windowSize - 1]

/-- `buffer['values'][buffer['index']] = value` -/
def SensorBuffer.write (buffer : SensorBuffer) (value : ℤ) : SensorBuffer :=
  { buffer with values := buffer.values.set buffer.index value }

/-- `buffer['index'] = (buffer['index'] + 1) % WINDOW_SIZE` -/
def SensorBuffer.advance (buffer : SensorBuffer) : SensorBuffer :=
  { buffer with
    index := ⟨(buffer.index + 1) % windowSize, Nat.mod_lt _ (by decide)⟩ }

abbrev SiteData := Dictionary String (Dictionary String SensorBuffer)

/-- The three sensors of one site before any report. -/
def emptySensors : Dictionary String SensorBuffer :=
  [("1", emptyBuffer), ("2", emptyBuffer), ("3", emptyBuffer)]

/-- The attribute `site_data` as the constructor sets it. -/
def initialSiteData : SiteData :=
  [("grenoble", emptySensors), ("strasbourg", emptySensors), ("saclay", emptySensors),
    ("lillie", emptySensors)]

/-- The table `sites` of the configuration. -/
def sites : Dictionary String String :=
  [("0", "UNKNOWN"), ("1", "grenoble"), ("2", "paris"), ("3", "lille"), ("4", "saclay"),
    ("5", "strasbourg")]

/-- `dictionary[key]` for a key that came out of JSON, where lists and objects have no hash -/
def getItem {A : Type} (dictionary : Dictionary String A) (key : JsonValue) : Except PyError A :=
  match key with
  | .string name =>
      match dictionary.lookup name with
      | some value => .ok value
      | none => .error (.keyError key)
  | .array _ => .error .typeError
  | .object _ => .error .typeError
  | _ => .error (.keyError key)

/-- `payload[name]` for a value that came out of JSON -/
def getMember (payload : JsonValue) (name : String) : Except PyError JsonValue :=
  match payload with
  | .object members =>
      match member? members name with
      | some value => .ok value
      | none => .error (.keyError (.string name))
  | _ => .error .typeError

/-- The readings that `list(map(int, text.strip().split(',')))` gives. -/
def readInts (text : List Char) : Except PyError (List ℤ) :=
  match ((PythonText.strip text).splitOn ',').mapM PythonText.int? with
  | some readings => .ok readings
  | none => .error .valueError

def calculateOddParityBody (state : ℤ × Nat) : ℤ × Nat :=
  let (num, count) := state
  (num >>> (1 : Nat), if Int.land num 1 ≠ 0 then count + 1 else count)

/-- The server counts sixteen bits of an unbounded integer. -/
def calculateOddParity (num : ℤ) : Nat :=
  (Fin.foldl 16 (fun state _ => calculateOddParityBody state) (num, 0)).2

def parityCheck (value parity : ℤ) : Bool :=
  decide (((calculateOddParity value : ℤ) + parity) % 2 = 1)

/-- The local variables of `render_post` after the payload is read. -/
structure Report where
  site : JsonValue
  siteName : String
  sensor : JsonValue
  sensorValue : ℤ
  parity : ℤ

/-- The statements of `render_post` from the payload to the two integers. -/
def readReport (request : ByteArray) : Except PyError Report := do
  let text ←
    match String.fromUTF8? request with
    | some text => .ok text
    | none => .error .unicodeDecodeError
  let payload ←
    match loads text.toList with
    | some payload => .ok payload
    | none => .error .jsonDecodeError
  let site ← getMember payload "site"
  let siteName ← getItem sites site
  let sensor ← getMember payload "sensor"
  let sensorReading ← getMember payload "value"
  let reading ←
    match sensorReading with
    | .string text => readInts text.toList
    | _ => .error .attributeError
  match reading with
  | sensorValue :: parity :: _ => .ok ⟨site, siteName, sensor, sensorValue, parity⟩
  | _ => .error .indexError

/-- The parity check of the debug message gets the list of readings, on which `&` fails. -/
def debugParityCheck : Except PyError Bool := .error .typeError

/-- The number of keys of a sensor's dictionary. -/
def SensorBuffer.keys : Nat := 2

/-- The change of one sensor's dictionary through its two keys. -/
def modifyBuffer (siteData : SiteData) (siteName sensor : String)
    (change : SensorBuffer → SensorBuffer) : SiteData :=
  siteData.modify siteName fun sensors => sensors.modify sensor change

/-- `self.site_data[site_name][sensor]` together with its second key as a string -/
def getBuffer (siteData : SiteData) (siteName : String) (sensor : JsonValue) :
    Except PyError (String × SensorBuffer) := do
  let sensors ← getItem siteData (.string siteName)
  let buffer ← getItem sensors sensor
  match sensor with
  | .string name => .ok (name, buffer)
  | _ => .error .typeError

/-- The branch of `render_post` for a report that passes the parity check. -/
def storeAccepted (siteData : SiteData) (report : Report) : Except PyError SiteData := do
  let (sensor, _) ← getBuffer siteData report.siteName report.sensor
  .ok (modifyBuffer siteData report.siteName sensor (·.write report.sensorValue))

/-- The branch for a mismatch looks up `'values'` among the sensors of the site. -/
def storeCorrupted (siteData : SiteData) (report : Report) : Except PyError SiteData := do
  let sensors ← getItem siteData (.string report.siteName)
  let _ ← getItem sensors (.string "values")
  if 2 ≤ SensorBuffer.keys then
    let _ ← debugParityCheck
    let (sensor, buffer) ← getBuffer siteData report.siteName report.sensor
    let prevValue := buffer.last
    .ok (modifyBuffer siteData report.siteName sensor (·.write prevValue))
  else
    .ok siteData

/-- The parity check decides which reading enters the buffer. -/
def storeReading (siteData : SiteData) (report : Report) : Except PyError SiteData :=
  if parityCheck report.sensorValue report.parity then storeAccepted siteData report
  else storeCorrupted siteData report

/-- The index of the sensor advances in both branches. -/
def advanceIndex (siteData : SiteData) (report : Report) : Except PyError SiteData := do
  let (sensor, _) ← getBuffer siteData report.siteName report.sensor
  .ok (modifyBuffer siteData report.siteName sensor SensorBuffer.advance)

/-- The arguments of one call of `sendInfluxdb`. -/
structure Record where
  decodedValue : ExactFloat
  isOutlier : Bool
  site : JsonValue
  sensor : String

/-- The readings of the three sensors that `render_post` passes to the filter. -/
def zscoreAnalysisList (siteData : SiteData) (siteName : String) :
    Except PyError (Fin 3 → ℤ) := do
  let (_, sensor1) ← getBuffer siteData siteName (.string "1")
  let (_, sensor2) ← getBuffer siteData siteName (.string "2")
  let (_, sensor3) ← getBuffer siteData siteName (.string "3")
  .ok ![sensor1.last, sensor2.last, sensor3.last]

/-- The statements of `render_post` from the three readings to the call of `sendInfluxdb`. -/
def analyse (siteData : SiteData) (report : Report) : Except PyError Record := do
  let readings ← zscoreAnalysisList siteData report.siteName
  match filterOutliers readings zThreshold with
  | some decodedValue => .ok ⟨decodedValue, false, report.site, "1"⟩
  | none =>
      let (_, buffer) ← getBuffer siteData report.siteName report.sensor
      .ok ⟨.real buffer.last, true, report.site, "1"⟩

/-- The new state and the outcome of one request. The filter never returns `None`, so the
value that reaches `sendInfluxdb` is never `None` either. -/
def renderPost (siteData : SiteData) (request : ByteArray) : SiteData × Except PyError Record :=
  match readReport request with
  | .error error => (siteData, .error error)
  | .ok report =>
      match storeReading siteData report with
      | .error error => (siteData, .error error)
      | .ok stored =>
          match advanceIndex stored report with
          | .error error => (stored, .error error)
          | .ok advanced => (advanced, analyse advanced report)

/-- The state after a sequence of requests. -/
def serve (requests : List ByteArray) : SiteData :=
  requests.foldl (fun siteData request => (renderPost siteData request).1) initialSiteData

end DataStreamPilot.Server
