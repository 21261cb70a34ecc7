/-
This file models the report that the compute engine posts to the server.
-/

import DataStreamPilot.Library.PythonText

namespace DataStreamPilot.Node

open Library

structure LocationMapping where
  location : String
  binaryValue : Nat

/-- The table ends before the entry that C marks with a null location. -/
def locationMap : List LocationMapping :=
  [⟨"UNKNOWN", 0⟩, ⟨"grenoble", 1⟩, ⟨"paris", 2⟩, ⟨"lille", 3⟩, ⟨"saclay", 4⟩,
    ⟨"strasbourg", 5⟩]

/-- The first matching location gives the value. The default is zero. -/
def getBinaryValue (mapping : List LocationMapping) (location : String) : Nat :=
  match mapping with
  | [] => 0
  | entry :: rest =>
      if entry.location = location then entry.binaryValue else getBinaryValue rest location

/-- One iteration counts the lowest bit and shifts the number arithmetically. -/
def oddParityBody (state : Int16 × Nat) : Int16 × Nat :=
  let (num, count) := state
  (num >>> 1, if num &&& 1 ≠ 0 then count + 1 else count)

def calculateOddParity (num : Int16) : Nat :=
  let count := (Fin.foldl 16 (fun state _ => oddParityBody state) (num, 0)).2
  if count % 2 = 0 then 1 else 0

def maxJsonPayloadSize : Nat := 128

/-- The format string of the report with its four arguments. -/
def jsonText (siteName : Nat) (sensorId : String) (roundedAvgTemp : Int16) (parity : Nat) :
    List Char :=
  "\x7b\"site\": \"".toList ++ PythonText.decimal siteName ++
    "\", \"sensor\": \"".toList ++ sensorId.toList ++
    "\", \"value\": \"".toList ++ PythonText.decimal roundedAvgTemp.toInt ++
    ", ".toList ++ PythonText.decimal parity ++ "\"\x7d".toList

/-- `snprintf` keeps one byte of the buffer for the terminator and cuts a longer text. -/
def jsonPayload (siteName : Nat) (sensorId : String) (roundedAvgTemp : Int16) : ByteArray :=
  (String.ofList (jsonText siteName sensorId roundedAvgTemp
    (calculateOddParity roundedAvgTemp))).toUTF8.extract 0 (maxJsonPayloadSize - 1)

/-- The bytes that a node built for a site and a sensor posts for one average. -/
def report (siteName sensorId : String) (roundedAvgTemp : Int16) : ByteArray :=
  jsonPayload (getBinaryValue locationMap siteName) sensorId roundedAvgTemp

end DataStreamPilot.Node
