/-
This file models the main loop of the batching node, the copy of the compute engine that sends
differences. The temperature of each round is an input.
-/

import DataStreamPilot.Construction.Node.Report

namespace DataStreamPilot.Batching

open Library

/-- The size of the array `data.buffer` -/
abbrev bufferSize : Nat := 128

def maxJsonPayloadSize : Nat := 256

/-- The copy has the parity function of the compute engine. -/
def calculateOddParity (num : Int16) : Nat := Node.calculateOddParity num

/-- The copy has the table and the lookup of the compute engine. -/
def getBinaryValue (siteName : String) : Nat := Node.getBinaryValue Node.locationMap siteName

/-- A text that does not fit its array has no defined effect. A failed `snprintf` ends `main`. -/
inductive Exit where
  | overflow
  | returned
  deriving DecidableEq, Repr

/-- `sprintf` writes a text and its terminator into an array. -/
def sprintf (size : Nat) (text : List Char) : Except Exit (List Char) :=
  if text.length < size then .ok text else .error .overflow

/-- `strcat` writes the joined text and its terminator into the array of the first text. -/
def strcat (size : Nat) (first second : List Char) : Except Exit (List Char) :=
  if (first ++ second).length < size then .ok (first ++ second) else .error .overflow

/-- The variables of `main` that live across rounds. -/
structure State where
  counter : Nat
  baseValue : Int16
  buffer : List Char
  deriving DecidableEq, Repr

def start : State where
  counter := 0
  baseValue := 0
  buffer := []

/-- The nested conditional expression on the difference. -/
def clamp (temp : Int16) : Int16 :=
  if temp < -128 then -128 else if temp > 127 then 127 else temp

/-- The new base, the transmitted value and the flag of one reading. -/
def encodeReading (counter : Nat) (baseValue temp : Int16) : Int16 × Int16 × Nat :=
  if counter = 0 then (temp, temp, 1) else (baseValue, clamp (temp - baseValue), 0)

/-- The format string of the payload with its three arguments. -/
def jsonText (siteName : Nat) (buffer : List Char) (isBase : Nat) : List Char :=
  "\x7b\"s\": \"".toList ++ PythonText.decimal siteName ++ "\", \"t\": \"".toList ++ buffer ++
    "\", \"b\": \"".toList ++ PythonText.decimal isBase ++ "\"\x7d".toList

/-- The `snprintf` of the payload and the test of its result. -/
def jsonPayload (siteName : Nat) (buffer : List Char) (isBase : Nat) : Except Exit (List Char) :=
  let text := jsonText siteName buffer isBase
  if text.length ≥ maxJsonPayloadSize then .error .returned else .ok text

/-- The body of the `if` statement, with the payload that is posted. -/
def sendReading (siteName : Nat) (state : State) (temp : Int16) :
    Except Exit (State × List Char) := do
  let counter := state.counter % 10
  let (baseValue, temp, isBase) := encodeReading counter state.baseValue temp
  let tempStr ← sprintf 10 (PythonText.decimal temp.toInt ++ [','])
  let buffer ← strcat bufferSize state.buffer tempStr
  let parityBit ← sprintf 4 (PythonText.decimal (calculateOddParity temp) ++ [','])
  let buffer ← strcat bufferSize buffer parityBit
  let payload ← jsonPayload siteName buffer isBase
  return ({ counter := counter + 1, baseValue, buffer := [] }, payload)

/-- One round of the loop. A temperature of at most 30 sends nothing. -/
def mainLoop (siteName : Nat) (state : State) (temp : Int16) :
    Except Exit (State × List (List Char)) :=
  if temp > 30 then do
    let (next, payload) ← sendReading siteName state temp
    return (next, [payload])
  else return (state, [])

/-- The state and the posted payloads after a finite sequence of rounds. -/
def run (siteName : Nat) (state : State) : List Int16 → Except Exit (State × List (List Char))
  | [] => .ok (state, [])
  | temp :: rest => do
      let (next, posted) ← mainLoop siteName state temp
      let (final, later) ← run siteName next rest
      return (final, posted ++ later)

end DataStreamPilot.Batching
