/-
This file models the parity routine of the test client.
-/

import DataStreamPilot.Library.PythonText

namespace DataStreamPilot.Client

open Library

/-- The ones of the signed binary numeral decide the bit after the comma. -/
def setParity (value : ℤ) : List Char :=
  let onesCount := (PythonText.bin value).count '1'
  if onesCount % 2 = 1 then List.intercalate [','] [PythonText.decimal value, ['0']]
  else List.intercalate [','] [PythonText.decimal value, ['1']]

end DataStreamPilot.Client
