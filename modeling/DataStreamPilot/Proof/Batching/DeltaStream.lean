/-
This file proves that the batching node sends the delta code of its readings.
Every tenth reading is a base, so the receiver never uses the base of an earlier group.
-/

import DataStreamPilot.Proof.Batching.Receiver

namespace DataStreamPilot.Batching

open Library

/-- The readings above the gate. -/
def sentReadings (temps : List Int16) : List Int16 := temps.filter fun temp => temp > 30

/-- The limit on a difference. -/
def limit (difference : ℤ) : ℤ := max (-128) (min difference 127)

/-- The invariant of the loop. A base in use is a reading that has passed the gate. -/
structure Aligned (state : State) : Prop where
  cleared : state.buffer = []
  base : state.counter % 10 ≠ 0 → 30 < state.baseValue.toInt

theorem start_aligned : Aligned start where
  cleared := rfl
  base nonzero := absurd rfl nonzero

theorem gate_iff (temp : Int16) : temp > 30 ↔ 30 < temp.toInt := Int16.lt_iff_toInt_lt

/-- The difference of two readings above the gate does not wrap around. -/
theorem toInt_sub_of_gate {temp base : Int16} (above : 30 < temp.toInt)
    (baseAbove : 30 < base.toInt) : (temp - base).toInt = temp.toInt - base.toInt := by
  have upper := temp.toInt_lt
  have baseUpper := base.toInt_lt
  rw [Int16.toInt_sub]
  exact Int.bmod_eq_of_le (by omega) (by omega)

theorem clamp_toInt (difference : Int16) : (clamp difference).toInt = limit difference.toInt := by
  have low : difference < -128 ↔ difference.toInt < -128 := Int16.lt_iff_toInt_lt
  have high : difference > 127 ↔ 127 < difference.toInt := Int16.lt_iff_toInt_lt
  simp only [clamp, limit, low, high]
  split
  · show (-128 : ℤ) = _
    omega
  · split
    · show (127 : ℤ) = _
      omega
    · omega

theorem decimal_parity_length (value : Int16) :
    (PythonText.decimal (calculateOddParity value)).length ≤ 1 + 1 :=
  decimal_digit_length ((calculateOddParity_le value).trans_lt (by decide))

theorem valueText_length (value : Int16) : (valueText value).length ≤ 10 := by
  have short := decimal_toInt_length value
  have shortBit := decimal_parity_length value
  simp only [valueText, List.length_append, List.length_singleton]
  omega

/-- A number and a comma fit into an array with room for the comma and the terminator. -/
theorem sprintf_decimal {size width : Nat} {number : ℤ}
    (short : (PythonText.decimal number).length ≤ width) (room : width + 1 < size) :
    sprintf size (PythonText.decimal number ++ [',']) =
      .ok (PythonText.decimal number ++ [',']) := by
  rw [sprintf, if_pos]
  rw [List.length_append, List.length_singleton]
  omega

/-- Both texts fit into an empty buffer. -/
theorem strcat_value (value : Int16) :
    strcat bufferSize [] (PythonText.decimal value.toInt ++ [',']) =
      .ok (PythonText.decimal value.toInt ++ [',']) := by
  have short := decimal_toInt_length value
  rw [strcat, if_pos, List.nil_append]
  rw [List.nil_append, List.length_append, List.length_singleton]
  show _ < 128
  omega

theorem strcat_parity (value : Int16) :
    strcat bufferSize (PythonText.decimal value.toInt ++ [','])
      (PythonText.decimal (calculateOddParity value) ++ [',']) = .ok (valueText value) := by
  have short := valueText_length value
  rw [strcat, ← valueText, if_pos]
  show _ < 128
  omega

/-- The payload of one value fits into its array. -/
theorem jsonPayload_message {siteName : Nat} (small : siteName < 10)
    (code : DeltaCode.Entry Int16) :
    jsonPayload siteName (valueText code.value) code.isBase.toNat =
      .ok (message siteName code) := by
  have site := decimal_digit_length small
  have flag : (PythonText.decimal code.isBase.toNat).length ≤ 1 := by
    cases code.isBase <;> decide
  have buffer := valueText_length code.value
  have length : (message siteName code).length < maxJsonPayloadSize := by
    rw [message, jsonText_eq_objectText]
    simp only [Json.objectText, Json.membersText, Json.quoted, String.reduceToList,
      List.length_append, List.length_cons, List.length_nil, maxJsonPayloadSize]
    omega
  rw [jsonPayload, ← message]
  exact if_neg (Nat.not_le.mpr length)

/-- The code entry of the next reading. -/
def nextCode (state : State) (temp : Int16) : DeltaCode.Entry Int16 :=
  if state.counter % 10 = 0 then ⟨true, temp⟩ else ⟨false, clamp (temp - state.baseValue)⟩

/-- The state after the next reading. -/
def nextState (state : State) (temp : Int16) : State where
  counter := state.counter % 10 + 1
  baseValue := if state.counter % 10 = 0 then temp else state.baseValue
  buffer := []

theorem encodeReading_eq (state : State) (temp : Int16) :
    encodeReading (state.counter % 10) state.baseValue temp =
      ((nextState state temp).baseValue, (nextCode state temp).value,
        (nextCode state temp).isBase.toNat) := by
  rw [encodeReading, nextState, nextCode]
  split <;> rfl

/-- From an empty buffer one reading is sent as one message. -/
theorem sendReading_eq {siteName : Nat} (small : siteName < 10) {state : State}
    (cleared : state.buffer = []) (temp : Int16) :
    sendReading siteName state temp =
      .ok (nextState state temp, message siteName (nextCode state temp)) := by
  have value := sprintf_decimal (decimal_toInt_length (nextCode state temp).value)
    (by decide : 5 + 1 + 1 < 10)
  have parity := sprintf_decimal (decimal_parity_length (nextCode state temp).value)
    (by decide : 1 + 1 + 1 < 4)
  simp only [sendReading, encodeReading_eq, cleared, value, strcat_value, parity, strcat_parity,
    jsonPayload_message small, bind, Except.bind]
  rfl

theorem Aligned.nextState {state : State} (aligned : Aligned state) {temp : Int16}
    (above : 30 < temp.toInt) : Aligned (nextState state temp) where
  cleared := rfl
  base _ := by
    rw [Batching.nextState]
    by_cases first : state.counter % 10 = 0
    · rwa [if_pos first]
    · rw [if_neg first]
      exact aligned.base first

/-- The difference in a code entry is the limited difference of two integers. -/
theorem Aligned.integerEntry_nextCode {state : State} (aligned : Aligned state) {temp : Int16}
    (above : 30 < temp.toInt) :
    integerEntry (nextCode state temp) = if state.counter % 10 = 0 then ⟨true, temp.toInt⟩
      else ⟨false, limit (temp.toInt - state.baseValue.toInt)⟩ := by
  rw [nextCode]
  split
  · rfl
  · rename_i later
    rw [integerEntry, clamp_toInt, toInt_sub_of_gate above (aligned.base later)]

/-- The messages of a run are the delta code of the readings above the gate. -/
theorem run_encodes {siteName : Nat} (small : siteName < 10) (temps : List Int16) {state : State}
    (aligned : Aligned state) :
    ∃ (final : State) (codes : List (DeltaCode.Entry Int16)), Aligned final ∧
      run siteName state temps = .ok (final, codes.map (message siteName)) ∧
      codes.map integerEntry = DeltaCode.encode 10 limit (state.counter % 10)
        state.baseValue.toInt ((sentReadings temps).map Int16.toInt) := by
  induction temps generalizing state with
  | nil => exact ⟨state, [], aligned, rfl, rfl⟩
  | cons temp rest ih =>
      by_cases gate : temp > 30
      · have above := (gate_iff temp).mp gate
        obtain ⟨final, codes, finalAligned, posted, encoded⟩ := ih (aligned.nextState above)
        refine ⟨final, nextCode state temp :: codes, finalAligned, ?_, ?_⟩
        · simp only [run, mainLoop, if_pos gate, sendReading_eq small aligned.cleared, bind,
            Except.bind, pure, Except.pure, posted, List.map_cons, List.singleton_append]
        · have sent : sentReadings (temp :: rest) = temp :: sentReadings rest :=
            List.filter_cons_of_pos (decide_eq_true gate)
          rw [List.map_cons, encoded, sent, List.map_cons, DeltaCode.encode,
            aligned.integerEntry_nextCode above, Batching.nextState]
          by_cases first : state.counter % 10 = 0
          · rw [if_pos first, if_pos first, if_pos first]
          · rw [if_neg first, if_neg first, if_neg first]
      · obtain ⟨final, codes, finalAligned, posted, encoded⟩ := ih aligned
        refine ⟨final, codes, finalAligned, ?_, ?_⟩
        · simp only [run, mainLoop, if_neg gate, bind, Except.bind, pure, Except.pure, posted,
            List.nil_append]
        · have skipped : sentReadings (temp :: rest) = sentReadings rest :=
            List.filter_cons_of_neg (mt of_decide_eq_true gate)
          rw [encoded, skipped]

/-- The value that the receiver obtains for a reading. It is the reading itself unless the
difference is limited. -/
def saturated (base reading : ℤ) : ℤ :=
  if reading - base < -128 then base - 128
  else if reading - base > 127 then base + 127
  else reading

theorem add_limit (base reading : ℤ) : base + limit (reading - base) = saturated base reading := by
  rw [limit, saturated]
  split
  · omega
  · split
    · omega
    · omega

/-- The posted messages are one message for each sent reading. Every tenth message is a base, and a
receiver obtains each reading up to the limit on its difference. -/
structure DeltaEncoded (siteName : Nat) (sent : List Int16) (posted : List (List Char)) : Prop where
  length : posted.length = sent.length
  posts : ∀ (index : Nat) (temp : Int16), sent[index]? = some temp →
    ∃ (text : List Char) (value : Int16), posted[index]? = some text ∧
      text = message siteName ⟨decide (index % 10 = 0), value⟩ ∧
      readMessage text =
        some (⟨decide (index % 10 = 0), value.toInt⟩, (calculateOddParity value : ℤ)) ∧
      weight (reportWord value (calculateOddParity value)) % 2 = 1 ∧
      (index % 10 = 0 → value = temp)
  receives : ∀ initial : ℤ, ∃ decoded : List ℤ, receive initial posted = some decoded ∧
    decoded.length = sent.length ∧
    ∀ (index : Nat) (temp base : Int16), sent[index]? = some temp →
      sent[index - index % 10]? = some base →
      decoded[index]? = some (saturated base.toInt temp.toInt)

section

variable {codes : List (DeltaCode.Entry Int16)} {sent : List Int16} {initial : ℤ}

theorem length_codes (encoded : codes.map integerEntry =
    DeltaCode.encode 10 limit 0 initial (sent.map Int16.toInt)) : codes.length = sent.length := by
  have length := congrArg List.length encoded
  rwa [List.length_map, DeltaCode.length_encode, List.length_map] at length

/-- The code entry of each sent reading has the flag of its position. -/
theorem codes_getElem? (encoded : codes.map integerEntry =
    DeltaCode.encode 10 limit 0 initial (sent.map Int16.toInt)) {index : Nat} {temp : Int16}
    (held : sent[index]? = some temp) :
    ∃ value : Int16, codes[index]? = some ⟨decide (index % 10 = 0), value⟩ ∧
      (index % 10 = 0 → value = temp) := by
  obtain ⟨inside, _⟩ := List.getElem?_eq_some_iff.mp held
  have baseHeld : (sent.map Int16.toInt)[index - index % 10]? =
      some (sent[index - index % 10]).toInt := by
    rw [List.getElem?_map, List.getElem?_eq_getElem (by omega)]
    rfl
  have entry := DeltaCode.encode_getElem? (by decide : 0 < 10) limit initial _ index
    (by rw [List.getElem?_map, held]; rfl)
    ((DeltaCode.isGroupBase_start 10 initial _ index _).mpr baseHeld)
  rw [← encoded, List.getElem?_map, Option.map_eq_some_iff, Nat.zero_add] at entry
  obtain ⟨code, codeHeld, shape⟩ := entry
  by_cases first : index % 10 = 0
  · rw [if_pos first, integerEntry, DeltaCode.Entry.mk.injEq] at shape
    rw [codeHeld, decide_eq_true first, ← shape.1]
    exact ⟨code.value, rfl, fun _ => Int16.toInt_inj.mp shape.2⟩
  · rw [if_neg first, integerEntry, DeltaCode.Entry.mk.injEq] at shape
    rw [codeHeld, decide_eq_false first, ← shape.1]
    exact ⟨code.value, rfl, fun isFirst => absurd isFirst first⟩

/-- The receiver obtains the limited reading. -/
theorem decode_codes_getElem? (encoded : codes.map integerEntry =
    DeltaCode.encode 10 limit 0 initial (sent.map Int16.toInt)) (start : ℤ) {index : Nat}
    {temp base : Int16} (held : sent[index]? = some temp)
    (baseHeld : sent[index - index % 10]? = some base) :
    (DeltaCode.decode start (codes.map integerEntry))[index]? =
      some (saturated base.toInt temp.toInt) := by
  rw [encoded, DeltaCode.decode_encode_start 10 limit start initial, ← add_limit]
  apply DeltaCode.decode_encode_getElem? (by decide) rfl
  · rw [List.getElem?_map, held, Option.map_some]
  · rw [DeltaCode.isGroupBase_start, List.getElem?_map, baseHeld, Option.map_some]

theorem deltaEncoded (siteName : Nat) (encoded : codes.map integerEntry =
    DeltaCode.encode 10 limit 0 initial (sent.map Int16.toInt)) :
    DeltaEncoded siteName sent (codes.map (message siteName)) where
  length := by rw [List.length_map, length_codes encoded]
  posts index temp held := by
    obtain ⟨value, code, first⟩ := codes_getElem? encoded held
    refine ⟨_, value, ?_, rfl, readMessage_message siteName _, weight_reportWord_node value, first⟩
    rw [List.getElem?_map, code, Option.map_some]
  receives start := by
    refine ⟨_, receive_messages siteName start codes, ?_, fun index temp base held baseHeld =>
      decode_codes_getElem? encoded start held baseHeld⟩
    rw [DeltaCode.length_decode, List.length_map, length_codes encoded]

end

/-- The batching node posts the delta code of the readings above the gate in every run, and no
difference in the run wraps around. -/
theorem run_deltaEncoded (siteName : String) (temps : List Int16) :
    ∃ (final : State) (posted : List (List Char)),
      run (getBinaryValue siteName) start temps = .ok (final, posted) ∧
      DeltaEncoded (getBinaryValue siteName) (sentReadings temps) posted ∧
      ∀ (earlier later : List Int16) (temp : Int16), temps = earlier ++ temp :: later →
        temp > 30 → ∃ (state : State) (before : List (List Char)),
          run (getBinaryValue siteName) start earlier = .ok (state, before) ∧
          (state.counter % 10 ≠ 0 →
            (temp - state.baseValue).toInt = temp.toInt - state.baseValue.toInt) := by
  have small : getBinaryValue siteName < 10 := (sites_lookup_binaryValue siteName).1
  obtain ⟨final, codes, _, posted, encoded⟩ := run_encodes small temps start_aligned
  refine ⟨final, _, posted, deltaEncoded _ encoded, fun earlier later temp _ above => ?_⟩
  obtain ⟨state, before, aligned, reached, _⟩ := run_encodes small earlier start_aligned
  exact ⟨state, _, reached, fun later =>
    toInt_sub_of_gate ((gate_iff temp).mp above) (aligned.base later)⟩

/-- The node skips the second reading and limits the difference of the third. -/
example : (run 1 start [2000, 20, 2300, 1950]).map (fun result => receive 0 result.2) =
    .ok (some [2000, 2127, 1950]) := by decide +kernel

end DataStreamPilot.Batching
