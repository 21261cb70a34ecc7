/-
This file proves that the scanner consumes its text and that its depth bound is harmless.
-/

import DataStreamPilot.Library.Json

namespace Library.Json

theorem skipSpace_length (text : List Char) : (skipSpace text).length ≤ text.length :=
  List.length_dropWhile_le _ _

theorem word?_length {word text rest : List Char} (read : word? word text = some rest)
    (nonempty : word ≠ []) : rest.length < text.length := by
  unfold word? at read
  split at read
  · rename_i head
    obtain ⟨more, rfl⟩ := List.isPrefixOf_iff_prefix.mp head
    rw [← Option.some.inj read, List.drop_left, List.length_append]
    have := List.length_pos_iff.mpr nonempty
    omega
  · cases read

theorem hexUnit?_length {text : List Char} {unit : Nat × List Char}
    (read : hexUnit? text = some unit) : unit.2.length < text.length := by
  unfold hexUnit? at read
  split at read
  · simp only [Option.bind_eq_bind, Option.bind_eq_some_iff, Option.some.injEq] at read
    obtain ⟨_, _, _, _, _, _, _, _, rfl⟩ := read
    simp only [List.length_cons]
    omega
  · cases read

theorem joinSurrogates_length (unit : Nat) (rest : List Char) :
    (joinSurrogates unit rest).2.length ≤ rest.length := by
  unfold joinSurrogates
  split
  · split
    · rename_i read
      have consumed := hexUnit?_length read
      split
      · simp only [List.length_cons] at consumed ⊢
        omega
      · simp
    · simp
  · simp

/-- An escape consumes at least one character. -/
theorem scanEscape_length {text : List Char} {escaped : Char × List Char}
    (read : scanEscape text = some escaped) : escaped.2.length < text.length := by
  cases text with
  | nil => cases read
  | cons head tail =>
      simp only [scanEscape] at read
      split at read
      · obtain ⟨unit, hex, joined⟩ := Option.map_eq_some_iff.mp read
        have consumed := hexUnit?_length hex
        have shorter := joinSurrogates_length unit.1 unit.2
        rw [joined] at shorter
        simp only [List.length_cons]
        omega
      · obtain ⟨plain, _, rfl⟩ := Option.map_eq_some_iff.mp read
        simp

/-- A string body consumes its closing quote. -/
theorem scanString_length {fuel : Nat} {text : List Char} {body : List Char × List Char}
    (read : scanString fuel text = some body) : body.2.length < text.length := by
  induction fuel generalizing text body with
  | zero => cases read
  | succ fuel ih =>
      cases text with
      | nil => cases read
      | cons c tail =>
          simp only [scanString] at read
          split at read
          · rw [← Option.some.inj read]
            simp
          · split at read
            · split at read
              · rename_i escaped after escape
                obtain ⟨rest, scanned, rfl⟩ := Option.map_eq_some_iff.mp read
                have consumed := scanEscape_length escape
                have remaining := ih scanned
                simp only [List.length_cons] at consumed ⊢
                omega
              · cases read
            · split at read
              · cases read
              · obtain ⟨rest, scanned, rfl⟩ := Option.map_eq_some_iff.mp read
                have remaining := ih scanned
                simp only [List.length_cons]
                omega

theorem scanDigits_length {marker text : List Char} {digits : List Char × List Char}
    (read : scanDigits marker text = some digits) : digits.2.length ≤ text.length := by
  unfold scanDigits at read
  split at read
  · cases read
  · rw [← Option.some.inj read]
    exact List.length_dropWhile_le _ _

/-- A failed optional part leaves its text in place. -/
theorem scanDigits_getD_length (marker text whole : List Char) (part : text.length ≤ whole.length) :
    ((scanDigits marker text).getD ([], whole)).2.length ≤ whole.length := by
  cases read : scanDigits marker text with
  | none => simp
  | some digits => exact (scanDigits_length read).trans part

theorem scanFraction_length (text : List Char) : (scanFraction text).2.length ≤ text.length := by
  unfold scanFraction
  split
  · exact scanDigits_getD_length _ _ _ (by simp)
  · simp

theorem scanExponent_length (text : List Char) : (scanExponent text).2.length ≤ text.length := by
  unfold scanExponent
  split
  · split
    · split
      · exact scanDigits_getD_length _ _ _ (by simp; omega)
      · exact scanDigits_getD_length _ _ _ (by simp)
    · simp
  · simp

theorem scanInteger_length {text : List Char} {integer : List Char × List Char}
    (read : scanInteger text = some integer) : integer.2.length < text.length := by
  cases text with
  | nil => cases read
  | cons c tail =>
      simp only [scanInteger] at read
      split at read
      · rw [← Option.some.inj read]
        simp
      · split at read
        · have shorter := List.length_dropWhile_le Char.isDigit tail
          rw [← Option.some.inj read]
          simp only [List.length_cons]
          omega
        · cases read

theorem scanNumber_length {text : List Char} {number : JsonValue × List Char}
    (read : scanNumber text = some number) : number.2.length < text.length := by
  unfold scanNumber at read
  dsimp only at read
  split at read
  · cases read
  · rename_i integer after scanned
    have digits := scanInteger_length scanned
    have dropped := List.length_drop
      (i := (if text.head? = some '-' then ['-'] else []).length) (l := text)
    have fraction := scanFraction_length after
    have exponent := scanExponent_length (scanFraction after).2
    split at read
    · cases read
    · rw [← Option.some.inj read]
      simp only at digits ⊢
      omega

theorem scanConstant_length {text : List Char} {value : JsonValue × List Char}
    (read : scanConstant text = some value) : value.2.length < text.length := by
  obtain ⟨constant, member, found⟩ := List.exists_of_findSome?_eq_some read
  obtain ⟨after, word, rfl⟩ := Option.map_eq_some_iff.mp found
  have nonempty : ∀ constant ∈ constants, constant.1 ≠ [] := by simp [constants]
  exact word?_length word (nonempty constant member)

theorem scanAtom_length {text : List Char} {value : JsonValue × List Char}
    (read : scanAtom text = some value) : value.2.length < text.length := by
  unfold scanAtom at read
  split at read
  · rename_i scanned
    exact scanConstant_length (scanned.trans read)
  · exact scanNumber_length read

/-- One step of the scanner consumes text when the nested scans do. -/
theorem scanValue_length {fuel : Nat}
    (members : ∀ text scanned, scanMembers fuel text = some scanned →
      scanned.2.length < text.length)
    (items : ∀ text scanned, scanItems fuel text = some scanned → scanned.2.length < text.length)
    (text : List Char) (value : JsonValue × List Char)
    (read : scanValue (fuel + 1) text = some value) : value.2.length < text.length := by
  cases text with
  | nil => cases read
  | cons c tail =>
      have spaces := skipSpace_length tail
      simp only [scanValue] at read
      split at read
      · obtain ⟨body, scanned, rfl⟩ := Option.map_eq_some_iff.mp read
        exact (scanString_length scanned).trans (Nat.lt_succ_self _)
      · split at read
        · split at read
          · rename_i after closed
            rw [closed, List.length_cons] at spaces
            rw [← Option.some.inj read]
            simp only [List.length_cons]
            omega
          · obtain ⟨scanned, inner, rfl⟩ := Option.map_eq_some_iff.mp read
            have := members _ scanned inner
            simp only [List.length_cons]
            omega
        · split at read
          · split at read
            · rename_i after closed
              rw [closed, List.length_cons] at spaces
              rw [← Option.some.inj read]
              simp only [List.length_cons]
              omega
            · obtain ⟨scanned, inner, rfl⟩ := Option.map_eq_some_iff.mp read
              have := items _ scanned inner
              simp only [List.length_cons]
              omega
          · exact scanAtom_length read

theorem scanMembers_length {fuel : Nat}
    (value : ∀ text scanned, scanValue fuel text = some scanned →
      scanned.2.length < text.length)
    (members : ∀ text scanned, scanMembers fuel text = some scanned →
      scanned.2.length < text.length)
    (text : List Char) (scanned : List (String × JsonValue) × List Char)
    (read : scanMembers (fuel + 1) text = some scanned) : scanned.2.length < text.length := by
  unfold scanMembers at read
  split at read
  · rename_i sameFuel
    obtain rfl := Nat.succ.inj sameFuel
    split at read
    · cases read
    · rename_i key
      have keyShorter := scanString_length key
      split at read
      · rename_i afterKey _ colon separated
        have keySpaces := skipSpace_length afterKey
        rw [separated, List.length_cons] at keySpaces
        have colonSpaces := skipSpace_length colon
        split at read
        · cases read
        · rename_i afterValue inner
          have valueShorter := value _ _ inner
          have valueSpaces := skipSpace_length afterValue
          simp only at keyShorter valueShorter
          split at read
          · rename_i closed
            rw [closed, List.length_cons] at valueSpaces
            rw [← Option.some.inj read]
            simp only [List.length_cons]
            omega
          · rename_i comma continued
            rw [continued, List.length_cons] at valueSpaces
            have commaSpaces := skipSpace_length comma
            obtain ⟨more, others, rfl⟩ := Option.map_eq_some_iff.mp read
            have := members _ _ others
            simp only [List.length_cons]
            omega
          · cases read
      · cases read
  · cases read

theorem scanItems_length {fuel : Nat}
    (value : ∀ text scanned, scanValue fuel text = some scanned →
      scanned.2.length < text.length)
    (items : ∀ text scanned, scanItems fuel text = some scanned → scanned.2.length < text.length)
    (text : List Char) (scanned : List JsonValue × List Char)
    (read : scanItems (fuel + 1) text = some scanned) : scanned.2.length < text.length := by
  simp only [scanItems] at read
  split at read
  · cases read
  · rename_i afterValue inner
    have valueShorter := value _ _ inner
    have valueSpaces := skipSpace_length afterValue
    simp only at valueShorter
    split at read
    · rename_i closed
      rw [closed, List.length_cons] at valueSpaces
      rw [← Option.some.inj read]
      simp only
      omega
    · rename_i comma continued
      rw [continued, List.length_cons] at valueSpaces
      have commaSpaces := skipSpace_length comma
      obtain ⟨more, others, rfl⟩ := Option.map_eq_some_iff.mp read
      have := items _ _ others
      simp only
      omega
    · cases read

/-- Every scanned value, member list and item list consumes text. -/
theorem scan_length (fuel : Nat) :
    (∀ text scanned, scanValue fuel text = some scanned → scanned.2.length < text.length) ∧
    (∀ text scanned, scanMembers fuel text = some scanned → scanned.2.length < text.length) ∧
    (∀ text scanned, scanItems fuel text = some scanned → scanned.2.length < text.length) := by
  induction fuel with
  | zero => simp [scanValue, scanMembers, scanItems]
  | succ fuel ih =>
      obtain ⟨value, members, items⟩ := ih
      exact ⟨scanValue_length members items, scanMembers_length value members,
        scanItems_length value items⟩

/-- The scan of a value depends on nested scans of shorter texts only. -/
theorem scanValue_fuel {first second : Nat}
    (members : ∀ text : List Char, 2 * text.length + 2 ≤ first → 2 * text.length + 2 ≤ second →
      scanMembers first text = scanMembers second text)
    (items : ∀ text : List Char, 2 * text.length + 2 ≤ first → 2 * text.length + 2 ≤ second →
      scanItems first text = scanItems second text)
    (text : List Char) (enough : 2 * text.length + 1 ≤ first + 1)
    (alsoEnough : 2 * text.length + 1 ≤ second + 1) :
    scanValue (first + 1) text = scanValue (second + 1) text := by
  cases text with
  | nil => rfl
  | cons c tail =>
      have spaces := skipSpace_length tail
      simp only [List.length_cons] at enough alsoEnough
      simp only [scanValue, members (skipSpace tail) (by omega) (by omega),
        items (skipSpace tail) (by omega) (by omega)]

theorem scanMembers_fuel {first second : Nat}
    (value : ∀ text : List Char, 2 * text.length + 1 ≤ first → 2 * text.length + 1 ≤ second →
      scanValue first text = scanValue second text)
    (members : ∀ text : List Char, 2 * text.length + 2 ≤ first → 2 * text.length + 2 ≤ second →
      scanMembers first text = scanMembers second text)
    (text : List Char) (enough : 2 * text.length + 2 ≤ first + 1)
    (alsoEnough : 2 * text.length + 2 ≤ second + 1) :
    scanMembers (first + 1) text = scanMembers (second + 1) text := by
  cases text with
  | nil => simp [scanMembers]
  | cons c tail =>
      by_cases quote : c = '"'
      · subst quote
        simp only [List.length_cons] at enough alsoEnough
        simp only [scanMembers]
        cases key : scanString (tail.length + 1) tail with
        | none => rfl
        | some body =>
            obtain ⟨name, afterKey⟩ := body
            have keyShorter := scanString_length key
            have keySpaces := skipSpace_length afterKey
            simp only at keyShorter ⊢
            split
            · rename_i colon separated
              rw [separated, List.length_cons] at keySpaces
              have colonSpaces := skipSpace_length colon
              rw [value (skipSpace colon) (by omega) (by omega)]
              cases inner : scanValue second (skipSpace colon) with
              | none => rfl
              | some scanned =>
                  obtain ⟨member, afterValue⟩ := scanned
                  have valueShorter := (scan_length second).1 _ _ inner
                  have valueSpaces := skipSpace_length afterValue
                  simp only at valueShorter ⊢
                  split
                  · rfl
                  · rename_i comma continued
                    rw [continued, List.length_cons] at valueSpaces
                    have commaSpaces := skipSpace_length comma
                    rw [members (skipSpace comma) (by omega) (by omega)]
                  · rfl
            · rfl
      · simp [scanMembers, quote]

theorem scanItems_fuel {first second : Nat}
    (value : ∀ text : List Char, 2 * text.length + 1 ≤ first → 2 * text.length + 1 ≤ second →
      scanValue first text = scanValue second text)
    (items : ∀ text : List Char, 2 * text.length + 2 ≤ first → 2 * text.length + 2 ≤ second →
      scanItems first text = scanItems second text)
    (text : List Char) (enough : 2 * text.length + 2 ≤ first + 1)
    (alsoEnough : 2 * text.length + 2 ≤ second + 1) :
    scanItems (first + 1) text = scanItems (second + 1) text := by
  simp only [scanItems]
  rw [value text (by omega) (by omega)]
  cases inner : scanValue second text with
  | none => rfl
  | some scanned =>
      obtain ⟨item, afterValue⟩ := scanned
      have valueShorter := (scan_length second).1 _ _ inner
      have valueSpaces := skipSpace_length afterValue
      simp only at valueShorter ⊢
      split
      · rfl
      · rename_i comma continued
        rw [continued, List.length_cons] at valueSpaces
        have commaSpaces := skipSpace_length comma
        rw [items (skipSpace comma) (by omega) (by omega)]
      · rfl

/-- Every depth bound above twice the length of the text gives the same scan. -/
theorem scan_fuel (first second : Nat) :
    (∀ text : List Char, 2 * text.length + 1 ≤ first → 2 * text.length + 1 ≤ second →
      scanValue first text = scanValue second text) ∧
    (∀ text : List Char, 2 * text.length + 2 ≤ first → 2 * text.length + 2 ≤ second →
      scanMembers first text = scanMembers second text) ∧
    (∀ text : List Char, 2 * text.length + 2 ≤ first → 2 * text.length + 2 ≤ second →
      scanItems first text = scanItems second text) := by
  induction first generalizing second with
  | zero => exact ⟨fun _ less => by omega, fun _ less => by omega, fun _ less => by omega⟩
  | succ first ih =>
      cases second with
      | zero => exact ⟨fun _ _ less => by omega, fun _ _ less => by omega, fun _ _ less => by omega⟩
      | succ second =>
          obtain ⟨value, members, items⟩ := ih second
          exact ⟨scanValue_fuel members items, scanMembers_fuel value members,
            scanItems_fuel value items⟩

/-- The depth bound of `loads` never decides its result. -/
theorem loads_eq_of_fuel (text : List Char) (fuel : Nat) (enough : 2 * text.length + 1 ≤ fuel) :
    loads text = if text.head? = some '\uFEFF' then none
      else match scanValue fuel (skipSpace text) with
        | none => none
        | some (value, rest) => if skipSpace rest = [] then some value else none := by
  have spaces := skipSpace_length text
  have scanned := (scan_fuel (2 * text.length + 1) fuel).1 (skipSpace text) (by omega) (by omega)
  rw [← scanned]
  rfl

end Library.Json
