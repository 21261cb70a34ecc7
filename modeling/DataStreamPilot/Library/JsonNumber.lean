/-
This file proves that a printed integer before a comma is not a JSON document.
-/

import DataStreamPilot.Library.Json

namespace Library.Json

open PythonText

/-- Every character of the text is a decimal digit. -/
def Digits (text : List Char) : Prop := ∀ c ∈ text, c.isDigit = true

theorem digits_toDigits (number : Nat) : Digits (Nat.toDigits 10 number) := fun _ member =>
  Nat.isDigit_of_mem_toDigits (by decide) (by decide) member

/-- A character that is no digit differs from every digit. -/
theorem ne_of_isDigit {c other : Char} (digit : c.isDigit = true)
    (noDigit : other.isDigit = false) : c ≠ other := by
  rintro rfl
  rw [noDigit] at digit
  cases digit

/-- A character of a printed integer is no white space, and a comma is none either. -/
theorem skipSpace_solid {c : Char} (solid : c.isDigit = true ∨ c = '-' ∨ c = ',')
    (rest : List Char) : skipSpace (c :: rest) = c :: rest := by
  have different (other : Char) (noSign : '-' ≠ other) (noComma : ',' ≠ other)
      (noDigit : other.isDigit = false) : c ≠ other := by
    rcases solid with digit | rfl | rfl
    · exact ne_of_isDigit digit noDigit
    · exact noSign
    · exact noComma
  have noBlank := different ' ' (by decide) (by decide) (by decide)
  have noTab := different '\t' (by decide) (by decide) (by decide)
  have noLine := different '\n' (by decide) (by decide) (by decide)
  have noReturn := different '\r' (by decide) (by decide) (by decide)
  exact List.dropWhile_cons_of_neg (by simp [isJsonSpace, noBlank, noTab, noLine, noReturn])

/-- The scan of an integer stops before a comma or earlier. -/
theorem scanInteger_digits {digits : List Char} (nonempty : digits ≠ []) (plain : Digits digits)
    (rest : List Char) :
    ∃ integer tail, scanInteger (digits ++ ',' :: rest) = some (integer, tail ++ ',' :: rest) ∧
      Digits tail := by
  obtain ⟨c, more, rfl⟩ := List.exists_cons_of_ne_nil nonempty
  have digit : c.isDigit = true := plain c List.mem_cons_self
  have others : Digits more := fun c member => plain c (List.mem_cons_of_mem _ member)
  by_cases zero : c = '0'
  · exact ⟨['0'], more, by rw [List.cons_append, scanInteger, if_pos zero], others⟩
  · have stop : ¬ ((',' : Char).isDigit = true) := by decide
    refine ⟨c :: more, [], ?_, fun c member => (nomatch member)⟩
    rw [List.cons_append, scanInteger, if_neg zero, if_pos digit,
      List.takeWhile_append_of_pos others, List.dropWhile_append_of_pos others,
      List.takeWhile_cons_of_neg stop, List.dropWhile_cons_of_neg stop, List.append_nil]
    rfl

/-- The text starts with a digit or with the comma. -/
theorem exists_head_digits {tail : List Char} (plain : Digits tail) (rest : List Char) :
    ∃ c more, tail ++ ',' :: rest = c :: more ∧ (c.isDigit = true ∨ c = ',') := by
  cases tail with
  | nil => exact ⟨',', rest, rfl, Or.inr rfl⟩
  | cons c more => exact ⟨c, more ++ ',' :: rest, rfl, Or.inl (plain c List.mem_cons_self)⟩

/-- Neither a digit nor a comma starts a fraction or an exponent. -/
theorem scanFraction_digits {tail : List Char} (plain : Digits tail) (rest : List Char) :
    scanFraction (tail ++ ',' :: rest) = ([], tail ++ ',' :: rest) ∧
      scanExponent (tail ++ ',' :: rest) = ([], tail ++ ',' :: rest) := by
  obtain ⟨c, more, text, solid⟩ := exists_head_digits plain rest
  have different (other : Char) (noDigit : other.isDigit = false) (noComma : ',' ≠ other) :
      c ≠ other := by
    rcases solid with digit | rfl
    · exact ne_of_isDigit digit noDigit
    · exact noComma
  have noPoint := different '.' (by decide) (by decide)
  have noSmall := different 'e' (by decide) (by decide)
  have noLarge := different 'E' (by decide) (by decide)
  rw [text]
  constructor
  · unfold scanFraction
    split
    · rename_i same
      exact absurd (List.cons.inj same).1 noPoint
    · rfl
  · cases more with
    | nil => rfl
    | cons sign more => simp [scanExponent, noSmall, noLarge]

/-- A decimal text is a sign or nothing before digits. -/
theorem exists_decimal_eq (value : ℤ) :
    ∃ sign digits, decimal value = sign ++ digits ∧ (sign = [] ∨ sign = ['-']) ∧ digits ≠ [] ∧
      Digits digits := by
  refine ⟨_, _, decimal_eq value, ?_, Nat.toDigits_ne_nil, digits_toDigits _⟩
  split
  · exact Or.inr rfl
  · exact Or.inl rfl

/-- A number before a comma is scanned up to the comma at most. -/
theorem scanNumber_decimal (value : ℤ) (rest : List Char) :
    scanNumber (decimal value ++ ',' :: rest) = none ∨
      ∃ number tail, scanNumber (decimal value ++ ',' :: rest) =
        some (number, tail ++ ',' :: rest) ∧ Digits tail := by
  obtain ⟨sign, digits, text, signed, nonempty, plain⟩ := exists_decimal_eq value
  obtain ⟨integer, tail, scanned, others⟩ := scanInteger_digits nonempty plain rest
  obtain ⟨fraction, exponent⟩ := scanFraction_digits others rest
  have body : (decimal value ++ ',' :: rest).drop
      (if (decimal value ++ ',' :: rest).head? = some '-' then ['-'] else []).length =
      digits ++ ',' :: rest := by
    rw [text, List.append_assoc]
    rcases signed with rfl | rfl
    · obtain ⟨c, more, rfl⟩ := List.exists_cons_of_ne_nil nonempty
      have noSign : c ≠ '-' := ne_of_isDigit (plain c List.mem_cons_self) (by decide)
      simp [noSign]
    · rfl
  unfold scanNumber
  simp only [body, scanned, fraction, exponent]
  split
  · exact Or.inl rfl
  · exact Or.inr ⟨_, tail, rfl, others⟩

/-- No constant starts like a decimal text. -/
theorem scanConstant_decimal (value : ℤ) (rest : List Char) :
    scanConstant (decimal value ++ rest) = none := by
  obtain ⟨sign, digits, text, signed, nonempty, plain⟩ := exists_decimal_eq value
  obtain ⟨c, more, rfl⟩ := List.exists_cons_of_ne_nil nonempty
  have digit := plain c List.mem_cons_self
  have different (other : Char) (noDigit : other.isDigit = false) : ¬ other = c :=
    (ne_of_isDigit digit noDigit).symm
  rw [text]
  rcases signed with rfl | rfl
  · simp [scanConstant, constants, word?, different]
  · simp [scanConstant, constants, word?, different]

/-- `json.loads` finds extra data after a printed integer and a comma. -/
theorem loads_decimal_comma (value : ℤ) (rest : List Char) :
    loads (decimal value ++ ',' :: rest) = none := by
  obtain ⟨first, more, text⟩ : ∃ first more, decimal value = first :: more :=
    List.exists_cons_of_ne_nil (decimal_ne_nil value)
  have solid : first = '-' ∨ first.isDigit = true :=
    mem_decimal value first (by rw [text]; exact List.mem_cons_self)
  have different (other : Char) (noSign : '-' ≠ other) (noDigit : other.isDigit = false) :
      first ≠ other := by
    rcases solid with rfl | digit
    · exact noSign
    · exact ne_of_isDigit digit noDigit
  have start : skipSpace (decimal value ++ ',' :: rest) = decimal value ++ ',' :: rest := by
    rw [text, List.cons_append, skipSpace_solid (by tauto)]
  have atom (fuel : Nat) : scanValue (fuel + 1) (decimal value ++ ',' :: rest) =
      scanNumber (decimal value ++ ',' :: rest) := by
    have noQuote := different '"' (by decide) (by decide)
    have noBrace := different '{' (by decide) (by decide)
    have noBracket := different '[' (by decide) (by decide)
    have constant := scanConstant_decimal value (',' :: rest)
    rw [text, List.cons_append] at constant ⊢
    simp only [scanValue, noQuote, noBrace, noBracket, if_false, scanAtom, constant]
  rw [loads, start, atom]
  split
  · rfl
  · rcases scanNumber_decimal value rest with failed | ⟨number, tail, scanned, plain⟩
    · simp only [failed]
    · obtain ⟨c, others, same, solid⟩ := exists_head_digits plain rest
      simp only [scanned, same, skipSpace_solid (solid.imp_right Or.inr), List.cons_ne_nil,
        if_false]

end Library.Json
