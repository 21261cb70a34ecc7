/-
This file models C's `atoi` and `strtoul` in base ten on lists of characters.
The list holds the characters before the terminator.
-/

import DataStreamPilot.Library.PythonText

namespace Library.CText

open PythonText

/-- These characters satisfy `isspace` in the C locale. -/
def isSpace (c : Char) : Bool := c == ' ' || (0x09 ≤ c.toNat && c.toNat ≤ 0x0D)

/-- The number that the leading digits of the text denote. -/
def leadingNumber (text : List Char) : Nat :=
  (text.takeWhile Char.isDigit).foldl (fun value c => 10 * value + (c.toNat - '0'.toNat)) 0

/-- Blanks, an optional sign and digits are read, and the rest of the text is ignored. A text
without digits gives zero. -/
def numeral (text : List Char) : ℤ :=
  match text.dropWhile isSpace with
  | '-' :: digits => -(leadingNumber digits : ℤ)
  | '+' :: digits => leadingNumber digits
  | digits => leadingNumber digits

/-- `atoi(text)`, whose result C leaves open for a number that `int` cannot hold -/
def atoi (overflow : List Char → ℤ) (text : List Char) : ℤ :=
  if -2 ^ 31 ≤ numeral text ∧ numeral text < 2 ^ 31 then numeral text else overflow text

/-- `strtoul(text, NULL, 10)` before the reduction modulo the width of its type -/
def strtoul (text : List Char) : ℤ := numeral text

/-- The digits of a number are read up to the first character that is not a digit. -/
theorem leadingNumber_toDigits (number : Nat) (rest : List Char)
    (stop : ∀ c ∈ rest.head?, c.isDigit = false) :
    leadingNumber (Nat.toDigits 10 number ++ rest) = number := by
  have digits (c : Char) (member : c ∈ Nat.toDigits 10 number) : c.isDigit = true :=
    Nat.isDigit_of_mem_toDigits (by decide) (by decide) member
  have tail : rest.takeWhile Char.isDigit = [] := by
    cases rest with
    | nil => rfl
    | cons c rest => rw [List.takeWhile_cons_of_neg (by simp [stop c (by simp)])]
  rw [leadingNumber, List.takeWhile_append_of_pos digits, tail, List.append_nil,
    ← Nat.ofDigitChars_eq_foldl, Nat.ofDigitChars_ten_toDigits]

/-- A printed integer is read back, whatever text without a leading digit follows. -/
theorem numeral_decimal (value : ℤ) (rest : List Char)
    (stop : ∀ c ∈ rest.head?, c.isDigit = false) : numeral (decimal value ++ rest) = value := by
  have solid (c : Char) (digit : c.isDigit = true) : isSpace c = false := by
    obtain ⟨lower, upper⟩ := Char.isDigit_iff_toNat.mp digit
    have bounds : 48 ≤ c.toNat ∧ c.toNat ≤ 57 := ⟨lower, upper⟩
    have noBlank : c ≠ ' ' := by
      rintro rfl
      exact absurd digit (by decide)
    simp [isSpace, noBlank]
    omega
  by_cases negative : value < 0
  · have text : decimal value ++ rest = '-' :: (Nat.toDigits 10 value.natAbs ++ rest) := by
      rw [decimal_eq, if_pos negative]
      rfl
    rw [text, numeral, List.dropWhile_cons_of_neg (by decide)]
    simp only [leadingNumber_toDigits value.natAbs rest stop]
    omega
  · have text : decimal value ++ rest = Nat.toDigits 10 value.natAbs ++ rest := by
      rw [decimal_eq, if_neg negative]
      rfl
    obtain ⟨first, more, digits⟩ : ∃ first more, Nat.toDigits 10 value.natAbs = first :: more :=
      List.exists_cons_of_ne_nil Nat.toDigits_ne_nil
    have digit : first.isDigit = true :=
      Nat.isDigit_of_mem_toDigits (b := 10) (n := value.natAbs) (by decide) (by decide)
        (by rw [digits]; exact List.mem_cons_self)
    have number := leadingNumber_toDigits value.natAbs rest stop
    rw [text, numeral]
    rw [digits, List.cons_append] at number ⊢
    rw [List.dropWhile_cons_of_neg (by simp [solid first digit])]
    split
    · exact absurd digit (by simp_all)
    · exact absurd digit (by simp_all)
    · rw [number]
      omega

/-- A printed unsigned number is read back. -/
theorem strtoul_decimal (number : Nat) : strtoul (decimal number) = number := by
  have read := numeral_decimal number [] (by simp)
  rwa [List.append_nil] at read

end Library.CText
