/-
This file models Python's `str.strip`, `int` and `bin` on lists of characters.
The method `str.split` for one character is `List.splitOn`.
-/

import Mathlib.Data.List.DropRight
import Mathlib.Tactic

namespace Library.PythonText

/-- These characters satisfy `str.isspace`. -/
def isSpace (c : Char) : Bool :=
  (0x09 ≤ c.toNat && c.toNat ≤ 0x0D) || (0x1C ≤ c.toNat && c.toNat ≤ 0x20) ||
    c.toNat == 0x85 || c.toNat == 0xA0 || c.toNat == 0x1680 ||
    (0x2000 ≤ c.toNat && c.toNat ≤ 0x200A) || c.toNat == 0x2028 || c.toNat == 0x2029 ||
    c.toNat == 0x202F || c.toNat == 0x205F || c.toNat == 0x3000

/-- `int` does not skip the four separator control characters. -/
def isNumeralSpace (c : Char) : Bool :=
  isSpace c && !(0x1C ≤ c.toNat && c.toNat ≤ 0x1F)

/-- The matching characters disappear from both ends of the text. -/
def trim (drop : Char → Bool) (text : List Char) : List Char :=
  (text.dropWhile drop).rdropWhile drop

/-- `text.strip()` -/
def strip (text : List Char) : List Char := trim isSpace text

/-- Each run of ten decimal digits of Unicode 12.1 starts at one of these code points. -/
def decimalZeros : List Nat :=
  [0x30, 0x660, 0x6F0, 0x7C0, 0x966, 0x9E6, 0xA66, 0xAE6, 0xB66, 0xBE6, 0xC66, 0xCE6, 0xD66,
    0xDE6, 0xE50, 0xED0, 0xF20, 0x1040, 0x1090, 0x17E0, 0x1810, 0x1946, 0x19D0, 0x1A80, 0x1A90,
    0x1B50, 0x1BB0, 0x1C40, 0x1C50, 0xA620, 0xA8D0, 0xA900, 0xA9D0, 0xA9F0, 0xAA50, 0xABF0,
    0xFF10, 0x104A0, 0x10D30, 0x11066, 0x110F0, 0x11136, 0x111D0, 0x112F0, 0x11450, 0x114D0,
    0x11650, 0x116C0, 0x11730, 0x118E0, 0x11C50, 0x11D50, 0x11DA0, 0x16A60, 0x16AC0, 0x16B50,
    0x1D7CE, 0x1D7D8, 0x1D7E2, 0x1D7EC, 0x1D7F6, 0x1E140, 0x1E2F0, 0x1E950]

/-- The character is one of the ten digits that start at a code point. -/
def inDigitRun (c : Char) (first : Nat) : Bool := first ≤ c.toNat && c.toNat < first + 10

/-- The value of a decimal digit in any script. -/
def decimalDigit? (c : Char) : Option Nat :=
  (decimalZeros.find? (inDigitRun c)).map (c.toNat - ·)

/-- Single underscores may separate the digits of a numeral. -/
def decimalDigits? : List Char → Option (List Nat)
  | [] => none
  | c :: rest =>
      match decimalDigit? c with
      | none => none
      | some digit =>
          match rest with
          | [] => some [digit]
          | '_' :: more => (decimalDigits? more).map (digit :: ·)
          | next :: more => (decimalDigits? (next :: more)).map (digit :: ·)

/-- CPython refuses to convert longer numerals. -/
def maxNumeralDigits : Nat := 4300

def natOfNumeral? (text : List Char) : Option Nat :=
  match decimalDigits? text with
  | none => none
  | some digits =>
      if digits.length ≤ maxNumeralDigits then
        some (digits.foldl (fun value digit => 10 * value + digit) 0)
      else none

/-- `int(text)` in base ten, where `none` is a `ValueError` -/
def int? (text : List Char) : Option ℤ :=
  match trim isNumeralSpace text with
  | '-' :: numeral => (natOfNumeral? numeral).map fun value : Nat => -(value : ℤ)
  | '+' :: numeral => (natOfNumeral? numeral).map fun value : Nat => (value : ℤ)
  | numeral => (natOfNumeral? numeral).map fun value : Nat => (value : ℤ)

/-- The decimal text of an integer, as `str(value)` and C's `%d` print it. -/
def decimal (value : ℤ) : List Char := (toString value).toList

/-- The text that `bin(value)` gives, with the sign before the prefix. -/
def bin (value : ℤ) : List Char :=
  (if value < 0 then ['-'] else []) ++ ['0', 'b'] ++ Nat.toDigits 2 value.natAbs

/-- A text keeps its ends when they hold no dropped character. -/
theorem trim_eq_self (drop : Char → Bool) (text : List Char)
    (head : ∀ c ∈ text.head?, drop c = false) (last : ∀ c ∈ text.getLast?, drop c = false) :
    trim drop text = text := by
  have front : text.dropWhile drop = text := by
    cases text with
    | nil => rfl
    | cons c rest => simp [head c (by simp)]
  rw [trim, front]
  rcases List.eq_nil_or_concat text with rfl | ⟨rest, c, rfl⟩
  · rfl
  · rw [List.concat_eq_append] at last ⊢
    exact List.rdropWhile_concat_neg drop rest c (by simp [last c (by simp)])

/-- A leading blank does not change a numeral. -/
theorem int?_blank (text : List Char) : int? (' ' :: text) = int? text := by
  have blank : isNumeralSpace ' ' = true := by decide
  simp only [int?, trim, List.dropWhile_cons, blank, if_true]

/-- An ASCII digit has its usual value. -/
theorem decimalDigit?_of_isDigit (c : Char) (digit : c.isDigit) :
    decimalDigit? c = some (c.toNat - '0'.toNat) := by
  obtain ⟨lower, upper⟩ := Char.isDigit_iff_toNat.mp digit
  have inside : inDigitRun c 0x30 = true := by
    simp only [inDigitRun, Bool.and_eq_true, decide_eq_true_eq]
    exact ⟨lower, Nat.lt_succ_of_le upper⟩
  have found : decimalZeros.find? (inDigitRun c) = some 0x30 :=
    List.find?_cons_of_pos inside
  rw [decimalDigit?, found]
  rfl

/-- A nonempty run of ASCII digits has no separators. -/
theorem decimalDigits?_of_isDigit (text : List Char) (nonempty : text ≠ [])
    (digits : ∀ c ∈ text, c.isDigit) :
    decimalDigits? text = some (text.map fun c => c.toNat - '0'.toNat) := by
  induction text with
  | nil => exact absurd rfl nonempty
  | cons c rest ih =>
      have head := decimalDigit?_of_isDigit c (digits c (by simp))
      cases rest with
      | nil => simp [decimalDigits?, head]
      | cons next more =>
          have plain : next ≠ '_' := by
            rintro rfl
            exact absurd (digits '_' (by simp)) (by decide)
          have tail := ih (by simp) fun c member => digits c (List.mem_cons_of_mem _ member)
          simp [decimalDigits?, head, tail]

/-- The decimal digits of a natural number read back as that number. -/
theorem natOfNumeral?_toDigits (value : Nat)
    (short : (Nat.toDigits 10 value).length ≤ maxNumeralDigits) :
    natOfNumeral? (Nat.toDigits 10 value) = some value := by
  have digits := decimalDigits?_of_isDigit (Nat.toDigits 10 value) Nat.toDigits_ne_nil
    fun c member => Nat.isDigit_of_mem_toDigits (by decide) (by decide) member
  have folded := Nat.ofDigitChars_ten_toDigits (n := value)
  rw [Nat.ofDigitChars_eq_foldl] at folded
  simp only [natOfNumeral?, digits, List.length_map, short, if_true, List.foldl_map, folded]

/-- A decimal text is a sign or nothing before the digits of the absolute value. -/
theorem decimal_eq (value : ℤ) :
    decimal value = (if value < 0 then ['-'] else []) ++ Nat.toDigits 10 value.natAbs := by
  rw [decimal, Int.toString_eq_repr, Int.repr_eq_if]
  by_cases negative : value < 0
  · have absolute : (-value).toNat = value.natAbs := by omega
    simp [negative, Int.not_le.mpr negative, absolute, Nat.toList_repr]
  · have absolute : value.toNat = value.natAbs := by omega
    simp [negative, Int.not_lt.mp negative, absolute, Nat.toList_repr]

theorem mem_decimal (value : ℤ) (c : Char) (member : c ∈ decimal value) :
    c = '-' ∨ c.isDigit := by
  rw [decimal_eq, List.mem_append] at member
  rcases member with sign | digit
  · split at sign <;> simp_all
  · exact Or.inr (Nat.isDigit_of_mem_toDigits (by decide) (by decide) digit)

/-- No character of a decimal text is a space. -/
theorem isSpace_of_mem_decimal (value : ℤ) (c : Char) (member : c ∈ decimal value) :
    isSpace c = false := by
  rcases mem_decimal value c member with rfl | digit
  · decide
  · obtain ⟨lower, upper⟩ := Char.isDigit_iff_toNat.mp digit
    have bounds : 48 ≤ c.toNat ∧ c.toNat ≤ 57 := ⟨lower, upper⟩
    simp [isSpace]
    omega

theorem decimal_ne_nil (value : ℤ) : decimal value ≠ [] := by
  rw [decimal_eq]
  exact List.append_ne_nil_of_right_ne_nil _ Nat.toDigits_ne_nil

/-- A numeral without a sign is read as it stands. -/
theorem int?_unsigned (text : List Char) (trimmed : trim isNumeralSpace text = text)
    (unsigned : ∀ c ∈ text.head?, c.isDigit) :
    int? text = (natOfNumeral? text).map fun value : Nat => (value : ℤ) := by
  unfold int?
  rw [trimmed]
  split
  · exact absurd (unsigned '-' (by simp)) (by decide)
  · exact absurd (unsigned '+' (by simp)) (by decide)
  · rfl

/-- The decimal text of an integer reads back as that integer. -/
theorem int?_decimal (value : ℤ)
    (short : (Nat.toDigits 10 value.natAbs).length ≤ maxNumeralDigits) :
    int? (decimal value) = some value := by
  have solid (c : Char) (member : c ∈ decimal value) : isNumeralSpace c = false := by
    simp [isNumeralSpace, isSpace_of_mem_decimal value c member]
  have trimmed : trim isNumeralSpace (decimal value) = decimal value :=
    trim_eq_self _ _ (fun c head => solid c (List.mem_of_head? head))
      fun c last => solid c (List.mem_of_getLast? last)
  have digits := natOfNumeral?_toDigits value.natAbs short
  by_cases negative : value < 0
  · have text : decimal value = '-' :: Nat.toDigits 10 value.natAbs := by
      rw [decimal_eq, if_pos negative]
      rfl
    rw [text] at trimmed ⊢
    simp only [int?, trimmed, digits, Option.map_some, Option.some.injEq]
    omega
  · have text : decimal value = Nat.toDigits 10 value.natAbs := by
      rw [decimal_eq, if_neg negative]
      rfl
    rw [text] at trimmed ⊢
    rw [int?_unsigned _ trimmed fun c head => Nat.isDigit_of_mem_toDigits (by decide) (by decide)
      (List.mem_of_head? head), digits, Option.map_some, Option.some.injEq]
    omega

/-- Every character of the text is an ASCII character. -/
def AsciiText (text : List Char) : Prop := ∀ c ∈ text, c.toNat < 128

instance (text : List Char) : Decidable (AsciiText text) :=
  List.decidableBAll (fun c : Char => c.toNat < 128) text

theorem asciiText_append (first second : List Char) :
    AsciiText (first ++ second) ↔ AsciiText first ∧ AsciiText second := List.forall_mem_append

theorem asciiText_decimal (value : ℤ) : AsciiText (decimal value) := by
  intro c member
  rcases mem_decimal value c member with rfl | digit
  · decide
  · obtain ⟨_, upper⟩ := Char.isDigit_iff_toNat.mp digit
    exact lt_of_le_of_lt upper (by decide)

/-- A decimal text has at most one character more than its digits. -/
theorem decimal_length_le {value : ℤ} {digits : Nat} (positive : 0 < digits)
    (bound : value.natAbs < 10 ^ digits) : (decimal value).length ≤ digits + 1 := by
  have short := (Nat.length_toDigits_le_iff (by decide) positive).mpr bound
  rw [decimal_eq, List.length_append]
  split
  · rw [List.length_singleton]
    omega
  · rw [List.length_nil]
    omega

/-- A text of ASCII characters has one byte for each character. -/
theorem utf8ByteSize_ofList (text : List Char) (ascii : AsciiText text) :
    (String.ofList text).utf8ByteSize = text.length := by
  induction text with
  | nil => rfl
  | cons c rest ih =>
      have single : c.utf8Size = 1 := by
        rw [Char.utf8Size_eq_one_iff, UInt32.le_iff_toNat_le]
        exact Nat.le_of_lt_succ (ascii c List.mem_cons_self)
      have tail := ih fun other member => ascii other (List.mem_cons_of_mem c member)
      rw [String.ofList_cons, String.utf8ByteSize_append, String.utf8ByteSize_singleton, single,
        tail, List.length_cons, Nat.add_comm]

/-- A text that fits is not cut. -/
theorem extract_toUTF8 (text : String) (limit : Nat) (fits : text.utf8ByteSize ≤ limit) :
    text.toUTF8.extract 0 limit = text.toUTF8 := by
  have size : text.toUTF8.data.size ≤ limit := fits
  apply ByteArray.ext
  rw [ByteArray.data_extract, Array.extract_eq_self_of_le size]

/-- A text of ASCII characters is cut between two characters. -/
theorem extract_toUTF8_ofList (text : List Char) (ascii : AsciiText text) (limit : Nat) :
    (String.ofList text).toUTF8.extract 0 limit = (String.ofList (text.take limit)).toUTF8 := by
  rcases Nat.le_total text.length limit with fits | long
  · rw [List.take_of_length_le fits]
    apply extract_toUTF8
    rwa [utf8ByteSize_ofList text ascii]
  · have first : AsciiText (text.take limit) := fun c member => ascii c (List.mem_of_mem_take member)
    have size : limit = (String.ofList (text.take limit)).toUTF8.size := by
      have bytes := utf8ByteSize_ofList (text.take limit) first
      rw [List.length_take_of_le long] at bytes
      exact bytes.symm
    have joined : (String.ofList text).toUTF8 =
        (String.ofList (text.take limit)).toUTF8 ++ (String.ofList (text.drop limit)).toUTF8 := by
      rw [String.toUTF8_eq_toByteArray, String.toUTF8_eq_toByteArray, String.toUTF8_eq_toByteArray,
        ← String.toByteArray_append, ← String.ofList_append, List.take_append_drop]
    rw [joined, ByteArray.extract_append_eq_left size]

/-- A text survives its own encoding. -/
theorem fromUTF8?_toUTF8 (text : String) : String.fromUTF8? text.toUTF8 = some text := by
  rw [String.fromUTF8?, String.toUTF8_eq_toByteArray, dif_pos text.isValidUTF8]
  rfl

end Library.PythonText
