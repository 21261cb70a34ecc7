/-
This file models Python's `json.loads` on decoded texts.
The scanner descends recursively, and the length of the text bounds its depth.
-/

import DataStreamPilot.Library.PythonText

namespace Library.Json

open PythonText

/-- A number keeps its text. A lone surrogate in a string is read as U+FFFD. -/
inductive JsonValue where
  | null
  | bool (value : Bool)
  | number (text : String)
  | string (text : String)
  | array (items : List JsonValue)
  | object (members : List (String × JsonValue))
  deriving Repr

/-- JSON permits four whitespace characters between tokens. -/
def isJsonSpace (c : Char) : Bool := c == ' ' || c == '\t' || c == '\n' || c == '\r'

def skipSpace (text : List Char) : List Char := text.dropWhile isJsonSpace

/-- A fixed word at the head of the text is consumed. -/
def word? (word text : List Char) : Option (List Char) :=
  if word.isPrefixOf text then some (text.drop word.length) else none

def hexDigit? (c : Char) : Option Nat :=
  if c.isDigit then some (c.toNat - '0'.toNat)
  else if 'a' ≤ c && c ≤ 'f' then some (c.toNat - 'a'.toNat + 10)
  else if 'A' ≤ c && c ≤ 'F' then some (c.toNat - 'A'.toNat + 10)
  else none

/-- A unicode escape has exactly four hexadecimal digits. -/
def hexUnit? : List Char → Option (Nat × List Char)
  | a :: b :: c :: d :: rest => do
      let high ← hexDigit? a
      let upper ← hexDigit? b
      let lower ← hexDigit? c
      let low ← hexDigit? d
      some (4096 * high + 256 * upper + 16 * lower + low, rest)
  | _ => none

def simpleEscape? (c : Char) : Option Char :=
  if c = '"' then some '"'
  else if c = '\\' then some '\\'
  else if c = '/' then some '/'
  else if c = 'b' then some '\x08'
  else if c = 'f' then some '\x0c'
  else if c = 'n' then some '\n'
  else if c = 'r' then some '\r'
  else if c = 't' then some '\t'
  else none

/-- A high surrogate joins the low surrogate of the next escape. -/
def joinSurrogates (unit : Nat) (rest : List Char) : Char × List Char :=
  match rest with
  | '\\' :: 'u' :: after =>
      match hexUnit? after with
      | some (low, more) =>
          if 0xD800 ≤ unit && unit < 0xDC00 && 0xDC00 ≤ low && low < 0xE000 then
            (Char.ofNat (0x10000 + 0x400 * (unit - 0xD800) + (low - 0xDC00)), more)
          else (if 0xD800 ≤ unit && unit < 0xE000 then '\uFFFD' else Char.ofNat unit, rest)
      | none => (if 0xD800 ≤ unit && unit < 0xE000 then '\uFFFD' else Char.ofNat unit, rest)
  | _ => (if 0xD800 ≤ unit && unit < 0xE000 then '\uFFFD' else Char.ofNat unit, rest)

/-- The character of one escape, after its backslash. -/
def scanEscape : List Char → Option (Char × List Char)
  | [] => none
  | c :: rest =>
      if c = 'u' then (hexUnit? rest).map fun unit => joinSurrogates unit.1 unit.2
      else (simpleEscape? c).map fun plain => (plain, rest)

/-- The body of a string, after its opening quote. -/
def scanString : Nat → List Char → Option (List Char × List Char)
  | 0, _ => none
  | _ + 1, [] => none
  | fuel + 1, c :: rest =>
      if c = '"' then some ([], rest)
      else if c = '\\' then
        match scanEscape rest with
        | some (escaped, after) =>
            (scanString fuel after).map fun body => (escaped :: body.1, body.2)
        | none => none
      else if c.toNat < 0x20 then none
      else (scanString fuel rest).map fun body => (c :: body.1, body.2)

/-- At least one digit after the given marker. -/
def scanDigits (marker text : List Char) : Option (List Char × List Char) :=
  match text.takeWhile Char.isDigit with
  | [] => none
  | digits => some (marker ++ digits, text.dropWhile Char.isDigit)

def scanFraction : List Char → List Char × List Char
  | '.' :: rest => (scanDigits ['.'] rest).getD ([], '.' :: rest)
  | text => ([], text)

def scanExponent : List Char → List Char × List Char
  | c :: sign :: rest =>
      if c = 'e' || c = 'E' then
        if sign = '+' || sign = '-' then
          (scanDigits [c, sign] rest).getD ([], c :: sign :: rest)
        else (scanDigits [c] (sign :: rest)).getD ([], c :: sign :: rest)
      else ([], c :: sign :: rest)
  | text => ([], text)

/-- The digits before a fraction have no leading zero. -/
def scanInteger : List Char → Option (List Char × List Char)
  | [] => none
  | c :: rest =>
      if c = '0' then some (['0'], rest)
      else if c.isDigit then
        some (c :: rest.takeWhile Char.isDigit, rest.dropWhile Char.isDigit)
      else none

/-- A number is an optional sign, an integer, an optional fraction and an optional exponent. -/
def scanNumber (text : List Char) : Option (JsonValue × List Char) :=
  let sign := if text.head? = some '-' then ['-'] else []
  match scanInteger (text.drop sign.length) with
  | none => none
  | some (integer, rest) =>
      let fraction := scanFraction rest
      let exponent := scanExponent fraction.2
      if fraction.1 = [] ∧ exponent.1 = [] ∧ maxNumeralDigits < integer.length then none
      else some (.number (String.ofList (sign ++ integer ++ fraction.1 ++ exponent.1)), exponent.2)

/-- These words are values by themselves. -/
def constants : List (List Char × JsonValue) :=
  [("null".toList, .null), ("true".toList, .bool true), ("false".toList, .bool false),
    ("NaN".toList, .number "NaN"), ("Infinity".toList, .number "Infinity"),
    ("-Infinity".toList, .number "-Infinity")]

def scanConstant (text : List Char) : Option (JsonValue × List Char) :=
  constants.findSome? fun constant => (word? constant.1 text).map fun rest => (constant.2, rest)

/-- The values that contain no other value. -/
def scanAtom (text : List Char) : Option (JsonValue × List Char) :=
  match scanConstant text with
  | some scanned => some scanned
  | none => scanNumber text

mutual

/-- One value at the head of the text. -/
def scanValue : Nat → List Char → Option (JsonValue × List Char)
  | 0, _ => none
  | _ + 1, [] => none
  | fuel + 1, c :: rest =>
      if c = '"' then
        (scanString (rest.length + 1) rest).map fun body =>
          (.string (String.ofList body.1), body.2)
      else if c = '{' then
        match skipSpace rest with
        | '}' :: after => some (.object [], after)
        | _ =>
            (scanMembers fuel (skipSpace rest)).map fun members =>
              (.object members.1, members.2)
      else if c = '[' then
        match skipSpace rest with
        | ']' :: after => some (.array [], after)
        | _ => (scanItems fuel (skipSpace rest)).map fun items => (.array items.1, items.2)
      else scanAtom (c :: rest)

/-- The members of an object up to its closing brace. -/
def scanMembers : Nat → List Char → Option (List (String × JsonValue) × List Char)
  | fuel + 1, '"' :: rest =>
      match scanString (rest.length + 1) rest with
      | none => none
      | some (key, afterKey) =>
          match skipSpace afterKey with
          | ':' :: colon =>
              match scanValue fuel (skipSpace colon) with
              | none => none
              | some (value, afterValue) =>
                  match skipSpace afterValue with
                  | '}' :: after => some ([(String.ofList key, value)], after)
                  | ',' :: comma =>
                      (scanMembers fuel (skipSpace comma)).map fun members =>
                        ((String.ofList key, value) :: members.1, members.2)
                  | _ => none
          | _ => none
  | _, _ => none

/-- The items of an array up to its closing bracket. -/
def scanItems : Nat → List Char → Option (List JsonValue × List Char)
  | 0, _ => none
  | fuel + 1, text =>
      match scanValue fuel text with
      | none => none
      | some (value, afterValue) =>
          match skipSpace afterValue with
          | ']' :: after => some ([value], after)
          | ',' :: comma =>
              (scanItems fuel (skipSpace comma)).map fun items => (value :: items.1, items.2)
          | _ => none

end

/-- `json.loads(text)`, where `none` is a `ValueError` -/
def loads (text : List Char) : Option JsonValue :=
  if text.head? = some '\uFEFF' then none
  else
    match scanValue (2 * text.length + 1) (skipSpace text) with
    | none => none
    | some (value, rest) => if skipSpace rest = [] then some value else none

/-- `object[key]` reads the last member of that name. -/
def member? (members : List (String × JsonValue)) (key : String) : Option JsonValue :=
  members.reverse.lookup key

end Library.Json
