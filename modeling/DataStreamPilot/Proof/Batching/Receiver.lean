/-
This file gives the receiver of the batching node's messages and proves that it reads each message.
-/

import DataStreamPilot.Construction.Batching.DeltaEncoder
import DataStreamPilot.Library.DeltaCode
import DataStreamPilot.Proof.ReportRoundTrip

namespace DataStreamPilot.Batching

open Library Library.Json

/-- The buffer of a message holds the transmitted value and its parity bit. -/
def valueText (value : Int16) : List Char :=
  PythonText.decimal value.toInt ++ [','] ++
    (PythonText.decimal (calculateOddParity value) ++ [','])

/-- The message of one code entry. -/
def message (siteName : Nat) (code : DeltaCode.Entry Int16) : List Char :=
  jsonText siteName (valueText code.value) code.isBase.toNat

/-- The code entry with its value as an integer. -/
def integerEntry (code : DeltaCode.Entry Int16) : DeltaCode.Entry ℤ :=
  ⟨code.isBase, code.value.toInt⟩

/-- The receiver reads exactly one value, the parity bit after it, and the flag. -/
def readMessage (text : List Char) : Option (DeltaCode.Entry ℤ × ℤ) :=
  match loads text with
  | some (.object members) =>
      match member? members "t", member? members "b" with
      | some (.string values), some (.string flag) =>
          match values.toList.splitOn ',' with
          | [value, parity, []] =>
              match PythonText.int? value, PythonText.int? parity with
              | some value, some parity => some (⟨decide (flag = "1"), value⟩, parity)
              | _, _ => none
          | _ => none
      | _, _ => none
  | _ => none

/-- The receiver takes the value of a base message as its base and adds every other value to it. -/
def receive (base : ℤ) (posted : List (List Char)) : Option (List ℤ) :=
  (posted.mapM readMessage).map fun received => DeltaCode.decode base (received.map Prod.fst)

/-- A message is a printed object of three plain strings. -/
theorem jsonText_eq_objectText (siteName : Nat) (buffer : List Char) (isBase : Nat) :
    jsonText siteName buffer isBase = objectText [("s".toList, PythonText.decimal siteName),
      ("t".toList, buffer), ("b".toList, PythonText.decimal isBase)] := by
  show ['{', '"', 's', '"', ':', ' ', '"'] ++ PythonText.decimal siteName ++
    ['"', ',', ' ', '"', 't', '"', ':', ' ', '"'] ++ buffer ++
    ['"', ',', ' ', '"', 'b', '"', ':', ' ', '"'] ++ PythonText.decimal isBase ++ ['"', '}'] =
    objectText [(['s'], PythonText.decimal siteName), (['t'], buffer),
      (['b'], PythonText.decimal isBase)]
  simp [objectText, membersText, quoted]

theorem plainText_valueText (value : Int16) : PlainText (valueText value) := by
  have comma : PlainText [','] := by decide
  intro c member
  rw [valueText, List.mem_append, List.mem_append, List.mem_append] at member
  rcases member with (digit | separator) | digit | separator
  · exact Server.plain_decimal _ c digit
  · exact comma c separator
  · exact Server.plain_decimal _ c digit
  · exact comma c separator

/-- The buffer splits into the value, the parity bit and nothing. -/
theorem splitOn_valueText (value : Int16) :
    (valueText value).splitOn ',' =
      [PythonText.decimal value.toInt, PythonText.decimal (calculateOddParity value), []] := by
  have absent (number : ℤ) : ',' ∉ PythonText.decimal number :=
    Server.not_mem_decimal (by decide) (by decide) number
  have text : valueText value = PythonText.decimal value.toInt ++ ',' ::
      (PythonText.decimal (calculateOddParity value) ++ ',' :: []) := by
    rw [valueText, List.append_assoc]
    rfl
  rw [text, List.splitOn_append_cons_self_of_not_mem (absent _),
    List.splitOn_append_cons_self_of_not_mem (absent _), List.splitOn_nil]

/-- The last two members of a message are found by their keys. -/
theorem member?_message (siteName values flag : JsonValue) :
    member? [("s", siteName), ("t", values), ("b", flag)] "t" = some values ∧
      member? [("s", siteName), ("t", values), ("b", flag)] "b" = some flag := by
  simp [member?, List.lookup_cons]

/-- A message parses into its three strings. -/
theorem loads_message (siteName : Nat) (code : DeltaCode.Entry Int16) :
    loads (message siteName code) = some (.object
      [("s", .string (String.ofList (PythonText.decimal siteName))),
        ("t", .string (String.ofList (valueText code.value))),
        ("b", .string (String.ofList (PythonText.decimal code.isBase.toNat)))]) := by
  have plain (member : List Char × List Char) (inside : member ∈
      [("s".toList, PythonText.decimal siteName), ("t".toList, valueText code.value),
        ("b".toList, PythonText.decimal code.isBase.toNat)]) :
      PlainText member.1 ∧ PlainText member.2 := by
    simp only [List.mem_cons, List.not_mem_nil, or_false] at inside
    rcases inside with rfl | rfl | rfl
    · exact ⟨(by decide : PlainText "s".toList), Server.plain_decimal _⟩
    · exact ⟨(by decide : PlainText "t".toList), plainText_valueText code.value⟩
    · exact ⟨(by decide : PlainText "b".toList), Server.plain_decimal _⟩
  rw [message, jsonText_eq_objectText, loads_objectText _ (List.cons_ne_nil _ _) plain]
  rfl

/-- The receiver reads the code entry of a message and the parity bit of its value. -/
theorem readMessage_message (siteName : Nat) (code : DeltaCode.Entry Int16) :
    readMessage (message siteName code) =
      some (integerEntry code, (calculateOddParity code.value : ℤ)) := by
  have parsed := loads_message siteName code
  have value := PythonText.int?_decimal code.value.toInt
    (toDigits_length_le (natAbs_toInt_lt code.value))
  have parity := PythonText.int?_decimal (calculateOddParity code.value)
    (toDigits_parity_length_le code.value)
  have flag : decide (String.ofList (PythonText.decimal code.isBase.toNat) = "1") =
      code.isBase := by
    cases code.isBase <;> decide
  obtain ⟨values, isBase⟩ := member?_message (.string (String.ofList (PythonText.decimal siteName)))
    (.string (String.ofList (valueText code.value)))
    (.string (String.ofList (PythonText.decimal code.isBase.toNat)))
  simp only [readMessage, parsed, values, isBase, String.toList_ofList, splitOn_valueText, value,
    parity, flag, integerEntry]

/-- The receiver decodes the code entries of a sequence of messages. -/
theorem receive_messages (siteName : Nat) (base : ℤ) (codes : List (DeltaCode.Entry Int16)) :
    receive base (codes.map (message siteName)) =
      some (DeltaCode.decode base (codes.map integerEntry)) := by
  have received : (codes.map (message siteName)).mapM readMessage =
      some (codes.map fun code => (integerEntry code, (calculateOddParity code.value : ℤ))) := by
    induction codes with
    | nil => rfl
    | cons code rest ih =>
        rw [List.map_cons, List.mapM_cons, readMessage_message, ih]
        rfl
  rw [receive, received, Option.map_some, List.map_map]
  rfl

end DataStreamPilot.Batching
