/-
This file prints an object of plain strings and proves that the scanner reads it back.
-/

import DataStreamPilot.Library.JsonProgress

namespace Library.Json

/-- A plain character stands for itself inside a JSON string. -/
def Plain (c : Char) : Prop := c ≠ '"' ∧ c ≠ '\\' ∧ 0x20 ≤ c.toNat

instance (c : Char) : Decidable (Plain c) := inferInstanceAs (Decidable (_ ∧ _))

/-- Every character of the text stands for itself. -/
def PlainText (text : List Char) : Prop := ∀ c ∈ text, Plain c

instance (text : List Char) : Decidable (PlainText text) := List.decidableBAll Plain text

def quoted (text : List Char) : List Char := '"' :: (text ++ ['"'])

/-- A blank follows every colon and every comma. -/
def membersText : List (List Char × List Char) → List Char
  | [] => []
  | [member] => quoted member.1 ++ ':' :: ' ' :: quoted member.2
  | member :: next :: rest =>
      quoted member.1 ++ ':' :: ' ' :: quoted member.2 ++ ',' :: ' ' :: membersText (next :: rest)

def objectText (members : List (List Char × List Char)) : List Char :=
  '{' :: (membersText members ++ ['}'])

/-- A member of plain strings has this value. -/
def stringMember (member : List Char × List Char) : String × JsonValue :=
  (String.ofList member.1, .string (String.ofList member.2))

theorem scanString_plain (text rest : List Char) (fuel : Nat) (plain : PlainText text)
    (enough : text.length < fuel) :
    scanString fuel (text ++ '"' :: rest) = some (text, rest) := by
  induction text generalizing fuel with
  | nil =>
      obtain ⟨fuel, rfl⟩ := Nat.exists_eq_succ_of_ne_zero (show fuel ≠ 0 by omega)
      simp [scanString]
  | cons c text ih =>
      obtain ⟨fuel, rfl⟩ := Nat.exists_eq_succ_of_ne_zero (show fuel ≠ 0 by omega)
      obtain ⟨noQuote, noEscape, printable⟩ := plain c (by simp)
      have tail := ih fuel (fun next member => plain next (List.mem_cons_of_mem _ member))
        (by simpa using enough)
      simp [scanString, noQuote, noEscape, Nat.not_lt.mpr printable, tail]

/-- The scanner reads a quoted text up to its closing quote. -/
theorem scanString_quoted (text rest : List Char) (plain : PlainText text) :
    scanString ((text ++ '"' :: rest).length + 1) (text ++ '"' :: rest) = some (text, rest) :=
  scanString_plain text rest _ plain (by simp)

theorem quoted_append (text rest : List Char) :
    quoted text ++ rest = '"' :: (text ++ '"' :: rest) := by
  simp [quoted]

theorem scanValue_quoted (text rest : List Char) (fuel : Nat) (plain : PlainText text) :
    scanValue (fuel + 1) (quoted text ++ rest) =
      some (.string (String.ofList text), rest) := by
  rw [quoted_append]
  simp only [scanValue, if_true, scanString_quoted text rest plain, Option.map_some]

/-- The scanner reads the last member. -/
theorem scanMembers_last (key text rest : List Char) (fuel : Nat) (plainKey : PlainText key)
    (plainText : PlainText text) :
    scanMembers (fuel + 2) (quoted key ++ ':' :: ' ' :: (quoted text ++ '}' :: rest)) =
      some ([stringMember (key, text)], rest) := by
  have colon : skipSpace (':' :: ' ' :: (quoted text ++ '}' :: rest)) =
      ':' :: ' ' :: (quoted text ++ '}' :: rest) := rfl
  have blank : skipSpace (' ' :: (quoted text ++ '}' :: rest)) = quoted text ++ '}' :: rest := rfl
  have brace : skipSpace ('}' :: rest) = '}' :: rest := rfl
  rw [quoted_append key]
  simp only [scanMembers, scanString_quoted key _ plainKey, colon, blank,
    scanValue_quoted text _ fuel plainText, brace, stringMember]

/-- The scanner reads one member and goes on after the comma. -/
theorem scanMembers_more (key text rest : List Char) (fuel : Nat) (plainKey : PlainText key)
    (plainText : PlainText text) :
    scanMembers (fuel + 2) (quoted key ++ ':' :: ' ' :: (quoted text ++ ',' :: rest)) =
      (scanMembers (fuel + 1) (skipSpace rest)).map fun members =>
        (stringMember (key, text) :: members.1, members.2) := by
  have colon : skipSpace (':' :: ' ' :: (quoted text ++ ',' :: rest)) =
      ':' :: ' ' :: (quoted text ++ ',' :: rest) := rfl
  have blank : skipSpace (' ' :: (quoted text ++ ',' :: rest)) = quoted text ++ ',' :: rest := rfl
  have comma : skipSpace (',' :: rest) = ',' :: rest := rfl
  rw [quoted_append key]
  simp only [scanMembers, scanString_quoted key _ plainKey, colon, blank,
    scanValue_quoted text _ fuel plainText, comma, stringMember]

theorem scanMembers_membersText (members : List (List Char × List Char)) (rest : List Char)
    (fuel : Nat) (nonempty : members ≠ []) (enough : members.length < fuel)
    (plain : ∀ member ∈ members, PlainText member.1 ∧ PlainText member.2) :
    scanMembers fuel (membersText members ++ '}' :: rest) =
      some (members.map stringMember, rest) := by
  induction members generalizing fuel with
  | nil => exact absurd rfl nonempty
  | cons member others ih =>
      obtain ⟨fuel, rfl⟩ := Nat.exists_eq_add_of_le' (show 2 ≤ fuel by simp at enough; omega)
      obtain ⟨plainKey, plainText⟩ := plain member (by simp)
      cases others with
      | nil =>
          have single : membersText [member] ++ '}' :: rest =
              quoted member.1 ++ ':' :: ' ' :: (quoted member.2 ++ '}' :: rest) := by
            simp [membersText]
          rw [single, scanMembers_last _ _ _ _ plainKey plainText]
          rfl
      | cons next others =>
          have more : membersText (member :: next :: others) ++ '}' :: rest =
              quoted member.1 ++ ':' :: ' ' :: (quoted member.2 ++
                ',' :: ' ' :: (membersText (next :: others) ++ '}' :: rest)) := by
            simp [membersText]
          have head : skipSpace (' ' :: (membersText (next :: others) ++ '}' :: rest)) =
              membersText (next :: others) ++ '}' :: rest := by
            cases others <;> rfl
          have tail := ih (fuel + 1) (by simp) (by simp at enough ⊢; omega)
            fun entry inside => plain entry (List.mem_cons_of_mem _ inside)
          rw [more, scanMembers_more _ _ _ _ plainKey plainText]
          simp only [head, tail, Option.map_some, List.map_cons]

/-- A member list starts with the quote of its first key. -/
theorem exists_membersText_append (members : List (List Char × List Char)) (rest : List Char)
    (nonempty : members ≠ []) : ∃ tail, membersText members ++ rest = '"' :: tail := by
  match members, nonempty with
  | [_], _ => exact ⟨_, rfl⟩
  | _ :: _ :: _, _ => exact ⟨_, rfl⟩

theorem scanValue_objectText (members : List (List Char × List Char)) (fuel : Nat)
    (nonempty : members ≠ []) (enough : members.length < fuel)
    (plain : ∀ member ∈ members, PlainText member.1 ∧ PlainText member.2) :
    scanValue (fuel + 1) (objectText members) =
      some (.object (members.map stringMember), []) := by
  obtain ⟨tail, quote⟩ := exists_membersText_append members ['}'] nonempty
  have scanned := scanMembers_membersText members [] fuel nonempty enough plain
  have start : skipSpace (membersText members ++ ['}']) = membersText members ++ ['}'] := by
    rw [quote]
    rfl
  have other : ('{' : Char) ≠ '"' := by decide
  simp only [objectText, scanValue, other, if_false, if_true, start, scanned, Option.map_some]
  rw [quote]
  rfl

/-- `json.loads` reads a printed object of plain strings back. -/
theorem loads_objectText (members : List (List Char × List Char)) (nonempty : members ≠ [])
    (plain : ∀ member ∈ members, PlainText member.1 ∧ PlainText member.2) :
    loads (objectText members) = some (.object (members.map stringMember)) := by
  have start : skipSpace (objectText members) = objectText members := rfl
  have noMark : (objectText members).head? ≠ some '\uFEFF' := by
    simp [objectText]
  rw [loads_eq_of_fuel _ (2 * (objectText members).length + members.length + 2) (by omega),
    if_neg noMark, start, scanValue_objectText members _ nonempty (by omega) plain]
  rfl

end Library.Json
