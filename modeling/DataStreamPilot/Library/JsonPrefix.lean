/-
This file proves that the scanner refuses every text that ends inside a printed object.
-/

import DataStreamPilot.Library.JsonText

namespace Library.Json

/-- The text goes on after the cut. -/
def StrictPrefix (cut text : List Char) : Prop := ∃ c rest, text = cut ++ c :: rest

/-- A cut of a joined text ends in the first part or reaches the second part. -/
theorem StrictPrefix.append {cut first second : List Char}
    (strict : StrictPrefix cut (first ++ second)) :
    StrictPrefix cut first ∨ ∃ after, cut = first ++ after ∧ StrictPrefix after second := by
  obtain ⟨c, rest, same⟩ := strict
  rcases List.append_eq_append_iff.mp same with ⟨after, reached, other⟩ | ⟨left, inside, other⟩
  · exact Or.inr ⟨after, reached, c, rest, other⟩
  · cases left with
    | nil =>
        rw [List.append_nil] at inside
        rw [List.nil_append] at other
        exact Or.inr ⟨[], by rw [inside, List.append_nil], c, rest, other.symm⟩
    | cons next left => exact Or.inl ⟨next, left, inside⟩

theorem StrictPrefix.cons {cut text : List Char} {c : Char}
    (strict : StrictPrefix cut (c :: text)) :
    cut = [] ∨ ∃ after, cut = c :: after ∧ StrictPrefix after text := by
  cases cut with
  | nil => exact Or.inl rfl
  | cons head after =>
      obtain ⟨next, rest, same⟩ := strict
      obtain ⟨rfl, tail⟩ := List.cons.inj same
      exact Or.inr ⟨after, rfl, next, rest, tail⟩

/-- A cut before the last character is a cut without it. -/
theorem StrictPrefix.plain {cut text : List Char} (strict : StrictPrefix cut (text ++ ['"']))
    (plain : PlainText text) : PlainText cut := by
  intro c member
  rcases strict.append with ⟨next, rest, inside⟩ | ⟨after, reached, strictAfter⟩
  · exact plain c (inside ▸ List.mem_append_left _ member)
  · rcases strictAfter.cons with rfl | ⟨_, _, _, _, absurdly⟩
    · rw [reached, List.append_nil] at member
      exact plain c member
    · exact absurd absurdly.symm (List.append_ne_nil_of_right_ne_nil _ (List.cons_ne_nil _ _))

/-- A string without its closing quote is refused. -/
theorem scanString_unclosed (fuel : Nat) {text : List Char} (plain : PlainText text) :
    scanString fuel text = none := by
  induction text generalizing fuel with
  | nil => cases fuel <;> rfl
  | cons c text ih =>
      cases fuel with
      | zero => rfl
      | succ fuel =>
          obtain ⟨noQuote, noEscape, printable⟩ := plain c List.mem_cons_self
          have tail := ih fuel fun next member => plain next (List.mem_cons_of_mem _ member)
          simp [scanString, noQuote, noEscape, Nat.not_lt.mpr printable, tail]

/-- A value that is a cut string is refused. -/
theorem scanValue_cut (fuel : Nat) {cut text : List Char} (strict : StrictPrefix cut (quoted text))
    (plain : PlainText text) : scanValue fuel (skipSpace cut) = none := by
  rcases StrictPrefix.cons strict with rfl | ⟨after, rfl, inside⟩
  · cases fuel <;> rfl
  · have start : skipSpace ('"' :: after) = '"' :: after := rfl
    rw [start]
    cases fuel with
    | zero => rfl
    | succ fuel => simp [scanValue, scanString_unclosed _ (inside.plain plain)]

/-- A member list that is cut in its first key is refused. -/
theorem scanMembers_cutKey (fuel : Nat) {cut key : List Char}
    (strict : StrictPrefix cut (quoted key)) (plain : PlainText key) :
    scanMembers fuel cut = none := by
  rcases StrictPrefix.cons strict with rfl | ⟨after, rfl, inside⟩
  · cases fuel <;> simp [scanMembers]
  · cases fuel with
    | zero => simp [scanMembers]
    | succ fuel => simp [scanMembers, scanString_unclosed _ (inside.plain plain)]

/-- A member list that is cut between its first key and the end of its first value is refused. -/
theorem scanMembers_cutValue (fuel : Nat) {cut key text : List Char} (plainKey : PlainText key)
    (plainText : PlainText text) (strict : StrictPrefix cut (':' :: ' ' :: quoted text)) :
    scanMembers fuel (quoted key ++ cut) = none := by
  rw [quoted_append]
  cases fuel with
  | zero => simp [scanMembers]
  | succ fuel =>
      simp only [scanMembers, scanString_quoted key cut plainKey]
      rcases strict.cons with rfl | ⟨colon, rfl, afterColon⟩
      · rfl
      · have start : skipSpace (':' :: colon) = ':' :: colon := rfl
        simp only [start]
        rcases afterColon.cons with rfl | ⟨blank, rfl, inside⟩
        · have empty : scanValue fuel (skipSpace []) = none := by cases fuel <;> rfl
          rw [empty]
        · have skipped : skipSpace (' ' :: blank) = skipSpace blank := rfl
          rw [skipped, scanValue_cut fuel inside plainText]

/-- With little fuel no member is read. -/
theorem scanMembers_poor {fuel : Nat} (poor : fuel < 2) {key text after : List Char}
    (plainKey : PlainText key) :
    scanMembers fuel (quoted key ++ ':' :: ' ' :: (quoted text ++ after)) = none := by
  rw [quoted_append key]
  have colon : skipSpace (':' :: ' ' :: (quoted text ++ after)) =
      ':' :: ' ' :: (quoted text ++ after) := rfl
  interval_cases fuel
  · simp [scanMembers]
  · simp only [scanMembers, scanString_quoted key _ plainKey, colon, scanValue]

/-- A member list that ends after a value is refused. -/
theorem scanMembers_cutAfter (fuel : Nat) {key text : List Char} (plainKey : PlainText key)
    (plainText : PlainText text) :
    scanMembers fuel (quoted key ++ ':' :: ' ' :: quoted text) = none := by
  have whole : quoted key ++ ':' :: ' ' :: quoted text =
      quoted key ++ ':' :: ' ' :: (quoted text ++ []) := by rw [List.append_nil]
  rw [whole]
  rcases Nat.lt_or_ge fuel 2 with poor | rich
  · exact scanMembers_poor poor plainKey
  · obtain ⟨fuel, rfl⟩ := Nat.exists_eq_add_of_le' rich
    have colon : skipSpace (':' :: ' ' :: (quoted text ++ [])) =
        ':' :: ' ' :: (quoted text ++ []) := rfl
    have blank : skipSpace (' ' :: (quoted text ++ [])) = quoted text ++ [] := rfl
    have stop : skipSpace [] = [] := rfl
    rw [quoted_append key]
    simp only [scanMembers, scanString_quoted key _ plainKey, colon, blank,
      scanValue_quoted text _ fuel plainText, stop]

/-- The first character of a cut member list is a quote. -/
theorem skipSpace_cut {cut rest : List Char} (strict : StrictPrefix cut ('"' :: rest)) :
    skipSpace cut = cut := by
  rcases strict.cons with rfl | ⟨after, rfl, _⟩
  · rfl
  · rfl

/-- A member list that goes on after a comma is refused when the rest of it is. -/
theorem scanMembers_cutMore (fuel : Nat) {key text after more : List Char}
    (plainKey : PlainText key) (plainText : PlainText text)
    (strict : StrictPrefix after (',' :: ' ' :: '"' :: more))
    (refused : ∀ fuel cut, StrictPrefix cut ('"' :: more) → scanMembers fuel cut = none) :
    scanMembers fuel (quoted key ++ ':' :: ' ' :: (quoted text ++ after)) = none := by
  rcases strict.cons with rfl | ⟨comma, rfl, afterComma⟩
  · rw [List.append_nil]
    exact scanMembers_cutAfter fuel plainKey plainText
  · rcases Nat.lt_or_ge fuel 2 with poor | rich
    · exact scanMembers_poor poor plainKey
    · obtain ⟨fuel, rfl⟩ := Nat.exists_eq_add_of_le' rich
      have rest : scanMembers (fuel + 1) (skipSpace comma) = none := by
        rcases afterComma.cons with rfl | ⟨cut, rfl, inside⟩
        · exact refused _ _ ⟨'"', more, rfl⟩
        · have blank : skipSpace (' ' :: cut) = skipSpace cut := rfl
          rw [blank, skipSpace_cut inside]
          exact refused _ _ inside
      rw [scanMembers_more _ _ _ _ plainKey plainText, rest, Option.map_none]

/-- Every cut member list is refused. -/
theorem scanMembers_cut (members : List (List Char × List Char)) (nonempty : members ≠ [])
    (plain : ∀ member ∈ members, PlainText member.1 ∧ PlainText member.2) (fuel : Nat)
    (cut : List Char) (strict : StrictPrefix cut (membersText members ++ ['}'])) :
    scanMembers fuel cut = none := by
  induction members generalizing fuel cut with
  | nil => exact absurd rfl nonempty
  | cons member others ih =>
      obtain ⟨plainKey, plainText⟩ := plain member List.mem_cons_self
      have whole : ∃ tail, membersText (member :: others) ++ ['}'] =
          quoted member.1 ++ ((':' :: ' ' :: quoted member.2) ++ tail) ∧
          ∀ after fuel, StrictPrefix after tail → scanMembers fuel
            (quoted member.1 ++ ':' :: ' ' :: (quoted member.2 ++ after)) = none := by
        cases others with
        | nil =>
            refine ⟨['}'], by simp [membersText], fun after fuel strict => ?_⟩
            rcases strict.cons with rfl | ⟨_, _, _, _, absurdly⟩
            · rw [List.append_nil]
              exact scanMembers_cutAfter fuel plainKey plainText
            · exact absurd absurdly.symm
                (List.append_ne_nil_of_right_ne_nil _ (List.cons_ne_nil _ _))
        | cons next others =>
            obtain ⟨more, quote⟩ :=
              exists_membersText_append (next :: others) ['}'] (List.cons_ne_nil _ _)
            refine ⟨',' :: ' ' :: '"' :: more, by rw [← quote]; simp [membersText],
              fun after fuel strict => ?_⟩
            apply scanMembers_cutMore fuel plainKey plainText strict
            intro fuel cut inside
            rw [← quote] at inside
            exact ih (List.cons_ne_nil _ _)
              (fun entry listed => plain entry (List.mem_cons_of_mem _ listed)) fuel cut inside
      obtain ⟨tail, text, refused⟩ := whole
      rw [text] at strict
      rcases strict.append with inKey | ⟨after, rfl, afterKey⟩
      · exact scanMembers_cutKey fuel inKey plainKey
      · rcases afterKey.append with inValue | ⟨rest, rfl, afterValue⟩
        · exact scanMembers_cutValue fuel plainKey plainText inValue
        · exact refused rest fuel afterValue

/-- `json.loads` refuses a printed object of plain strings that is cut anywhere. -/
theorem loads_cut (members : List (List Char × List Char)) (nonempty : members ≠ [])
    (plain : ∀ member ∈ members, PlainText member.1 ∧ PlainText member.2) {cut : List Char}
    (strict : StrictPrefix cut (objectText members)) : loads cut = none := by
  obtain ⟨tail, quote⟩ := exists_membersText_append members ['}'] nonempty
  rcases StrictPrefix.cons strict with rfl | ⟨after, rfl, inside⟩
  · rfl
  · have refused := scanMembers_cut members nonempty plain
    have blank : skipSpace after = after := by
      rw [quote] at inside
      exact skipSpace_cut inside
    have noMark : ('{' :: after).head? ≠ some '\uFEFF' := by simp
    have start : skipSpace ('{' :: after) = '{' :: after := rfl
    have other : ('{' : Char) ≠ '"' := by decide
    have noEnd : ∀ more, after ≠ '}' :: more := by
      rintro more rfl
      rw [quote] at inside
      rcases inside.cons with empty | ⟨_, same, _⟩
      · cases empty
      · exact absurd (List.cons.inj same).1 (by decide)
    have value : scanValue (2 * ('{' :: after).length + 1) ('{' :: after) = none := by
      simp only [scanValue, other, if_false, if_true, blank, refused _ after inside,
        Option.map_none]
    rw [loads, if_neg noMark, start, value]

end Library.Json
