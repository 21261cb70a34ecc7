/-
This file develops association lists that are changed only at existing keys.
-/

import Mathlib.Tactic

namespace Library

/-- A dictionary lists its entries in insertion order. -/
abbrev Dictionary (K A : Type) := List (K × A)

namespace Dictionary

section Rebuild

variable {K A B : Type}

/-- Each entry is rebuilt from its key and its value. -/
def mapEntries (dictionary : Dictionary K A) (rebuild : K → A → B) : Dictionary K B :=
  dictionary.map fun entry => (entry.1, rebuild entry.1 entry.2)

theorem mapEntries_congr (dictionary : Dictionary K A) {first second : K → A → B}
    (same : ∀ key value, (key, value) ∈ dictionary → first key value = second key value) :
    dictionary.mapEntries first = dictionary.mapEntries second := by
  apply List.map_congr_left
  rintro ⟨key, value⟩ member
  rw [same key value member]

end Rebuild

section Keys

variable {K A B : Type} [DecidableEq K]

/-- The change applies to the entry of one key and adds no entry. -/
def modify (dictionary : Dictionary K A) (key : K) (change : A → A) : Dictionary K A :=
  dictionary.map fun entry => if entry.1 = key then (entry.1, change entry.2) else entry

theorem lookup_mapEntries (dictionary : Dictionary K A) (rebuild : K → A → B) (key : K) :
    (dictionary.mapEntries rebuild).lookup key = (dictionary.lookup key).map (rebuild key) := by
  induction dictionary with
  | nil => rfl
  | cons entry rest ih =>
      obtain ⟨name, value⟩ := entry
      by_cases same : key = name
      · subst same
        simp [mapEntries]
      · have other : (key == name) = false := beq_false_of_ne same
        simpa [mapEntries, List.lookup_cons, other] using ih

/-- A change at one key is a rebuild of all entries. -/
theorem modify_eq_mapEntries (dictionary : Dictionary K A) (key : K) (change : A → A) :
    dictionary.modify key change =
      dictionary.mapEntries fun name value => if name = key then change value else value := by
  apply List.map_congr_left
  rintro ⟨name, value⟩ _
  by_cases same : name = key
  · simp [same]
  · simp [same]

/-- A later change applies to the rebuilt entry of its key. -/
theorem modify_mapEntries (dictionary : Dictionary K A) (rebuild : K → A → B) (key : K)
    (change : B → B) :
    (dictionary.mapEntries rebuild).modify key change =
      dictionary.mapEntries fun name value =>
        if name = key then change (rebuild name value) else rebuild name value := by
  rw [modify_eq_mapEntries]
  simp [mapEntries, List.map_map, Function.comp_def]

end Keys

end Dictionary

end Library
