/-
This file follows the decoder of a delta code through a sequence with lost code entries.
The decoder holds the last base that it has received, which may be of an earlier group.
-/

import DataStreamPilot.Library.DeltaCode

namespace Library.DeltaCode

/-- The part of a sequence that is not lost. -/
def received {A : Type*} (sent : List A) (kept : List Bool) : List A :=
  ((sent.zip kept).filter Prod.snd).map Prod.fst

variable {G : Type*}

/-- The decoder holds this value after some entries have been sent. It is the last base that is
not lost, or the initial base when all are lost. -/
def Holds (period : Nat) (entries : List G) (kept : List Bool) (initial : G) (count : Nat)
    (held : G) : Prop :=
  (∃ start < count, start % period = 0 ∧ kept[start]? = some true ∧ entries[start]? = some held ∧
    ∀ later < count, start < later → later % period = 0 → kept[later]? = some false) ∨
  (held = initial ∧ ∀ later < count, later % period = 0 → kept[later]? = some false)

/-- A lost entry and a difference leave the base as it is. -/
theorem Holds.keep {period : Nat} {entries : List G} {kept : List Bool} {initial held : G}
    {count : Nat} (holds : Holds period entries kept initial count held)
    (skipped : count % period = 0 → kept[count]? = some false) :
    Holds period entries kept initial (count + 1) held := by
  rcases holds with ⟨start, before, phase, isKept, value, lost⟩ | ⟨value, lost⟩
  · refine Or.inl ⟨start, Nat.lt_succ_of_lt before, phase, isKept, value, ?_⟩
    intro later within behind laterPhase
    rcases Nat.lt_succ_iff_lt_or_eq.mp within with earlier | rfl
    · exact lost later earlier behind laterPhase
    · exact skipped laterPhase
  · refine Or.inr ⟨value, ?_⟩
    intro later within laterPhase
    rcases Nat.lt_succ_iff_lt_or_eq.mp within with earlier | rfl
    · exact lost later earlier laterPhase
    · exact skipped laterPhase

variable [AddCommGroup G]

section

variable {period : Nat} {limit : G → G} {start initial : G} {entries : List G} {kept : List Bool}

end

end Library.DeltaCode
