/-
This file says when the zeros of the initial buffers reach the database.
A sensor shows its placeholder until its second accepted reading.
-/

import Mathlib.Data.List.ReduceOption
import DataStreamPilot.Proof.Server.RecordedValue

namespace DataStreamPilot.Server

open Library Library.Json

/-- The value farther from the mean than the threshold allows. -/
def Outlying (values : List ℤ) (value : ℤ) : Prop :=
  169 * spread values < 100 * (3 * value - values.sum) ^ 2

instance (values : List ℤ) (value : ℤ) : Decidable (Outlying values value) :=
  inferInstanceAs (Decidable (_ < _))

theorem keepsValue_iff (values : List ℤ) (value : ℤ) :
    keepsValue values value = true ↔ spread values ≠ 0 ∧ ¬ Outlying values value := by
  rw [keepsValue, decide_eq_true_eq, Outlying, not_lt]

/-- Among values that are not all equal the filter drops the outlying ones. -/
theorem keptValues_of_spread {values : List ℤ} (differ : spread values ≠ 0) :
    keptValues values = values.filter fun value => decide (¬ Outlying values value) := by
  apply List.filter_congr
  intro value _
  rw [Bool.eq_iff_iff, keepsValue_iff, decide_eq_true_eq]
  exact and_iff_right differ

/-- The three squared distances add up to three times the spread. -/
theorem distances_eq (a b c : ℤ) :
    (3 * a - [a, b, c].sum) ^ 2 + (3 * b - [a, b, c].sum) ^ 2 + (3 * c - [a, b, c].sum) ^ 2 =
      3 * spread [a, b, c] := by
  rw [spread_eq]
  simp only [List.sum_cons, List.sum_nil]
  ring

theorem spread_nonneg (a b c : ℤ) : 0 ≤ spread [a, b, c] := by
  rw [spread_eq]
  positivity

/-- The values of the range as rational numbers. -/
def rationalRange (range : List ℤ) : List ℚ := range.map fun value : ℤ => (value : ℚ)

/-- Two shown readings next to one placeholder. The placeholder is dropped, or the mean of the
kept values lies in the range. -/
def PairHarmless (range : List ℤ) (first second : ℤ) : Prop :=
  if first = 0 ∧ second = 0 ∨ Outlying [first, second, 0] 0 then True
  else if Outlying [first, second, 0] first then WithinRange (rationalRange range) (second / 2 : ℚ)
  else if Outlying [first, second, 0] second then WithinRange (rationalRange range) (first / 2 : ℚ)
  else WithinRange (rationalRange range) ((first + second) / 3 : ℚ)

/-- The condition on the readings that the sensors of the site show. The other sensors show
their placeholders. -/
def PlaceholdersHarmless (range : List ℤ) : List ℤ → Prop
  | [only] => only = 0 ∨ WithinRange (rationalRange range) 0
  | [first, second] => PairHarmless range first second
  | _ => True

instance (range : List ℤ) (first second : ℤ) : Decidable (PairHarmless range first second) :=
  inferInstanceAs (Decidable (ite _ _ _))

instance (range : List ℤ) : (shown : List ℤ) → Decidable (PlaceholdersHarmless range shown)
  | [] => isTrue trivial
  | [_] => inferInstanceAs (Decidable (_ ∨ _))
  | [first, second] => inferInstanceAs (Decidable (PairHarmless range first second))
  | _ :: _ :: _ :: _ => isTrue trivial

/-- The filtered mean of the values is in the range whenever it is a number. -/
def MeanInRange (range values : List ℤ) : Prop :=
  ∀ number, npMean (keptValues values) = .real number → WithinRange (rationalRange range) number

/-- Equal values have no filtered mean. -/
theorem meanInRange_of_flat (range : List ℤ) {values : List ℤ} (flat : spread values = 0) :
    MeanInRange range values := by
  intro number isNumber
  have empty : keptValues values = [] := by
    rw [keptValues, List.filter_eq_nil_iff]
    intro value _ kept
    exact ((keepsValue_iff values value).mp kept).1 flat
  rw [empty] at isNumber
  cases isNumber

/-- The mean of accepted readings is in their range. -/
theorem meanInRange_of_subset (range : List ℤ) {values : List ℤ}
    (included : ∀ value ∈ keptValues values, value ∈ range) : MeanInRange range values := by
  intro number isNumber
  have kept : keptValues values ≠ [] := by
    intro empty
    rw [empty] at isNumber
    cases isNumber
  rw [npMean_of_ne_nil kept] at isNumber
  rw [← ExactFloat.real.inj isNumber]
  apply (npMean_withinRange kept).mono
  intro entry member
  obtain ⟨value, inside, rfl⟩ := List.mem_map.mp member
  exact List.mem_map_of_mem (included value inside)

/-- A known selection decides the condition by its mean. -/
theorem meanInRange_iff_of_kept (range : List ℤ) {values kept : List ℤ} {number : ℚ}
    (selection : keptValues values = kept) (isMean : npMean kept = .real number) :
    MeanInRange range values ↔ WithinRange (rationalRange range) number := by
  rw [MeanInRange, selection, isMean]
  constructor
  · intro inRange
    exact inRange number rfl
  · intro inRange other same
    rwa [← ExactFloat.real.inj same]

/-- One reading next to two placeholders is dropped. -/
theorem meanInRange_single (range : List ℤ) (only : ℤ) :
    MeanInRange range [only, 0, 0] ↔ only = 0 ∨ WithinRange (rationalRange range) 0 := by
  by_cases zero : only = 0
  · have flat : spread [only, 0, 0] = 0 := (spread_eq_zero_iff only 0 0).mpr ⟨zero, rfl⟩
    exact ⟨fun _ => Or.inl zero, fun _ => meanInRange_of_flat range flat⟩
  · have square : 0 < only ^ 2 := by positivity
    have value : spread [only, 0, 0] = 2 * only ^ 2 := by
      rw [spread_eq]
      ring
    have differ : spread [only, 0, 0] ≠ 0 := by omega
    have total : [only, 0, 0].sum = only := by simp
    have far : Outlying [only, 0, 0] only := by
      rw [Outlying, value, total]
      linarith
    have near : ¬ Outlying [only, 0, 0] 0 := by
      rw [Outlying, value, total]
      linarith
    have kept : keptValues [only, 0, 0] = [0, 0] := by
      simp [keptValues_of_spread differ, far, near]
    have isMean : npMean [0, 0] = .real 0 := by
      rw [npMean_of_ne_nil (List.cons_ne_nil _ _)]
      simp
    rw [meanInRange_iff_of_kept range kept isMean]
    exact ⟨Or.inr, fun inRange => inRange.resolve_left zero⟩

/-- The placeholder and one reading are never outliers together, nor are both readings. -/
theorem not_two_outlying {first second third : ℤ} (far : Outlying [first, second, third] first) :
    ¬ Outlying [first, second, third] second := by
  intro other
  have total := distances_eq first second third
  have nonneg := spread_nonneg first second third
  have rest := sq_nonneg (3 * third - [first, second, third].sum)
  rw [Outlying] at far other
  linarith

/-- Two readings next to one placeholder. -/
theorem meanInRange_pair (range : List ℤ) (first second : ℤ) (firstMember : first ∈ range)
    (secondMember : second ∈ range) :
    MeanInRange range [first, second, 0] ↔ PairHarmless range first second := by
  by_cases dropped : first = 0 ∧ second = 0 ∨ Outlying [first, second, 0] 0
  · rw [PairHarmless, if_pos dropped, iff_true]
    rcases dropped with ⟨rfl, rfl⟩ | far
    · exact meanInRange_of_flat range rfl
    · apply meanInRange_of_subset
      intro value member
      obtain ⟨inside, keeps⟩ := List.mem_filter.mp member
      simp only [List.mem_cons, List.not_mem_nil, or_false] at inside
      rcases inside with rfl | rfl | rfl
      · exact firstMember
      · exact secondMember
      · exact absurd far ((keepsValue_iff _ 0).mp keeps).2
  · obtain ⟨notZeros, nearZero⟩ := not_or.mp dropped
    have differ : spread [first, second, 0] ≠ 0 := by
      intro flat
      obtain ⟨same, zero⟩ := (spread_eq_zero_iff first second 0).mp flat
      exact notZeros ⟨same.trans zero, zero⟩
    rw [PairHarmless, if_neg dropped]
    by_cases farFirst : Outlying [first, second, 0] first
    · have kept : keptValues [first, second, 0] = [second, 0] := by
        simp [keptValues_of_spread differ, farFirst, not_two_outlying farFirst, nearZero]
      have isMean : npMean [second, 0] = .real (second / 2 : ℚ) := by
        rw [npMean_of_ne_nil (List.cons_ne_nil _ _)]
        simp
      rw [if_pos farFirst, meanInRange_iff_of_kept range kept isMean]
    · rw [if_neg farFirst]
      by_cases farSecond : Outlying [first, second, 0] second
      · have kept : keptValues [first, second, 0] = [first, 0] := by
          simp [keptValues_of_spread differ, farFirst, farSecond, nearZero]
        have isMean : npMean [first, 0] = .real (first / 2 : ℚ) := by
          rw [npMean_of_ne_nil (List.cons_ne_nil _ _)]
          simp
        rw [if_pos farSecond, meanInRange_iff_of_kept range kept isMean]
      · have kept : keptValues [first, second, 0] = [first, second, 0] := by
          simp [keptValues_of_spread differ, farFirst, farSecond, nearZero]
        have isMean : npMean [first, second, 0] = .real ((first + second) / 3 : ℚ) := by
          rw [npMean_of_ne_nil (List.cons_ne_nil _ _)]
          simp
        rw [if_neg farSecond, meanInRange_iff_of_kept range kept isMean]

/-- Each missing value becomes a zero. -/
theorem map_getD_perm (values : List (Option ℤ)) :
    (values.map fun value => value.getD 0).Perm (values.reduceOption ++
      List.replicate (values.length - values.reduceOption.length) 0) := by
  induction values with
  | nil => rfl
  | cons value rest ih =>
      cases value with
      | none =>
          have short := rest.reduceOption_length_le
          rw [List.reduceOption_cons_of_none, List.length_cons, Nat.succ_sub short,
            List.replicate_succ]
          exact (ih.cons 0).trans List.perm_middle.symm
      | some value =>
          rw [List.reduceOption_cons_of_some, List.length_cons, List.length_cons,
            Nat.succ_sub_succ]
          exact ih.cons value

theorem MeanInRange.perm_iff (range : List ℤ) {first second : List ℤ} (same : first.Perm second) :
    MeanInRange range first ↔ MeanInRange range second := by
  rw [MeanInRange, MeanInRange, npMean_perm (keptValues_perm same)]

/-- The condition decides the range of the mean for any number of shown readings. -/
theorem meanInRange_iff (range : List ℤ) (values : List (Option ℤ)) (three : values.length = 3)
    (included : ∀ value ∈ values.reduceOption, value ∈ range) :
    MeanInRange range (values.map fun value => value.getD 0) ↔
      PlaceholdersHarmless range values.reduceOption := by
  rw [MeanInRange.perm_iff range (map_getD_perm values), three]
  have short := values.reduceOption_length_le
  match shown : values.reduceOption with
  | [] => exact iff_of_true (meanInRange_of_flat range rfl) trivial
  | [only] => exact meanInRange_single range only
  | [first, second] =>
      rw [shown] at included
      exact meanInRange_pair range first second (included first (by simp))
        (included second (by simp))
  | [first, second, third] =>
      rw [shown] at included
      refine iff_of_true (meanInRange_of_subset range fun value kept => ?_) trivial
      exact included value (List.mem_of_mem_filter kept)
  | _ :: _ :: _ :: _ :: _ =>
      rw [shown, three] at short
      simp only [List.length_cons] at short
      omega

/-- The reading that the last slot of a sensor shows. The placeholder shows no reading. -/
def shownReading (readings : List ℤ) : Option ℤ :=
  if 2 ≤ readings.length then readings[readings.length - 1 - readings.length % 2]? else none

theorem bufferOf_last_eq (readings : List ℤ) :
    (bufferOf readings).last = (shownReading readings).getD 0 := by
  unfold shownReading
  split
  · rename_i two
    rw [bufferOf_last readings two, Option.getD_some]
  · rename_i few
    exact bufferOf_last_short readings (Nat.not_le.mp few)

/-- The shown readings of the three sensors of a site, in the order of the sensors. -/
def shownReadings (requests : List ByteArray) (siteName : String) : List (Option ℤ) :=
  (List.finRange 3).map fun sensor =>
    shownReading (acceptedReadings requests siteName (sensorKey sensor))

/-- All accepted readings of a site. -/
def siteReadings (requests : List ByteArray) (siteName : String) : List ℤ :=
  ((requests.filterMap acceptedReading).filter fun accepted =>
    accepted.siteName = siteName).map Accepted.value

theorem shownReadings_subset (requests : List ByteArray) (siteName : String) :
    ∀ value ∈ (shownReadings requests siteName).reduceOption,
      value ∈ siteReadings requests siteName := by
  intro value shown
  rw [List.reduceOption_mem_iff, shownReadings, List.mem_map] at shown
  obtain ⟨sensor, _, shown⟩ := shown
  have member : value ∈ acceptedReadings requests siteName (sensorKey sensor) := by
    unfold shownReading at shown
    split at shown
    · exact List.mem_of_getElem? shown
    · cases shown
  obtain ⟨accepted, inside, rfl⟩ := List.mem_map.mp member
  obtain ⟨stored, own⟩ := List.mem_filter.mp inside
  apply List.mem_map_of_mem
  exact List.mem_filter.mpr ⟨stored, by simpa using (of_decide_eq_true own).1.symm⟩

/-- The three values of the filter are the shown readings with zeros for the placeholders. -/
theorem readingList_lastValues (requests : List ByteArray) (siteName : String) :
    readingList (lastValues (acceptedReadings requests) siteName) =
      (shownReadings requests siteName).map fun value => value.getD 0 := by
  simp only [readingList_eq, lastValues, bufferOf_last_eq, shownReadings, List.map_map]
  rfl

/-- A number that one request sends lies in the range of the accepted readings of its site. -/
def NumberInRange (requests : List ByteArray) (request : ByteArray) (siteName : String) : Prop :=
  ∀ record number, (renderPost (serve requests) request).2 = .ok record →
    record.decodedValue = .real number →
    WithinRange (rationalRange (siteReadings (requests ++ [request]) siteName)) number

theorem numberInRange_iff (requests : List ByteArray) {request : ByteArray} {accepted : Accepted}
    (reads : acceptedReading request = some accepted) :
    NumberInRange requests request accepted.siteName ↔
      PlaceholdersHarmless (siteReadings (requests ++ [request]) accepted.siteName)
        (shownReadings (requests ++ [request]) accepted.siteName).reduceOption := by
  obtain ⟨record, sends, _, value⟩ := renderPost_record requests reads
  rw [← lastValues_acceptedReadings requests reads, correctValues_eq,
    readingList_lastValues] at value
  rw [← meanInRange_iff _ _ (by simp [shownReadings]) (shownReadings_subset _ _), NumberInRange,
    MeanInRange, ← value]
  constructor
  · intro inRange number isNumber
    exact inRange record number sends isNumber
  · intro inRange other number sendsOther isNumber
    rw [sends, Except.ok.injEq] at sendsOther
    exact inRange number (sendsOther ▸ isNumber)

/-- Every number that a run sends lies in the range of the readings accepted for its site so
far. -/
def NumbersInRange (requests : List ByteArray) : Prop :=
  ∀ (earlier : List ByteArray) (request : ByteArray) (accepted : Accepted),
    earlier ++ [request] <+: requests → acceptedReading request = some accepted →
      NumberInRange earlier request accepted.siteName

/-- The placeholders stay out of the database exactly when they are harmless at every report. -/
theorem numbersInRange_iff (requests : List ByteArray) :
    NumbersInRange requests ↔
      ∀ (earlier : List ByteArray) (request : ByteArray) (accepted : Accepted),
        earlier ++ [request] <+: requests → acceptedReading request = some accepted →
          PlaceholdersHarmless (siteReadings (earlier ++ [request]) accepted.siteName)
            (shownReadings (earlier ++ [request]) accepted.siteName).reduceOption := by
  refine forall_congr' fun earlier => forall_congr' fun request => forall_congr' fun accepted =>
    imp_congr_right fun _ => ?_
  refine ⟨fun inRange reads => ?_, fun harmless reads => ?_⟩
  · exact (numberInRange_iff earlier reads).mp (inRange reads)
  · exact (numberInRange_iff earlier reads).mpr (harmless reads)

/-- One sensor reports the same value twice, and the other sensors never report. -/
theorem shownReadings_twice {request : ByteArray} {accepted : Accepted}
    (reads : acceptedReading request = some accepted) :
    acceptedReadings ([request] ++ [request]) = historyOf [accepted, accepted] ∧
      siteReadings ([request] ++ [request]) accepted.siteName =
        [accepted.value, accepted.value] := by
  have stored : ([request] ++ [request]).filterMap acceptedReading = [accepted, accepted] := by
    simp only [List.cons_append, List.nil_append, List.filterMap_cons, List.filterMap_nil, reads]
  refine ⟨?_, ?_⟩
  · rw [acceptedReadings, stored]
  · rw [siteReadings, stored]
    simp

/-- Two reports of 25 degrees from one sensor send the number zero. -/
theorem numbersInRange_counterexample :
    ¬ NumbersInRange ([printedReport "4" "1" 2500 0] ++ [printedReport "4" "1" 2500 0]) := by
  have reads := acceptedReading_2500 "1" (by decide) (by decide)
  generalize printedReport "4" "1" 2500 0 = request at reads
  intro inRange
  have harmless := (numberInRange_iff [request] reads).mp
    (inRange [request] request ⟨"saclay", "1", 2500⟩ (List.prefix_refl _) reads)
  obtain ⟨histories, range⟩ := shownReadings_twice reads
  rw [range, shownReadings, histories] at harmless
  exact absurd harmless (by decide)

end DataStreamPilot.Server
