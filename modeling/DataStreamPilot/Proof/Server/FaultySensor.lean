/-
This file bounds what one faulty sensor of a site can do to the recorded value.
The readings of the two others lie in an interval, and the value leaves it by at most a third of
the width.
-/

import DataStreamPilot.Proof.Server.Database
import DataStreamPilot.Proof.Server.KeptReadings
import DataStreamPilot.Proof.Server.LatestReadings

namespace DataStreamPilot.Server

open Library

/-- The interval grows by a third of its width on both sides. -/
def WithinThird (low high : ℤ) (number : ℚ) : Prop :=
  4 * (low : ℚ) - high ≤ 3 * number ∧ 3 * number ≤ 4 * (high : ℚ) - low

/-- The distance of a reading from the middle of two others, in units of their distance. -/
def Far (reading other third : ℤ) : Prop := |4 * (other - third)| < |2 * reading - other - third|

theorem Far.comm {reading other third : ℤ} (far : Far reading other third) :
    Far reading third other := by
  have distance : 4 * (third - other) = -(4 * (other - third)) := by ring
  have offset : 2 * reading - third - other = 2 * reading - other - third := by ring
  rw [Far, distance, abs_neg, offset]
  exact far

/-- Two readings are not both far from the two others. -/
theorem Far.asymm {first second third : ℤ} (far : Far first second third) :
    ¬ Far second first third := by
  intro other
  rw [Far] at far other
  rcases abs_cases (4 * (second - third)) with ⟨distance, _⟩ | ⟨distance, _⟩
  all_goals rcases abs_cases (2 * first - second - third) with ⟨_, _⟩ | ⟨_, _⟩
  all_goals rcases abs_cases (4 * (first - third)) with ⟨_, _⟩ | ⟨_, _⟩
  all_goals rcases abs_cases (2 * second - first - third) with ⟨_, _⟩ | ⟨_, _⟩ <;> omega

section Spread

variable (first second third : ℤ)

theorem spread_rotate : spread [first, second, third] = spread [second, third, first] := by
  rw [spread_eq, spread_eq]
  ring

theorem sum_rotate : [first, second, third].sum = [second, third, first].sum := by
  simp only [List.sum_cons, List.sum_nil]
  ring

/-- The test of a value does not depend on the order of the readings. -/
theorem keepsValue_rotate (value : ℤ) :
    keepsValue [first, second, third] value = keepsValue [second, third, first] value := by
  rw [keepsValue, keepsValue, sum_rotate, spread_rotate]

/-- The spread separates one reading from the two others. -/
theorem two_mul_spread : 2 * spread [first, second, third] =
    3 * (second - third) ^ 2 + (2 * first - second - third) ^ 2 := by
  rw [spread_eq]
  ring

theorem three_mul_sub_sum :
    3 * first - [first, second, third].sum = 2 * first - second - third := by
  simp only [List.sum_cons, List.sum_nil]
  ring

end Spread

/-- A reading that passes is near the two others. -/
theorem abs_le_of_keepsValue {first second third : ℤ}
    (near : keepsValue [first, second, third] first = true) :
    |2 * first - second - third| ≤ |5 * (second - third)| := by
  have test := (of_decide_eq_true near).2
  have double := two_mul_spread first second third
  rw [three_mul_sub_sum] at test
  apply sq_le_sq.mp
  nlinarith [sq_nonneg (second - third)]

/-- A reading that does not pass is far from the two others. -/
theorem far_of_not_keepsValue {first second third : ℤ} (differ : spread [first, second, third] ≠ 0)
    (rejected : keepsValue [first, second, third] first = false) : Far first second third := by
  have test : 169 * spread [first, second, third] <
      100 * (3 * first - [first, second, third].sum) ^ 2 := by
    by_contra near
    exact of_decide_eq_false rejected ⟨differ, not_lt.mp near⟩
  have double := two_mul_spread first second third
  rw [three_mul_sub_sum] at test
  apply sq_lt_sq.mp
  nlinarith [sq_nonneg (second - third)]

section Interval

variable {low high first second : ℤ} (firstInside : low ≤ first ∧ first ≤ high)
variable (secondInside : low ≤ second ∧ second ≤ high)

include firstInside secondInside

/-- The sum of the two readings with a third one that passes. -/
theorem sum_between {third : ℤ} (near : |2 * third - first - second| ≤ |5 * (first - second)|) :
    4 * low - high ≤ first + second + third ∧ first + second + third ≤ 4 * high - low := by
  rcases abs_cases (2 * third - first - second) with ⟨_, _⟩ | ⟨_, _⟩
  all_goals rcases abs_cases (5 * (first - second)) with ⟨_, _⟩ | ⟨_, _⟩ <;> omega

/-- The sum of the second reading and the third one, when the first one does not pass. -/
theorem pair_between {third : ℤ} (far : Far first second third) :
    2 * (4 * low - high) ≤ 3 * (second + third) ∧
      3 * (second + third) ≤ 2 * (4 * high - low) := by
  rw [Far] at far
  rcases abs_cases (4 * (second - third)) with ⟨_, _⟩ | ⟨_, _⟩
  all_goals rcases abs_cases (2 * first - second - third) with ⟨_, _⟩ | ⟨_, _⟩ <;> omega

end Interval

/-- The mean of two values. -/
theorem npMean_pair {low high first second : ℤ}
    (bounds : 2 * (4 * low - high) ≤ 3 * (first + second) ∧
      3 * (first + second) ≤ 2 * (4 * high - low)) :
    ∃ number, npMean [first, second] = .real number ∧ WithinThird low high number := by
  have lower : 2 * (4 * (low : ℚ) - high) ≤ 3 * (first + second) := by exact_mod_cast bounds.1
  have upper : 3 * ((first : ℚ) + second) ≤ 2 * (4 * high - low) := by exact_mod_cast bounds.2
  refine ⟨((first : ℚ) + second) / 2, ?_, ?_, ?_⟩
  · rw [npMean_of_ne_nil (List.cons_ne_nil first [second])]
    simp
  · linarith
  · linarith

/-- The mean of three values. -/
theorem npMean_triple {low high first second third : ℤ}
    (bounds : 4 * low - high ≤ first + second + third ∧
      first + second + third ≤ 4 * high - low) :
    ∃ number, npMean [first, second, third] = .real number ∧ WithinThird low high number := by
  have lower : 4 * (low : ℚ) - high ≤ first + second + third := by exact_mod_cast bounds.1
  have upper : (first : ℚ) + second + third ≤ 4 * high - low := by exact_mod_cast bounds.2
  refine ⟨((first : ℚ) + second + third) / 3, ?_, ?_, ?_⟩
  · rw [npMean_of_ne_nil (List.cons_ne_nil first [second, third])]
    simp [add_assoc]
  · linarith
  · linarith

/-- Two readings in the interval keep the filtered mean near it, whatever the third one is. -/
theorem npMean_keptValues_withinThird {low high first second : ℤ}
    (firstInside : low ≤ first ∧ first ≤ high) (secondInside : low ≤ second ∧ second ≤ high)
    (third : ℤ) :
    (npMean (keptValues [first, second, third]) = .nan ∧ first = second ∧ second = third) ∨
      ∃ number, npMean (keptValues [first, second, third]) = .real number ∧
        WithinThird low high number := by
  by_cases flat : spread [first, second, third] = 0
  · left
    have none : keptValues [first, second, third] = [] := by
      rw [keptValues, List.filter_eq_nil_iff]
      intro value _ kept
      exact (of_decide_eq_true kept).1 flat
    rw [none]
    exact ⟨rfl, (spread_eq_zero_iff first second third).mp flat⟩
  · right
    have flatSecond : spread [second, third, first] ≠ 0 := by rwa [← spread_rotate]
    have flatThird : spread [third, first, second] ≠ 0 := by rwa [← spread_rotate]
    simp only [keptValues, List.filter_cons, List.filter_nil]
    cases keepsFirst : keepsValue [first, second, third] first with
    | false =>
        have farFirst := far_of_not_keepsValue flat keepsFirst
        cases keepsSecond : keepsValue [first, second, third] second with
        | false =>
            rw [keepsValue_rotate] at keepsSecond
            exact absurd (far_of_not_keepsValue flatSecond keepsSecond).comm farFirst.asymm
        | true =>
            cases keepsThird : keepsValue [first, second, third] third with
            | false =>
                rw [keepsValue_rotate, keepsValue_rotate] at keepsThird
                exact absurd (far_of_not_keepsValue flatThird keepsThird) farFirst.comm.asymm
            | true => exact npMean_pair (pair_between firstInside secondInside farFirst)
    | true =>
        cases keepsSecond : keepsValue [first, second, third] second with
        | false =>
            rw [keepsValue_rotate] at keepsSecond
            have farSecond := (far_of_not_keepsValue flatSecond keepsSecond).comm
            cases keepsThird : keepsValue [first, second, third] third with
            | false =>
                rw [keepsValue_rotate, keepsValue_rotate] at keepsThird
                exact absurd (far_of_not_keepsValue flatThird keepsThird).comm farSecond.comm.asymm
            | true => exact npMean_pair (pair_between secondInside firstInside farSecond)
        | true =>
            cases keepsThird : keepsValue [first, second, third] third with
            | false =>
                apply npMean_pair
                omega
            | true =>
                rw [keepsValue_rotate, keepsValue_rotate] at keepsThird
                have near := abs_le_of_keepsValue keepsThird
                exact npMean_triple (sum_between firstInside secondInside near)

/-- The order of the sensors does not matter to the filter. -/
theorem readingList_perm (readings : Fin 3 → ℤ) (faulty : Fin 3) :
    ∃ first second, first ≠ faulty ∧ second ≠ faulty ∧
      (readingList readings).Perm [readings first, readings second, readings faulty] := by
  rw [readingList_eq]
  fin_cases faulty
  · have rotated : ([readings 0] ++ [readings 1, readings 2]).Perm
        ([readings 1, readings 2] ++ [readings 0]) := List.perm_append_comm
    exact ⟨1, 2, by decide, by decide, rotated⟩
  · exact ⟨0, 2, by decide, by decide, (List.Perm.swap _ _ []).cons _⟩
  · exact ⟨0, 1, by decide, by decide, List.Perm.refl _⟩

/-- The filter with one faulty sensor. -/
theorem npMean_faulty {readings : Fin 3 → ℤ} {faulty : Fin 3} {low high : ℤ}
    (healthy : ∀ sensor ≠ faulty, low ≤ readings sensor ∧ readings sensor ≤ high) :
    (npMean (correctValues readings zThreshold) = .nan ∧
      ∀ sensor, readings sensor = readings faulty) ∨
    ∃ number, npMean (correctValues readings zThreshold) = .real number ∧
      WithinThird low high number := by
  obtain ⟨first, second, firstOther, secondOther, same⟩ := readingList_perm readings faulty
  rw [correctValues_eq, npMean_perm (keptValues_perm same)]
  rcases npMean_keptValues_withinThird (healthy first firstOther) (healthy second secondOther)
    (readings faulty) with ⟨isNan, firstSame, secondSame⟩ | near
  · refine Or.inl ⟨isNan, fun sensor => ?_⟩
    have member : readings sensor ∈ readingList readings := List.mem_ofFn.mpr ⟨sensor, rfl⟩
    have listed := same.subset member
    simp only [firstSame, secondSame, List.mem_cons, List.not_mem_nil, or_self, or_false] at listed
    exact listed
  · exact Or.inr near

/-- The value of a point when the three sensors show these readings. -/
def NearHealthy (readings : Fin 3 → ℤ) (low high : ℤ) : ExactFloat → Prop
  | .nan => ∃ shown, readings = fun _ => shown
  | .infinity _ => False
  | .real degrees => WithinThird low high (100 * degrees)

/-- A healthy sensor shows a value of its interval. -/
theorem lastValues_mem (history : History) (siteName : String) (sensor : Fin 3)
    (two : 2 ≤ (history siteName (sensorKey sensor)).length) :
    lastValues history siteName sensor ∈ history siteName (sensorKey sensor) :=
  List.mem_of_getElem? (bufferOf_last _ two)

/-- Two healthy sensors of a site report values between two bounds, and the third one sends
anything. Once both have been accepted twice, no point of the site is farther from the bounds
than a third of their distance. -/
theorem handler_faultySensor (earlier : List Delivery) (delivery : Delivery) (siteName : String)
    (faulty : Fin 3) (low high : ℤ)
    (healthy : ∀ sensor ≠ faulty, ∀ value ∈ acceptedReadings
        ((earlier ++ [delivery]).map Delivery.payload) siteName (sensorKey sensor),
      low ≤ value ∧ value ≤ high)
    (two : ∀ sensor ≠ faulty, 2 ≤ (acceptedReadings
        ((earlier ++ [delivery]).map Delivery.payload) siteName (sensorKey sensor)).length) :
    ∀ point ∈ (handler.step (handler.run initialSiteData earlier).1 delivery).2,
      point.measurement = siteName →
      NearHealthy (lastValues (acceptedReadings ((earlier ++ [delivery]).map Delivery.payload))
        siteName) low high point.value := by
  intro point written own
  have started : initialSiteData = siteDataOf (acceptedReadings []) := rfl
  rw [started, handler_run, handler_step, store_history] at written
  obtain ⟨accepted, _, _, rfl⟩ := mem_storeStep_points written
  obtain rfl : accepted.siteName = siteName := own
  rw [List.map_append, List.map_singleton] at healthy two ⊢
  have shown (sensor : Fin 3) (other : sensor ≠ faulty) :=
    healthy sensor other _ (lastValues_mem _ accepted.siteName sensor (two sensor other))
  show NearHealthy _ low high (toDegrees (npMean (correctValues _ zThreshold)))
  rcases npMean_faulty shown with ⟨isNan, same⟩ | ⟨number, isNumber, near⟩
  · rw [isNan]
    exact ⟨_, funext same⟩
  · rw [isNumber]
    show WithinThird low high (100 * (number / 100))
    rwa [mul_div_cancel₀]
    norm_num

/-- The deliveries of the reports in Saclay. -/
def saclayDeliveries : List Delivery := saclayReports.map fun payload => ⟨payload, true⟩

/-- A report of the first sensor with another value. -/
def otherDelivery : Delivery := ⟨printedReport "4" "1" 2600 1, true⟩

/-- The deliveries before the second report with the other value. -/
def faultyDeliveries : List Delivery := saclayDeliveries ++ [otherDelivery]

/-- The history after both reports with the other value. -/
def saclayHistory : History :=
  acceptedReadings ((faultyDeliveries ++ [otherDelivery]).map Delivery.payload)

theorem saclayHistory_eq : saclayHistory =
    ((historyOf [⟨"saclay", "1", 2500⟩, ⟨"saclay", "1", 2500⟩, ⟨"saclay", "2", 2500⟩,
      ⟨"saclay", "2", 2500⟩, ⟨"saclay", "3", 2500⟩, ⟨"saclay", "3", 2500⟩]).record
        ⟨"saclay", "1", 2600⟩).record ⟨"saclay", "1", 2600⟩ := by
  have payloads : (faultyDeliveries ++ [otherDelivery]).map Delivery.payload =
      saclayReports ++ [printedReport "4" "1" 2600 1] ++ [printedReport "4" "1" 2600 1] := rfl
  rw [saclayHistory, payloads, acceptedReadings_accepted _ _ acceptedReading_2600,
    acceptedReadings_accepted saclayReports _ acceptedReading_2600, acceptedReadings_saclayReports]

/-- The last delivery writes a point. -/
theorem point_mem_otherDelivery : saclayHistory.point "saclay" ∈
    (handler.step (handler.run initialSiteData faultyDeliveries).1 otherDelivery).2 := by
  have started : initialSiteData = siteDataOf (acceptedReadings []) := rfl
  have reads : acceptedReading otherDelivery.payload = some ⟨"saclay", "1", 2600⟩ :=
    acceptedReading_2600
  rw [started, handler_run, handler_step, store_history, storeStep, reads, saclayHistory,
    List.map_append, List.map_singleton, acceptedReadings_accepted _ _ reads]
  exact List.mem_singleton_self _

/-- The filter gets the value of the faulty sensor, and the point shows the other two. -/
theorem handler_faultySensor_saclay :
    lastValues saclayHistory "saclay" = ![ 2600, 2500, 2500] ∧
      NearHealthy (lastValues saclayHistory "saclay") 2500 2500
        (saclayHistory.point "saclay").value := by
  refine ⟨?_, handler_faultySensor faultyDeliveries otherDelivery "saclay" 0 2500 2500 ?_ ?_ _
    point_mem_otherDelivery rfl⟩
  · rw [saclayHistory_eq]
    decide
  · show ∀ sensor ≠ 0, ∀ value ∈ saclayHistory "saclay" (sensorKey sensor), _
    rw [saclayHistory_eq]
    decide
  · show ∀ sensor ≠ 0, 2 ≤ (saclayHistory "saclay" (sensorKey sensor)).length
    rw [saclayHistory_eq]
    decide

end DataStreamPilot.Server
