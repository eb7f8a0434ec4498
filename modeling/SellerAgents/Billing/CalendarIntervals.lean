import SellerAgents.Billing.CalendarLaws

open Gregorian SellerAgents.Subscriptions

namespace SellerAgents.Billing

theorem timeClip_eq_some {time date : Int} :
    timeClip time = some date ↔ time.natAbs ≤ 8640000000000000 ∧ date = time := by
  rw [timeClip]
  split
  · rename_i h
    simp only [h, true_and, Option.some.injEq]
    exact eq_comm
  · rename_i h
    simp [h]

theorem dateUtc_eq {year : Int} (h : 100 ≤ year) (month day : Int) :
    dateUtc year month day = (firstDay (12 * year + month) + day - 1) * msPerDay := by
  have hyear : (12 * year + month) / 12 = year + month / 12 := by omega
  have hmonth : (12 * year + month) % 12 = month % 12 := by omega
  simp only [dateUtc]
  rw [if_neg (by omega), daysFromCivil_eq _ _ (by omega) (by omega), firstDay, hyear, hmonth,
    add_sub_cancel_right, add_sub_assoc]

/-- A day of a month, or its last day, at a time of the day. -/
def landing (month day timeOfDay : Int) : Option Date :=
  if ((firstDay month + length month - 1) * msPerDay).natAbs ≤ 8640000000000000 then
    timeClip ((firstDay month + min day (length month) - 1) * msPerDay + timeOfDay)
  else none

variable {unit : BillingIntervalUnit} {day later month result start timeOfDay : Int} {count : Nat}

/-- The months of the years from 100 on begin within the range of `Date`. -/
theorem firstDay_lower (h : 1200 ≤ month) : -100000000 ≤ firstDay month :=
  le_trans (by decide) (firstDay_le h)

theorem landing_eq_some (h : landing month day timeOfDay = some result) :
    result = (firstDay month + min day (length month) - 1) * msPerDay + timeOfDay := by
  rw [landing] at h
  split at h
  · exact (timeClip_eq_some.mp h).2
  · cases h

theorem addMonths_eq {months : Int} (hmonths : 0 ≤ months)
    (hyear : 100 ≤ (civilFromDays (start / msPerDay)).1) :
    addUtcCalendarInterval.addMonths start (civilFromDays (start / msPerDay)).1
        ((civilFromDays (start / msPerDay)).2.1 - 1) (civilFromDays (start / msPerDay)).2.2
        months =
      landing (monthIndex (start / msPerDay) + months) (dayOfMonth (start / msPerDay))
        (start % msPerDay) := by
  obtain ⟨hpos, hle, -⟩ := civilFromDays_spec (start / msPerDay)
  rw [monthIndex, dayOfMonth]
  generalize civilFromDays (start / msPerDay) = date at *
  obtain ⟨year, month, day⟩ := date
  simp only at hyear hpos hle
  generalize htarget : 12 * year + month - 1 + months = target
  have hdestination : year + (month - 1 + months) / 12 = target / 12 := by omega
  have hnormalized : (month - 1 + months) % 12 = target % 12 := by omega
  have hlate : 100 ≤ target / 12 := by omega
  have hindex : 12 * (target / 12) + target % 12 = target := by omega
  simp only [addUtcCalendarInterval.addMonths, hdestination, hnormalized]
  simp only [dateUtc_eq hlate]
  rw [← add_assoc, hindex, firstDay_succ, landing]
  have hlast : firstDay target + length target + 0 - 1 = firstDay target + length target - 1 := by
    omega
  rw [hlast, timeClip]
  split
  · rw [Option.bind_some, Int.mul_ediv_cancel _ (by decide)]
    have hlength := length_bounds target
    have hday := (monthIndex_firstDay target (length target) (by omega)
      (le_refl _)).2
    rw [dayOfMonth] at hday
    rw [hday]
  · rfl

/-- The months of an interval. -/
def monthsOf : BillingIntervalUnit → Nat → Int
  | .DAY, _ => 0
  | .MONTH, count => count
  | .YEAR, count => count * 12

theorem addUtcCalendarInterval_day :
    addUtcCalendarInterval start .DAY count = some result ↔
      1 ≤ count ∧ (start + count * msPerDay).natAbs ≤ 8640000000000000 ∧
        result = start + count * msPerDay := by
  rw [addUtcCalendarInterval]
  split
  · rename_i h
    simp only [reduceCtorEq, false_iff, not_and]
    omega
  · rename_i h
    rw [timeClip_eq_some]
    exact ⟨fun hclip => ⟨by omega, hclip⟩, fun hclip => hclip.2⟩

theorem addUtcCalendarInterval_months (hunit : unit ≠ .DAY) (hcount : 1 ≤ count)
    (hyear : 100 ≤ (civilFromDays (start / msPerDay)).1) :
    addUtcCalendarInterval start unit count =
      landing (monthIndex (start / msPerDay) + monthsOf unit count) (dayOfMonth (start / msPerDay))
        (start % msPerDay) := by
  rw [addUtcCalendarInterval, if_neg (by omega)]
  cases unit with
  | DAY => exact absurd rfl hunit
  | MONTH => exact addMonths_eq (by omega) hyear
  | YEAR => exact addMonths_eq (by omega) hyear

theorem timeOfDay_bounds (start : Int) : 0 ≤ start % msPerDay ∧ start % msPerDay < msPerDay :=
  ⟨Int.emod_nonneg _ (by decide), Int.emod_lt_of_pos _ (by decide)⟩

/-- The date and the time of a landing. -/
theorem landing_civil (hday : 1 ≤ day) (hpos : 0 ≤ timeOfDay) (hlt : timeOfDay < msPerDay)
    (h : landing month day timeOfDay = some result) :
    result / msPerDay = firstDay month + min day (length month) - 1 ∧
      result % msPerDay = timeOfDay ∧ monthIndex (result / msPerDay) = month ∧
      dayOfMonth (result / msPerDay) = min day (length month) := by
  have hlength := length_bounds month
  have hresult := landing_eq_some h
  have hdivision : result / msPerDay = firstDay month + min day (length month) - 1 := by
    rw [hresult, add_comm, Int.add_mul_ediv_right _ _ (by decide), Int.ediv_eq_zero_of_lt hpos hlt,
      zero_add]
  have hrest : result % msPerDay = timeOfDay := by
    rw [hresult, add_comm, Int.add_mul_emod_self_right, Int.emod_eq_of_lt hpos hlt]
  have hdate := monthIndex_firstDay month (min day (length month)) (by omega)
    (by omega)
  rw [hdivision]
  exact ⟨rfl, hrest, hdate⟩

/-- The day that an interval ends on: for days that many days later, for months and years the same
day of the target month, or its last day when it has no such day. -/
def LandsOn (start : Int) (unit : BillingIntervalUnit) (count : Nat) (result : Date) : Prop :=
  if unit = .DAY then result / msPerDay = start / msPerDay + count
  else
    12 * (civilFromDays (result / msPerDay)).1 + (civilFromDays (result / msPerDay)).2.1 =
        12 * (civilFromDays (start / msPerDay)).1 + (civilFromDays (start / msPerDay)).2.1 +
          monthsOf unit count ∧
      (civilFromDays (result / msPerDay)).2.2 =
        min (civilFromDays (start / msPerDay)).2.2
          (monthLength (civilFromDays (result / msPerDay)).1
            (civilFromDays (result / msPerDay)).2.1)

theorem count_pos (h : addUtcCalendarInterval start unit count = some result) : 1 ≤ count := by
  by_contra hzero
  rw [addUtcCalendarInterval, if_pos (by omega)] at h
  cases h

/-- An interval keeps the time of the day, lands on its day and ends after its start. -/
theorem addUtcCalendarInterval_spec (hyear : 100 ≤ (civilFromDays (start / msPerDay)).1)
    (h : addUtcCalendarInterval start unit count = some result) :
    result % msPerDay = start % msPerDay ∧ LandsOn start unit count result ∧ start < result := by
  have hcount := count_pos h
  by_cases hunit : unit = .DAY
  · subst hunit
    obtain ⟨-, -, rfl⟩ := addUtcCalendarInterval_day.mp h
    rw [LandsOn, if_pos rfl, Int.add_mul_emod_self_right, Int.add_mul_ediv_right _ _ (by decide)]
    refine ⟨rfl, rfl, ?_⟩
    rw [msPerDay]
    omega
  · rw [addUtcCalendarInterval_months hunit hcount hyear] at h
    obtain ⟨hday, hle, heq⟩ := dayOfMonth_spec (start / msPerDay)
    obtain ⟨hpos, hlt⟩ := timeOfDay_bounds start
    obtain ⟨hdivision, hrest, hmonth, hlanded⟩ := landing_civil hday hpos hlt h
    have hmonths : 1 ≤ monthsOf unit count := by
      cases unit with
      | DAY => exact absurd rfl hunit
      | MONTH =>
        rw [monthsOf]
        omega
      | YEAR =>
        rw [monthsOf]
        omega
    refine ⟨hrest, ?_, ?_⟩
    · rw [LandsOn, if_neg hunit]
      have hresult := civilFromDays_eq (result / msPerDay)
      rw [hmonth] at hresult
      refine ⟨?_, ?_⟩
      · rw [monthIndex, monthIndex] at hmonth
        omega
      · rw [hresult, ← dayOfMonth, hlanded]
        rfl
    · have hend := firstDay_add_length_le (monthIndex (start / msPerDay))
        (monthIndex (start / msPerDay) + monthsOf unit count) (by omega)
      have hlength := length_bounds (monthIndex (start / msPerDay) + monthsOf unit count)
      have hlater : start / msPerDay < result / msPerDay := by omega
      by_contra hnot
      have := Int.ediv_le_ediv (by decide : (0 : Int) < msPerDay) (not_lt.mp hnot)
      omega

theorem year_mono {days : Int} (h : days ≤ later) :
    (civilFromDays days).1 ≤ (civilFromDays later).1 := by
  obtain ⟨hday, hle, heq⟩ := dayOfMonth_spec days
  obtain ⟨hday', hle', heq'⟩ := dayOfMonth_spec later
  have horder := (day_le_iff hday hle hday' hle').mp (by omega)
  have hbounds := civilFromDays_spec days
  have hlaterBounds := civilFromDays_spec later
  rw [monthIndex, monthIndex] at horder
  omega

/-- A later start day never gives an earlier result day. -/
theorem addUtcCalendarInterval_mono {other : Int}
    (hyear : 100 ≤ (civilFromDays (start / msPerDay)).1)
    (hstart : start / msPerDay ≤ other / msPerDay)
    (h : addUtcCalendarInterval start unit count = some result)
    (hother : addUtcCalendarInterval other unit count = some later) :
    result / msPerDay ≤ later / msPerDay := by
  have hcount := count_pos h
  by_cases hunit : unit = .DAY
  · subst hunit
    obtain ⟨-, -, rfl⟩ := addUtcCalendarInterval_day.mp h
    obtain ⟨-, -, rfl⟩ := addUtcCalendarInterval_day.mp hother
    rw [Int.add_mul_ediv_right _ _ (by decide), Int.add_mul_ediv_right _ _ (by decide)]
    omega
  · obtain ⟨hday, hle, heq⟩ := dayOfMonth_spec (start / msPerDay)
    obtain ⟨hday', hle', heq'⟩ := dayOfMonth_spec (other / msPerDay)
    have horder := (day_le_iff hday hle hday' hle').mp (by omega)
    have hotherYear := hyear.trans (year_mono hstart)
    rw [addUtcCalendarInterval_months hunit hcount hyear] at h
    rw [addUtcCalendarInterval_months hunit hcount hotherYear] at hother
    obtain ⟨hpos, hlt⟩ := timeOfDay_bounds start
    obtain ⟨hpos', hlt'⟩ := timeOfDay_bounds other
    rw [(landing_civil hday hpos hlt h).1, (landing_civil hday' hpos' hlt' hother).1]
    rcases horder with hlt | ⟨heqMonth, hleDay⟩
    · have hend := firstDay_add_length_le
        (monthIndex (start / msPerDay) + monthsOf unit count)
        (monthIndex (other / msPerDay) + monthsOf unit count) (by omega)
      have hlength := length_bounds (monthIndex (other / msPerDay) + monthsOf unit count)
      omega
    · rw [heqMonth]
      omega

theorem addUtcCalendarInterval_monoAt {other : Int}
    (hyear : 100 ≤ (civilFromDays (start / msPerDay)).1)
    (hstart : start / msPerDay ≤ other / msPerDay) (htime : start % msPerDay ≤ other % msPerDay)
    (h : addUtcCalendarInterval start unit count = some result)
    (hother : addUtcCalendarInterval other unit count = some later) : result ≤ later := by
  have hdays := addUtcCalendarInterval_mono hyear hstart h hother
  have hrest := (addUtcCalendarInterval_spec hyear h).1
  have hotherRest := (addUtcCalendarInterval_spec (hyear.trans (year_mono hstart)) hother).1
  rw [msPerDay] at *
  omega

/-- A landing beyond the last date has no later one on the same day. -/
theorem landing_none (hmonth : 1200 ≤ month) (hlater : month < later) (hday : 1 ≤ day)
    (hday28 : day ≤ 28) (hpos : 0 ≤ timeOfDay) (hlt : timeOfDay < msPerDay)
    (h : landing month day timeOfDay = none) :
    landing later day timeOfDay = none := by
  have hlower := firstDay_lower hmonth
  have hend := firstDay_add_length_le _ _ hlater
  have hlength := length_bounds month
  have hlaterLength := length_bounds later
  rw [landing, timeClip] at h ⊢
  rw [msPerDay] at *
  split at h
  · split at h
    · cases h
    · rw [if_neg]
      omega
  · rw [if_neg]
    omega

/-- From the first 28 days of a month, months are added up. -/
theorem addUtcCalendarInterval_add {n m : Nat} (hn : 1 ≤ n) (hm : 1 ≤ m)
    (hyear : 100 ≤ (civilFromDays (start / msPerDay)).1)
    (hday : (civilFromDays (start / msPerDay)).2.2 ≤ 28) :
    addUtcCalendarInterval start .MONTH (n + m) =
      (addUtcCalendarInterval start .MONTH n).bind fun middle =>
        addUtcCalendarInterval middle .MONTH m := by
  have hdate := civilFromDays_spec (start / msPerDay)
  obtain ⟨hfirst, -, -⟩ := dayOfMonth_spec (start / msPerDay)
  obtain ⟨hpos, hlt⟩ := timeOfDay_bounds start
  have hindex : 1200 ≤ monthIndex (start / msPerDay) := by
    rw [monthIndex]
    omega
  rw [← dayOfMonth] at hday
  rw [addUtcCalendarInterval_months (by decide) (by omega) hyear,
    addUtcCalendarInterval_months (by decide) hn hyear]
  simp only [monthsOf, Nat.cast_add]
  rw [← add_assoc]
  cases hmiddle : landing (monthIndex (start / msPerDay) + n) (dayOfMonth (start / msPerDay))
      (start % msPerDay) with
  | none => exact landing_none (by omega) (by omega) hfirst hday hpos hlt hmiddle
  | some middle =>
    obtain ⟨-, hrest, hmonth, hlanded⟩ := landing_civil hfirst hpos hlt hmiddle
    have hlength := length_bounds (monthIndex (start / msPerDay) + n)
    have hmiddleYear : 100 ≤ (civilFromDays (middle / msPerDay)).1 := by
      have hbounds := civilFromDays_spec (middle / msPerDay)
      rw [monthIndex] at hmonth
      omega
    rw [Option.bind_some, addUtcCalendarInterval_months (by decide) hm hmiddleYear, hmonth, hlanded,
      hrest, min_eq_left (by omega)]
    rfl

/-- Paid periods from the year 100 on keep the time of the day and end on the day of the interval,
strictly later than they start. Their days are in the order of the start days, and so are their
instants at one time of the day or later; from the first 28 days of a month, months are added up. -/
theorem paid_period_laws :
    ∀ start : Date, 100 ≤ (civilFromDays (start / msPerDay)).1 →
      (∀ unit count result, addUtcCalendarInterval start unit count = some result →
        result % msPerDay = start % msPerDay ∧ LandsOn start unit count result ∧ start < result ∧
        ∀ other later, addUtcCalendarInterval other unit count = some later →
          start / msPerDay ≤ other / msPerDay →
            result / msPerDay ≤ later / msPerDay ∧
              (start % msPerDay ≤ other % msPerDay → result ≤ later)) ∧
      ((civilFromDays (start / msPerDay)).2.2 ≤ 28 → ∀ n m, 1 ≤ n → 1 ≤ m →
        addUtcCalendarInterval start .MONTH (n + m) =
          (addUtcCalendarInterval start .MONTH n).bind fun middle =>
            addUtcCalendarInterval middle .MONTH m) := by
  intro start hyear
  refine ⟨?_, fun hday n m hn hm => addUtcCalendarInterval_add hn hm hyear hday⟩
  intro unit count result h
  obtain ⟨hrest, hlands, hless⟩ := addUtcCalendarInterval_spec hyear h
  refine ⟨hrest, hlands, hless, fun other later hother hstart => ?_⟩
  exact ⟨addUtcCalendarInterval_mono hyear hstart h hother,
    fun htime => addUtcCalendarInterval_monoAt hyear hstart htime h hother⟩

/-- From the end of January 2024 to the end of February. -/
theorem paid_period_february :
    (dateUtc 2024 1 29 + 5) % msPerDay = (dateUtc 2024 0 31 + 5) % msPerDay ∧
      LandsOn (dateUtc 2024 0 31 + 5) .MONTH 1 (dateUtc 2024 1 29 + 5) ∧
      dateUtc 2024 0 31 + 5 < dateUtc 2024 1 29 + 5 :=
  have hlaws := (paid_period_laws (dateUtc 2024 0 31 + 5) (by decide)).1 .MONTH 1
    (dateUtc 2024 1 29 + 5) (by decide)
  ⟨hlaws.1, hlaws.2.1, hlaws.2.2.1⟩

/-- The later of two starts may end earlier: two days at the end of January both land on the last of
February, where the times of the day decide. -/
theorem paid_period_crossing :
    ¬ ∀ start other result later : Date, 100 ≤ (civilFromDays (start / msPerDay)).1 →
      start ≤ other → addUtcCalendarInterval start .MONTH 1 = some result →
        addUtcCalendarInterval other .MONTH 1 = some later → result ≤ later := by
  intro hkeeps
  have hlate := hkeeps (dateUtc 2023 0 30 + 82800000) (dateUtc 2023 0 31 + 3600000)
    (dateUtc 2023 1 28 + 82800000) (dateUtc 2023 1 28 + 3600000)
    (by decide) (by decide) (by decide) (by decide)
  revert hlate
  decide

end SellerAgents.Billing
