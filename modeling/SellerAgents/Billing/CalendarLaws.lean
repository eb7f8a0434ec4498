import SellerAgents.Billing.Calendar
import SellerAgents.Gregorian.Months

open Gregorian SellerAgents.Subscriptions

namespace SellerAgents.Billing

/-- The days from 0000-03-01 to the first of March of a year. -/
def marchStart (year : Int) : Int := 365 * year + year / 4 - year / 100 + year / 400

/-- The day that a month begins on, the months of a year counted from March. -/
theorem monthStart_march (year month : Int) (hpos : 0 ≤ month) (hle : month ≤ 9) :
    monthStart year (month + 3) = marchStart year + (153 * month + 2) / 5 - 719468 := by
  simp only [monthStart, marchStart]
  rw [if_neg (by omega)]
  by_cases hleap : IsLeap year
  · rw [if_pos hleap]
    obtain ⟨hfour, hcentury⟩ := hleap
    interval_cases month <;> omega
  · rw [if_neg hleap]
    rw [IsLeap] at hleap
    interval_cases month <;> omega

/-- January and February belong to the March year before. -/
theorem monthStart_winter (year month : Int) (hpos : 10 ≤ month) (hle : month ≤ 11) :
    monthStart (year + 1) (month - 9) = marchStart year + (153 * month + 2) / 5 - 719468 := by
  simp only [monthStart, marchStart]
  rw [if_pos (by omega)]
  interval_cases month <;> omega

theorem daysFromCivil_eq (year day : Int) {month : Int} (hpos : 1 ≤ month) (hle : month ≤ 12) :
    daysFromCivil year month day = monthStart year month + day - 1 := by
  simp only [daysFromCivil]
  by_cases hwinter : month ≤ 2
  · have hstart := monthStart_winter (year - 1) (month + 9) (by omega) (by omega)
    rw [sub_add_cancel, add_sub_cancel_right] at hstart
    rw [hstart, if_pos hwinter, if_pos hwinter, marchStart]
    omega
  · have hstart := monthStart_march year (month - 3) (by omega) (by omega)
    rw [sub_add_cancel] at hstart
    rw [hstart, if_neg hwinter, if_neg hwinter, marchStart]
    omega

/-- A day of an era of 400 years by its century, its four years, its year and its day, the years
beginning in March. -/
theorem dayOfEra_parts (dayOfEra : Int) (hpos : 0 ≤ dayOfEra) (hlt : dayOfEra < 146097) :
    ∃ century four year day : Int, 0 ≤ century ∧ century ≤ 3 ∧ 0 ≤ four ∧ four ≤ 24 ∧ 0 ≤ year ∧
      year ≤ 3 ∧ 0 ≤ day ∧ day ≤ 365 ∧
      (day = 365 → year = 3 ∧ (four ≠ 24 ∨ century = 3)) ∧
      dayOfEra = 36524 * century + 1461 * four + 365 * year + day := by
  have hcentury : ∃ century rest : Int, 0 ≤ century ∧ century ≤ 3 ∧ 0 ≤ rest ∧
      (rest < 36524 ∨ century = 3 ∧ rest = 36524) ∧ dayOfEra = 36524 * century + rest := by
    refine ⟨min (dayOfEra / 36524) 3, dayOfEra - 36524 * min (dayOfEra / 36524) 3, ?_⟩
    omega
  obtain ⟨century, rest, hc0, hc3, hrest, hbound, heq⟩ := hcentury
  have hfour : ∃ four left : Int, 0 ≤ four ∧ four ≤ 24 ∧ 0 ≤ left ∧ left ≤ 1460 ∧
      rest = 1461 * four + left := ⟨rest / 1461, rest % 1461, by omega⟩
  obtain ⟨four, left, hf0, hf24, hl0, hl1460, hrestEq⟩ := hfour
  refine ⟨century, four, min (left / 365) 3, left - 365 * min (left / 365) 3, ?_⟩
  omega

/-- The year of an era that `civilFromDays` finds. -/
theorem yearOfEra_eq {century four year day dayOfEra : Int} (hc0 : 0 ≤ century) (hc3 : century ≤ 3)
    (hf0 : 0 ≤ four) (hf24 : four ≤ 24) (hy0 : 0 ≤ year) (hy3 : year ≤ 3) (hd0 : 0 ≤ day)
    (hd365 : day ≤ 365) (hlast : day = 365 → year = 3 ∧ (four ≠ 24 ∨ century = 3))
    (heq : dayOfEra = 36524 * century + 1461 * four + 365 * year + day) :
    (dayOfEra - dayOfEra / 1460 + dayOfEra / 36524 - dayOfEra / 146096) / 365 =
      100 * century + 4 * four + year := by
  have hcenturies : dayOfEra / 36524 - dayOfEra / 146096 = century := by
    interval_cases century <;> omega
  -- The fours of years counted by 1460 days run ahead by the leap days already passed.
  have hfours : dayOfEra / 1460 =
      25 * century + four + (24 * century + four + 365 * year + day) / 1460 := by omega
  have hahead : 0 ≤ day - (24 * century + four + 365 * year + day) / 1460 ∧
      day - (24 * century + four + 365 * year + day) / 1460 ≤ 364 := by
    interval_cases year <;> omega
  rw [hfours]
  omega

/-- A day of a year from March by the month and day that `civilFromDays` reads off. -/
theorem monthOfYear_bounds (year : Int) {day : Int} (hd0 : 0 ≤ day) (hd365 : day ≤ 365)
    (hleap : day = 365 → IsLeap (year + 1)) :
    let month := (5 * day + 2) / 153
    0 ≤ month ∧ month ≤ 11 ∧ 1 ≤ day - (153 * month + 2) / 5 + 1 ∧
      day - (153 * month + 2) / 5 + 1 ≤
        if month < 10 then monthLength year (month + 3) else monthLength (year + 1) (month - 9) := by
  intro month
  have hmonth : month = (5 * day + 2) / 153 := rfl
  clear_value month
  have hpos : 0 ≤ month := by omega
  have hle : month ≤ 11 := by omega
  refine ⟨hpos, hle, by omega, ?_⟩
  by_cases hlong : IsLeap (year + 1)
  · simp only [monthLength, hlong, if_true]
    interval_cases month <;> simp <;> omega
  · have hshort : day ≠ 365 := fun h => hlong (hleap h)
    simp only [monthLength, hlong, if_false]
    interval_cases month <;> simp <;> omega

/-- The last year of four has a 29th of February, but for that before a new century. -/
theorem isLeap_of_last {century four era : Int} (hf0 : 0 ≤ four) (hf24 : four ≤ 24)
    (hlast : four ≠ 24 ∨ century = 3) :
    IsLeap (100 * century + 4 * four + 3 + era * 400 + 1) := by
  refine ⟨by omega, ?_⟩
  rcases hlast with hfour | rfl
  · left
    omega
  · omega

/-- The March year of the parts of a day. -/
theorem marchStart_parts (era : Int) {century four year yearOfEra : Int} (hf0 : 0 ≤ four)
    (hf24 : four ≤ 24) (hc0 : 0 ≤ century) (hc3 : century ≤ 3) (hy0 : 0 ≤ year) (hy3 : year ≤ 3)
    (hyear : 100 * century + 4 * four + year = yearOfEra) :
    365 * yearOfEra + yearOfEra / 4 - yearOfEra / 100 =
        36524 * century + 1461 * four + 365 * year ∧
      marchStart (yearOfEra + era * 400) =
        146097 * era + 36524 * century + 1461 * four + 365 * year := by
  have hfours : yearOfEra / 4 = 25 * century + four := by omega
  have hcenturies : yearOfEra / 100 = century := by omega
  have hera4 : (yearOfEra + era * 400) / 4 = yearOfEra / 4 + era * 100 := by omega
  have hera100 : (yearOfEra + era * 400) / 100 = yearOfEra / 100 + era * 4 := by omega
  have hera400 : (yearOfEra + era * 400) / 400 = era := by omega
  rw [marchStart, hera4, hera100, hera400]
  omega

/-- `civilFromDays` finds the date of a day number. -/
theorem civilFromDays_spec (days : Int) :
    1 ≤ (civilFromDays days).2.1 ∧ (civilFromDays days).2.1 ≤ 12 ∧
      1 ≤ (civilFromDays days).2.2 ∧
      (civilFromDays days).2.2 ≤ monthLength (civilFromDays days).1 (civilFromDays days).2.1 ∧
      monthStart (civilFromDays days).1 (civilFromDays days).2.1 + (civilFromDays days).2.2 - 1 =
        days := by
  simp only [civilFromDays]
  generalize hera : (days + 719468) / 146097 = era
  generalize hdayOfEra : days + 719468 - era * 146097 = dayOfEra
  obtain ⟨century, four, year, day, hc0, hc3, hf0, hf24, hy0, hy3, hd0, hd365, hlast, heq⟩ :=
    dayOfEra_parts dayOfEra (by omega) (by omega)
  rw [yearOfEra_eq hc0 hc3 hf0 hf24 hy0 hy3 hd0 hd365 hlast heq]
  generalize hyear : 100 * century + 4 * four + year = yearOfEra
  obtain ⟨hpassed, hmarch⟩ := marchStart_parts era hf0 hf24 hc0 hc3 hy0 hy3 hyear
  have hday : dayOfEra - (365 * yearOfEra + yearOfEra / 4 - yearOfEra / 100) = day := by
    rw [hpassed, heq]
    exact add_sub_cancel_left _ _
  have hmarchDay : marchStart (yearOfEra + era * 400) + day = days + 719468 := by
    rw [hmarch]
    omega
  have hleap : day = 365 → IsLeap (yearOfEra + era * 400 + 1) := by
    intro h
    obtain ⟨rfl, hfinal⟩ := hlast h
    rw [← hyear]
    exact isLeap_of_last hf0 hf24 hfinal
  rw [hday]
  obtain ⟨hm0, hm11, hpos, hle⟩ := monthOfYear_bounds (yearOfEra + era * 400) hd0 hd365 hleap
  generalize (5 * day + 2) / 153 = month at *
  by_cases hwinter : month < 10
  · rw [if_pos hwinter] at hle ⊢
    have hstart := monthStart_march (yearOfEra + era * 400) month hm0 (by omega)
    rw [if_neg (by omega), add_zero, hstart]
    exact ⟨by omega, by omega, hpos, hle, by omega⟩
  · rw [if_neg hwinter] at hle ⊢
    have hstart := monthStart_winter (yearOfEra + era * 400) month (by omega) hm11
    rw [if_pos (by omega), hstart]
    exact ⟨by omega, by omega, hpos, hle, by omega⟩

/-- The index of a month, counted from January of the year 0. -/
def monthIndex (days : Int) : Int := 12 * (civilFromDays days).1 + (civilFromDays days).2.1 - 1

def dayOfMonth (days : Int) : Int := (civilFromDays days).2.2

theorem civilFromDays_eq (days : Int) :
    civilFromDays days = (monthIndex days / 12, monthIndex days % 12 + 1, dayOfMonth days) := by
  obtain ⟨hpos, hle, -⟩ := civilFromDays_spec days
  rw [monthIndex, dayOfMonth]
  generalize civilFromDays days = date at hpos hle
  obtain ⟨year, month, day⟩ := date
  simp only at hpos hle
  have hyear : (12 * year + month - 1) / 12 = year := by omega
  have hmonth : (12 * year + month - 1) % 12 + 1 = month := by omega
  simp only [hyear, hmonth]

theorem dayOfMonth_spec (days : Int) :
    1 ≤ dayOfMonth days ∧ dayOfMonth days ≤ Gregorian.length (monthIndex days) ∧
      firstDay (monthIndex days) + dayOfMonth days - 1 = days := by
  obtain ⟨-, -, hpos, hle, heq⟩ := civilFromDays_spec days
  rw [civilFromDays_eq days] at hpos hle heq
  exact ⟨hpos, hle, heq⟩

/-- The month and the day of a day number are read back. -/
theorem monthIndex_firstDay (index day : Int) (hpos : 1 ≤ day)
    (hle : day ≤ Gregorian.length index) :
    monthIndex (firstDay index + day - 1) = index ∧
      dayOfMonth (firstDay index + day - 1) = day := by
  obtain ⟨hpos', hle', heq⟩ := dayOfMonth_spec (firstDay index + day - 1)
  exact day_inj hpos' hle' hpos hle (by omega)

end SellerAgents.Billing
