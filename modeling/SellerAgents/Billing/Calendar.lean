import SellerAgents.Billing.Tables

open SellerAgents.Subscriptions

namespace SellerAgents.Billing

def msPerDay : Int := 86400000

/-- The day number of a date of the proleptic Gregorian calendar; day 0 is 1970-01-01. -/
def daysFromCivil (year month day : Int) : Int :=
  -- The year is counted from March, so that the leap day comes last.
  let year := if month ≤ 2 then year - 1 else year
  let era := year / 400
  let yearOfEra := year - era * 400
  let dayOfYear := (153 * (if month ≤ 2 then month + 9 else month - 3) + 2) / 5 + day - 1
  era * 146097 + (yearOfEra * 365 + yearOfEra / 4 - yearOfEra / 100 + dayOfYear) - 719468

/-- The year, month (from 1) and day of a day number. -/
def civilFromDays (days : Int) : Int × Int × Int :=
  let shifted := days + 719468
  let era := shifted / 146097
  let dayOfEra := shifted - era * 146097
  let yearOfEra :=
    (dayOfEra - dayOfEra / 1460 + dayOfEra / 36524 - dayOfEra / 146096) / 365
  let dayOfYear := dayOfEra - (365 * yearOfEra + yearOfEra / 4 - yearOfEra / 100)
  let monthFromMarch := (5 * dayOfYear + 2) / 153
  let month := if monthFromMarch < 10 then monthFromMarch + 3 else monthFromMarch - 9
  (yearOfEra + era * 400 + (if month ≤ 2 then 1 else 0), month,
    dayOfYear - (153 * monthFromMarch + 2) / 5 + 1)

/-- `TimeClip`: a time beyond the range of `Date` is no date. -/
def timeClip (time : Int) : Option Date :=
  if time.natAbs ≤ 8640000000000000 then some time else none

/-- The time value of `Date.UTC(year, month, day)`, with the month counted from 0. The years 0 to 99
stand for 1900 to 1999. -/
def dateUtc (year month day : Int) : Int :=
  let year := if 0 ≤ year ∧ year ≤ 99 then 1900 + year else year
  (daysFromCivil (year + month / 12) (month % 12 + 1) 1 + (day - 1)) * msPerDay

/-- The end of a paid period: months and years keep the day where the month has it. -/
def addUtcCalendarInterval (start : Date) (unit : BillingIntervalUnit) (count : Nat) :
    Option Date :=
  if count < 1 then none
  else
    let (year, month, day) := civilFromDays (start / msPerDay)
    match unit with
    | .DAY => timeClip (start + count * msPerDay)
    | .MONTH => addMonths year (month - 1) day count
    | .YEAR => addMonths year (month - 1) day (count * 12)
where
  addMonths (year month day : Int) (monthOffset : Int) : Option Date :=
    let destinationMonth := month + monthOffset
    let destinationYear := year + destinationMonth / 12
    let normalizedMonth := destinationMonth % 12
    (timeClip (dateUtc destinationYear (normalizedMonth + 1) 0)).bind fun lastTime =>
      let lastDay := (civilFromDays (lastTime / msPerDay)).2.2
      timeClip (dateUtc destinationYear normalizedMonth (min day lastDay) + start % msPerDay)

/-- A month from the end of January ends with February. -/
example : addUtcCalendarInterval (dateUtc 2024 0 31 + 5) .MONTH 1 = some (dateUtc 2024 1 29 + 5) ∧
    addUtcCalendarInterval (dateUtc 2024 1 29) .YEAR 1 = some (dateUtc 2025 1 28) := by
  decide

end SellerAgents.Billing
