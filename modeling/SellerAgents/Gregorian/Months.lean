import Mathlib.Tactic.IntervalCases

namespace Gregorian

/-- A year of 366 days. -/
def IsLeap (year : Int) : Prop := year % 4 = 0 ∧ (year % 100 ≠ 0 ∨ year % 400 = 0)

instance (year : Int) : Decidable (IsLeap year) := inferInstanceAs (Decidable (_ ∧ _))

/-- The number of days of a month, the months counted from 1. -/
def monthLength (year month : Int) : Int :=
  if month = 2 then if IsLeap year then 29 else 28
  else if month = 4 ∨ month = 6 ∨ month = 9 ∨ month = 11 then 30
  else 31

/-- The number of the first day of a month; day 0 is 1970-01-01. -/
def monthStart (year month : Int) : Int :=
  let before := year - 1
  365 * before + before / 4 - before / 100 + before / 400 + (367 * month - 362) / 12 -
    (if month ≤ 2 then 0 else if IsLeap year then 1 else 2) - 719162

/-- The next month of a year begins when the month ends. -/
theorem monthStart_succ (year : Int) {month : Int} (hpos : 1 ≤ month) (hle : month ≤ 11) :
    monthStart year (month + 1) = monthStart year month + monthLength year month := by
  simp only [monthStart, monthLength]
  by_cases hleap : IsLeap year
  · simp only [hleap, if_true]
    interval_cases month <;> simp <;> omega
  · simp only [hleap, if_false]
    interval_cases month <;> simp <;> omega

/-- A year begins when December of the year before ends. -/
theorem monthStart_january (year : Int) :
    monthStart (year + 1) 1 = monthStart year 12 + monthLength year 12 := by
  by_cases hleap : IsLeap year
  · simp only [monthStart, monthLength, hleap, if_true]
    obtain ⟨hfour, hcentury⟩ := hleap
    norm_num
    omega
  · simp only [monthStart, monthLength, hleap, if_false]
    rw [IsLeap] at hleap
    norm_num
    omega

theorem monthLength_bounds (year month : Int) :
    28 ≤ monthLength year month ∧ monthLength year month ≤ 31 := by
  rw [monthLength]
  split_ifs <;> omega

/-! Months counted from January of the year 0. -/

/-- The number of the first day of a month by its index. -/
def firstDay (index : Int) : Int := monthStart (index / 12) (index % 12 + 1)

/-- The number of days of a month by its index. -/
def length (index : Int) : Int := monthLength (index / 12) (index % 12 + 1)

theorem length_bounds (index : Int) : 28 ≤ length index ∧ length index ≤ 31 :=
  monthLength_bounds _ _

theorem firstDay_succ (index : Int) : firstDay (index + 1) = firstDay index + length index := by
  rw [firstDay, firstDay, length]
  by_cases hlast : index % 12 = 11
  · have hyear : (index + 1) / 12 = index / 12 + 1 := by omega
    have hmonth : (index + 1) % 12 + 1 = 1 := by omega
    rw [hyear, hmonth, hlast, monthStart_january]
    norm_num
  · have hyear : (index + 1) / 12 = index / 12 := by omega
    have hmonth : (index + 1) % 12 + 1 = index % 12 + 1 + 1 := by omega
    rw [hyear, hmonth]
    exact monthStart_succ _ (by omega) (by omega)

theorem firstDay_le {index later : Int} (h : index ≤ later) : firstDay index ≤ firstDay later := by
  refine monotone_int_of_le_succ (fun month => ?_) h
  have hlength := (length_bounds month).1
  rw [firstDay_succ]
  omega

/-- A month ends before a later one begins. -/
theorem firstDay_add_length_le (index later : Int) (h : index < later) :
    firstDay index + length index ≤ firstDay later := by
  rw [← firstDay_succ]
  exact firstDay_le (by omega)

/-- The days of the months are in their order. -/
theorem day_le_iff {index other day otherDay : Int} (hpos : 1 ≤ day) (hle : day ≤ length index)
    (hotherPos : 1 ≤ otherDay) (hotherLe : otherDay ≤ length other) :
    firstDay index + day ≤ firstDay other + otherDay ↔
      index < other ∨ index = other ∧ day ≤ otherDay := by
  rcases lt_trichotomy index other with hlt | rfl | hgt
  · have hend := firstDay_add_length_le _ _ hlt
    constructor
    · exact fun _ => .inl hlt
    · intro
      omega
  · constructor
    · intro h
      exact .inr ⟨rfl, by omega⟩
    · rintro (h | ⟨-, h⟩)
      · exact absurd h (lt_irrefl _)
      · omega
  · have hend := firstDay_add_length_le _ _ hgt
    constructor
    · intro
      omega
    · rintro (h | ⟨rfl, -⟩)
      · omega
      · exact absurd hgt (lt_irrefl _)

/-- A day has one month and one number in it. -/
theorem day_inj {index other day otherDay : Int} (hpos : 1 ≤ day) (hle : day ≤ length index)
    (hotherPos : 1 ≤ otherDay) (hotherLe : otherDay ≤ length other)
    (h : firstDay index + day = firstDay other + otherDay) : index = other ∧ day = otherDay := by
  have hleft := (day_le_iff hpos hle hotherPos hotherLe).mp h.le
  have hright := (day_le_iff hotherPos hotherLe hpos hle).mp h.ge
  omega

end Gregorian
