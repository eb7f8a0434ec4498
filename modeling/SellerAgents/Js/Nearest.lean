import Mathlib.Data.Int.Log
import Mathlib.Data.Rat.Floor
import Mathlib.Algebra.Order.Field.Power
import Mathlib.Tactic.Positivity

namespace SellerAgents.Js

/-- The nearest integer, the even one at a tie. -/
def roundEven (x : ℚ) : ℤ :=
  if 2 * (x - ⌊x⌋) < 1 then ⌊x⌋
  else if 1 < 2 * (x - ⌊x⌋) then ⌊x⌋ + 1
  else if ⌊x⌋ % 2 = 0 then ⌊x⌋ else ⌊x⌋ + 1

/-- The exponent of the last place of the binary64 numbers around `x`. -/
def placeExp (x : ℚ) : ℤ := max (-1074) (Int.log 2 |x| - 52)

/-- What an operation on numbers gives when its exact result is `x`, below the range in which it
overflows. -/
def nearest (x : ℚ) : ℚ := roundEven (x / 2 ^ placeExp x) * 2 ^ placeExp x

theorem two_zpow_add (p : ℤ) (k : ℕ) : (2 : ℚ) ^ (p + k) = 2 ^ k * 2 ^ p := by
  rw [zpow_add₀ two_ne_zero, zpow_natCast, mul_comm]

theorem roundEven_bounds (x : ℚ) : ⌊x⌋ ≤ roundEven x ∧ roundEven x ≤ ⌊x⌋ + 1 := by
  unfold roundEven
  split
  · omega
  · split
    · omega
    · split <;> omega

theorem roundEven_int (n : ℤ) : roundEven n = n := by
  simp [roundEven]

theorem roundEven_neg (x : ℚ) : roundEven (-x) = -roundEven x := by
  rcases eq_or_ne (x : ℚ) ⌊x⌋ with hint | hfrac
  · rw [hint, roundEven_int, ← Int.cast_neg, roundEven_int]
  · have hlt : (⌊x⌋ : ℚ) < x := lt_of_le_of_ne (Int.floor_le x) hfrac.symm
    have hfloor : ⌊-x⌋ = -⌊x⌋ - 1 := by
      rw [Int.floor_eq_iff]
      push_cast
      constructor <;> linarith [Int.lt_floor_add_one x]
    unfold roundEven
    rw [hfloor]
    push_cast
    split_ifs <;> first | omega | linarith

variable {x y : ℚ} {n : ℤ}

theorem roundEven_mono (h : x ≤ y) : roundEven x ≤ roundEven y := by
  have hfloor : ⌊x⌋ ≤ ⌊y⌋ := Int.floor_le_floor h
  rcases hfloor.lt_or_eq with hlt | heq
  · have hx := (roundEven_bounds x).2
    have hy := (roundEven_bounds y).1
    omega
  · unfold roundEven
    rw [heq]
    split_ifs <;> first | omega | linarith

theorem roundEven_le (h : x ≤ n) : roundEven x ≤ n :=
  (roundEven_mono h).trans_eq (roundEven_int n)

theorem le_roundEven (h : (n : ℚ) ≤ x) : n ≤ roundEven x :=
  (roundEven_int n).symm.trans_le (roundEven_mono h)

@[simp] theorem nearest_zero : nearest 0 = 0 := by
  have hround : roundEven 0 = 0 := by simpa using roundEven_int 0
  simp [nearest, hround]

theorem nearest_nonneg (h : 0 ≤ x) : 0 ≤ nearest x := by
  have hdiv : ((0 : ℤ) : ℚ) ≤ x / 2 ^ placeExp x := by
    push_cast
    positivity
  have hround : (0 : ℚ) ≤ roundEven (x / 2 ^ placeExp x) := by exact_mod_cast le_roundEven hdiv
  unfold nearest
  positivity

theorem nearest_neg (x : ℚ) : nearest (-x) = -nearest x := by
  rw [nearest, nearest, placeExp, placeExp, abs_neg, neg_div, roundEven_neg]
  push_cast
  ring

/-- A multiple of its last place stays. -/
theorem nearest_exact {e : ℤ} (hx : x = n * 2 ^ e) (he : placeExp x ≤ e) : nearest x = x := by
  obtain ⟨k, hk⟩ := Int.le.dest he
  have hscaled : x / 2 ^ placeExp x = ((n * 2 ^ k : ℤ) : ℚ) := by
    have hpow : (2 : ℚ) ^ e = 2 ^ k * 2 ^ placeExp x := by rw [← hk, two_zpow_add]
    have hne : (2 : ℚ) ^ placeExp x ≠ 0 := by positivity
    rw [div_eq_iff hne]
    push_cast
    conv_lhs => rw [hx, hpow]
    ring
  unfold nearest
  rw [hscaled, roundEven_int, ← hscaled]
  field_simp

/-- The integers that binary64 has without a gap stay. -/
theorem nearest_int (h : |n| < 2 ^ 53) : nearest n = n := by
  rcases eq_or_ne n 0 with rfl | hne
  · exact nearest_zero
  have hpos : (0 : ℚ) < |(n : ℚ)| := abs_pos.mpr (by exact_mod_cast hne)
  have hlt : |(n : ℚ)| < (2 : ℚ) ^ (53 : ℤ) := by exact_mod_cast h
  have hlog := (Int.lt_zpow_iff_log_lt one_lt_two hpos).mp hlt
  refine nearest_exact (e := 0) (by simp : (n : ℚ) = n * 2 ^ (0 : ℤ)) ?_
  unfold placeExp
  omega

theorem nearest_mono_of_nonneg (hx : 0 ≤ x) (h : x ≤ y) : nearest x ≤ nearest y := by
  rcases hx.eq_or_lt with rfl | hpos
  · rw [nearest_zero]
    exact nearest_nonneg h
  have hypos : 0 < y := hpos.trans_le h
  have hlog : Int.log 2 x ≤ Int.log 2 y := Int.log_mono_right hpos h
  have hplaces : placeExp x ≤ placeExp y := by
    unfold placeExp
    rw [abs_of_pos hpos, abs_of_pos hypos]
    omega
  rcases hplaces.lt_or_eq with hlt | heq
  · -- The boundary between the two places: `x` is rounded at most up to it, `y` at least down to it.
    have hxplace : Int.log 2 x - 52 ≤ placeExp x := by
      unfold placeExp
      rw [abs_of_pos hpos]
      exact le_max_right _ _
    have hyplace : placeExp y = Int.log 2 y - 52 := by
      unfold placeExp at hlt ⊢
      rw [abs_of_pos hpos, abs_of_pos hypos] at *
      omega
    have hup : nearest x ≤ 2 ^ (placeExp x + (53 : ℕ)) := by
      have hbelow : x ≤ 2 ^ 53 * 2 ^ placeExp x := by
        have hlt := Int.lt_zpow_succ_log_self one_lt_two x
        rw [← two_zpow_add]
        exact hlt.le.trans (zpow_le_zpow_right₀ one_le_two (by push_cast; omega))
      have hscaled : x / 2 ^ placeExp x ≤ ((2 ^ 53 : ℤ) : ℚ) := by
        rw [div_le_iff₀ (by positivity)]
        exact_mod_cast hbelow
      have hround : (roundEven (x / 2 ^ placeExp x) : ℚ) ≤ 2 ^ 53 := by
        exact_mod_cast roundEven_le hscaled
      rw [two_zpow_add]
      unfold nearest
      gcongr
    have hdown : (2 : ℚ) ^ (placeExp y + (52 : ℕ)) ≤ nearest y := by
      have habove : 2 ^ 52 * 2 ^ placeExp y ≤ y := by
        have hle := Int.zpow_log_le_self one_lt_two hypos
        rw [← two_zpow_add]
        exact (zpow_le_zpow_right₀ one_le_two (by push_cast; omega)).trans hle
      have hscaled : ((2 ^ 52 : ℤ) : ℚ) ≤ y / 2 ^ placeExp y := by
        rw [le_div_iff₀ (by positivity)]
        exact_mod_cast habove
      have hround : (2 ^ 52 : ℚ) ≤ roundEven (y / 2 ^ placeExp y) := by
        exact_mod_cast le_roundEven hscaled
      rw [two_zpow_add]
      unfold nearest
      gcongr
    have hbetween : (2 : ℚ) ^ (placeExp x + (53 : ℕ)) ≤ 2 ^ (placeExp y + (52 : ℕ)) :=
      zpow_le_zpow_right₀ one_le_two (by push_cast; omega)
    exact hup.trans (hbetween.trans hdown)
  · unfold nearest
    rw [heq]
    have hround : (roundEven (x / 2 ^ placeExp y) : ℚ) ≤ roundEven (y / 2 ^ placeExp y) := by
      exact_mod_cast roundEven_mono (by gcongr)
    gcongr

/-- Rounding keeps the order. -/
theorem nearest_mono (h : x ≤ y) : nearest x ≤ nearest y := by
  rcases le_total 0 x with hx | hx
  · exact nearest_mono_of_nonneg hx h
  have hx' := nearest_nonneg (neg_nonneg.mpr hx)
  rw [nearest_neg] at hx'
  rcases le_total 0 y with hy | hy
  · exact (neg_nonneg.mp hx').trans (nearest_nonneg hy)
  · have hflip := nearest_mono_of_nonneg (neg_nonneg.mpr hy) (neg_le_neg h)
    rw [nearest_neg, nearest_neg] at hflip
    exact neg_le_neg_iff.mp hflip

end SellerAgents.Js
