import Mathlib.Tactic.Ring
import SellerAgents.Js.Number

namespace SellerAgents.Js

variable {c s t : JsString} {u : UInt16}

/-- A decimal digit is no white space. -/
theorem isDigit.not_white (h : isDigit u = true) : isWhite u = false :=
  Double.Printed.not_white (.inl h)

/-- The end of a text is trimmed after its last unit that stays. -/
theorem trimEnd_append_cons (hu : isWhite u = false) :
    trimEnd (s ++ u :: t) = s ++ u :: trimEnd t := by
  induction t using List.reverseRecOn with
  | nil =>
    have hkeep : ¬ isWhite u = true := by simp [hu]
    simpa [trimEnd] using List.rdropWhile_concat_neg isWhite s u hkeep
  | append_singleton t v ih =>
    by_cases hv : isWhite v = true
    · have hleft : trimEnd (s ++ u :: (t ++ [v])) = trimEnd (s ++ u :: t) := by
        have hshape : s ++ u :: (t ++ [v]) = (s ++ u :: t) ++ [v] := by simp
        rw [hshape]
        exact List.rdropWhile_concat_pos isWhite _ v hv
      rw [hleft, ih]
      exact congrArg (fun r => s ++ u :: r) (List.rdropWhile_concat_pos isWhite t v hv).symm
    · have hshape : s ++ u :: (t ++ [v]) = (s ++ u :: t) ++ [v] := by simp
      have hright : trimEnd (t ++ [v]) = t ++ [v] := List.rdropWhile_concat_neg isWhite t v hv
      rw [hshape, hright]
      simpa [trimEnd] using List.rdropWhile_concat_neg isWhite (s ++ u :: t) v hv

/-- A text that starts with a digit and holds `u` keeps both when it is trimmed. -/
theorem trim_digits_append (hne : c ≠ []) (hdigits : c.all isDigit = true) (hu : isWhite u = false) :
    trim (c ++ u :: t) = c ++ u :: trimEnd t := by
  cases c with
  | nil => exact absurd rfl hne
  | cons d c =>
    have hd : isWhite d = false := isDigit.not_white (List.all_eq_true.mp hdigits d (by simp))
    unfold trim
    rw [List.cons_append, List.dropWhile_cons, hd]
    exact trimEnd_append_cons (s := d :: c) hu

/-- Digits before a unit that is none are what `takeWhile` takes. -/
theorem takeWhile_digits (hdigits : c.all isDigit = true) (hu : isDigit u = false) :
    (c ++ u :: t).takeWhile isDigit = c ∧ (c ++ u :: t).dropWhile isDigit = u :: t := by
  induction c with
  | nil => simp [hu]
  | cons d c ih =>
    simp only [List.all_cons, Bool.and_eq_true] at hdigits
    have htail := ih hdigits.2
    simp [hdigits.1, htail]

theorem isDigit_bounds (h : isDigit u = true) : 48 ≤ u.toNat ∧ u.toNat ≤ 57 := by
  simp only [isDigit, Bool.and_eq_true, decide_eq_true_eq] at h
  exact ⟨h.1, h.2⟩

/-- A digit is not the letter, sign or point whose unit lies outside `0` to `9`. -/
theorem isDigit.ne {v : UInt16} (h : isDigit u = true) (hv : isDigit v = false) : u ≠ v := by
  rintro rfl
  simp [h] at hv

/-- A literal that starts with a digit and whose second unit is no letter is a decimal one. -/
theorem toNumber_decimal {d : UInt16} {rest : JsString} (htrim : trim s = d :: rest)
    (hsecond : ∀ u tail, rest = u :: tail →
      u ∉ ([120, 88, 111, 79, 98, 66] : List UInt16)) :
    toNumber s = decimalLiteral (d :: rest) := by
  unfold toNumber
  rw [htrim]
  cases rest with
  | nil => split <;> simp_all
  | cons u tail =>
    have hu := hsecond u tail rfl
    simp only [List.mem_cons, List.not_mem_nil, or_false, not_or] at hu
    split <;> simp_all

/-- A decimal literal without a sign and without a point: its digits and its exponent. -/
theorem decimalLiteral_integer {d : UInt16} {rest int after : JsString} (hminus : d ≠ 45)
    (hplus : d ≠ 43) (htake : (d :: rest).takeWhile isDigit = int) (hne : int ≠ [])
    (hdrop : (d :: rest).dropWhile isDigit = after) (hpoint : ∀ tail, after ≠ 46 :: tail) :
    decimalLiteral (d :: rest) = (exponentPart after).bind fun e =>
      Double.ofFraction false (Double.decimal (digitsValue int) e).1
        (Double.decimal (digitsValue int) e).2 := by
  unfold decimalLiteral
  split
  rename_i neg literal heq
  split at heq
  · rename_i hcons
    exact absurd (List.cons.inj hcons).1 hminus
  · rename_i hcons
    exact absurd (List.cons.inj hcons).1 hplus
  · obtain ⟨rfl, rfl⟩ := Prod.mk.inj heq
    rw [htake, hdrop]
    dsimp only
    split
    · exact absurd rfl (hpoint _)
    · simp only [hne, false_and, if_false, List.append_nil, List.length_nil, Int.natCast_zero,
        Int.sub_zero]
      cases exponentPart after <;> rfl

/-- A run of digits followed by a sign is no number. -/
theorem toNumber_digits_sign (hne : c ≠ []) (hdigits : c.all isDigit = true) (hu : u = 43 ∨ u = 45) : toNumber (c ++ u :: t) = none := by
  have hwhite : isWhite u = false := by rcases hu with rfl | rfl <;> decide
  have hnot : isDigit u = false := by rcases hu with rfl | rfl <;> decide
  have htrim := trim_digits_append (t := t) hne hdigits hwhite
  have hspan := takeWhile_digits (t := trimEnd t) hdigits hnot
  obtain ⟨d, c, rfl⟩ := List.exists_cons_of_ne_nil hne
  have hd : isDigit d = true := List.all_eq_true.mp hdigits d (by simp)
  simp only [List.cons_append] at htrim hspan
  have hliteral : toNumber (d :: c ++ u :: t) = decimalLiteral (d :: (c ++ u :: trimEnd t)) := by
    apply toNumber_decimal htrim
    intro v tail hv
    cases c with
    | nil =>
      simp only [List.nil_append, List.cons.injEq] at hv
      obtain ⟨rfl, -⟩ := hv
      rcases hu with rfl | rfl <;> decide
    | cons e c =>
      simp only [List.cons_append, List.cons.injEq] at hv
      obtain ⟨rfl, -⟩ := hv
      have he : isDigit e = true := List.all_eq_true.mp hdigits e (by simp)
      have hbounds := isDigit_bounds he
      intro hmem
      simp only [List.mem_cons, List.not_mem_nil, or_false] at hmem
      rcases hmem with rfl | rfl | rfl | rfl | rfl | rfl <;> simp at hbounds
  rw [hliteral]
  have hminus : d ≠ 45 := isDigit.ne hd (by decide)
  have hplus : d ≠ 43 := isDigit.ne hd (by decide)
  have hpoint : u ≠ 46 := by rcases hu with rfl | rfl <;> decide
  have hexponent : exponentPart (u :: trimEnd t) = none := by
    rcases hu with rfl | rfl <;> simp [exponentPart]
  rw [decimalLiteral_integer hminus hplus hspan.1 (by simp) hspan.2 (by simp [hpoint]), hexponent]
  rfl

/-- A run of digits is the number it writes. -/
theorem toNumber_digits (hne : c ≠ []) (hdigits : c.all isDigit = true) :
    toNumber c = Double.ofFraction false (digitsValue c) 1 := by
  have htrim : trim c = c :=
    trim_of_not_white fun u hu => isDigit.not_white (List.all_eq_true.mp hdigits u hu)
  obtain ⟨d, c, rfl⟩ := List.exists_cons_of_ne_nil hne
  have hd : isDigit d = true := List.all_eq_true.mp hdigits d (by simp)
  have hliteral : toNumber (d :: c) = decimalLiteral (d :: c) := by
    apply toNumber_decimal htrim
    intro v tail hv hmem
    have hv : isDigit v = true := List.all_eq_true.mp hdigits v (by simp [hv])
    have hbounds := isDigit_bounds hv
    simp only [List.mem_cons, List.not_mem_nil, or_false] at hmem
    rcases hmem with rfl | rfl | rfl | rfl | rfl | rfl <;> simp at hbounds
  rw [hliteral]
  have hminus : d ≠ 45 := isDigit.ne hd (by decide)
  have hplus : d ≠ 43 := isDigit.ne hd (by decide)
  have htake : (d :: c).takeWhile isDigit = d :: c :=
    List.takeWhile_eq_self_iff.mpr (List.all_eq_true.mp hdigits)
  have hdrop : (d :: c).dropWhile isDigit = [] :=
    List.dropWhile_eq_nil_iff.mpr (List.all_eq_true.mp hdigits)
  rw [decimalLiteral_integer hminus hplus htake (by simp) hdrop (by simp)]
  simp [exponentPart, Double.decimal]

namespace Double

/-- `left < right`. -/
def lt (left right : Double) : Bool :=
  if left.same right then false
  else if left.neg != right.neg then left.neg
  else if left.neg then
    right.fraction.1 * left.fraction.2 < left.fraction.1 * right.fraction.2
  else left.fraction.1 * right.fraction.2 < right.fraction.1 * left.fraction.2

/-- A number that is exactly the natural number `n`. -/
structure IsNat (d : Double) (n : Nat) : Prop where
  plus : d.neg = false
  value : d.fraction.1 = n * d.fraction.2

theorem fraction_pos (d : Double) : 0 < d.fraction.2 := Nat.two_pow_pos _

/-- The binary64 number nearest to a natural number, as a natural number. -/
def roundNat (n : Nat) : Nat :=
  if n < 2 ^ 53 then n else divRound n (2 ^ (Nat.log2 n - 52)) * 2 ^ (Nat.log2 n - 52)

theorem divRound_one (n : Nat) : divRound n 1 = n := by simp [divRound, Nat.mod_one]

/-- Rounding moves a quotient by less than one. -/
theorem divRound_bounds (p q : Nat) : p / q ≤ divRound p q ∧ divRound p q ≤ p / q + 1 := by
  unfold divRound
  dsimp only
  split
  · omega
  · split
    · omega
    · split <;> omega

/-- A natural number below `2 ^ 53` is a binary64 number. -/
theorem ofFraction_exact {n : Nat} (hzero : n ≠ 0) (h : n < 2 ^ 53) :
    ∃ d, ofFraction false n 1 = some d ∧ IsNat d n := by
  have hlog : Nat.log2 n < 53 := (Nat.log2_lt hzero).mpr h
  have hlow : 2 ^ Nat.log2 n ≤ n := Nat.log2_self_le hzero
  have hhigh : n < 2 ^ (Nat.log2 n + 1) := Nat.lt_log2_self
  generalize hk : Nat.log2 n = k at hlog hlow hhigh
  have hmax : max (-1074) ((k : Int) - (Nat.log2 1 : Nat) - 53) = (k : Int) - 53 := by
    have hone : Nat.log2 1 = 0 := rfl
    rw [hone]
    omega
  have hfine : (n * 2 ^ (-((k : Int) - 53)).toNat) / (1 * 2 ^ ((k : Int) - 53).toNat) =
      n * 2 ^ (53 - k) := by
    have h1 : (-((k : Int) - 53)).toNat = 53 - k := by omega
    have h2 : ((k : Int) - 53).toNat = 0 := by omega
    rw [h1, h2]
    simp
  have hlarge : ¬ n * 2 ^ (53 - k) < 2 ^ 53 := by
    have hpow : 2 ^ k * 2 ^ (53 - k) = 2 ^ 53 := by
      rw [← Nat.pow_add]
      congr 1
      omega
    have hmul := Nat.mul_le_mul_right (2 ^ (53 - k)) hlow
    omega
  have hexp1 : (-((k : Int) - 53 + 1)).toNat = 52 - k := by omega
  have hexp2 : ((k : Int) - 53 + 1).toNat = 0 := by omega
  have hman : n * 2 ^ (52 - k) < 2 ^ 53 := by
    have hpow : 2 ^ (k + 1) * 2 ^ (52 - k) = 2 ^ 53 := by
      rw [← Nat.pow_add]
      congr 1
      omega
    have hmul := Nat.mul_lt_mul_of_pos_right hhigh (Nat.two_pow_pos (52 - k))
    omega
  have hbig : 2 ^ 52 ≤ n * 2 ^ (52 - k) := by
    have hpow : 2 ^ k * 2 ^ (52 - k) = 2 ^ 52 := by
      rw [← Nat.pow_add]
      congr 1
      omega
    have hmul := Nat.mul_le_mul_right (2 ^ (52 - k)) hlow
    omega
  have hcanonical : Canonical (n * 2 ^ (52 - k)) ((k : Int) - 53 + 1) :=
    ⟨hman, by omega, by omega, .inl hbig⟩
  refine ⟨⟨false, n * 2 ^ (52 - k), (k : Int) - 53 + 1, hcanonical⟩, ?_, rfl, ?_⟩
  · unfold ofFraction
    rw [if_neg hzero]
    simp only [scaled, hk, hmax, hfine, if_neg hlarge, hexp1, hexp2, Nat.pow_zero, Nat.mul_one,
      divRound_one, if_neg (Nat.ne_of_lt hman), dif_pos hcanonical]
  · simp only [fraction, hexp1, hexp2, Nat.pow_zero, Nat.mul_one]

/-- A larger one is rounded at its fifty-third binary digit, unless it overflows. -/
theorem ofFraction_large {n : Nat} (h : 2 ^ 53 ≤ n) : ∃ (man : Nat) (exp : Nat),
    (2 ^ 52 ≤ man ∧ man < 2 ^ 53) ∧ (1 ≤ exp ∧ exp ≤ Nat.log2 n - 51) ∧
      man * 2 ^ exp = divRound n (2 ^ (Nat.log2 n - 52)) * 2 ^ (Nat.log2 n - 52) ∧
      ofFraction false n 1 =
        if hcanonical : Canonical man exp then some ⟨false, man, exp, hcanonical⟩ else none := by
  have hzero : n ≠ 0 := by
    rintro rfl
    exact absurd h (by decide)
  have hlog : 53 ≤ Nat.log2 n := (Nat.le_log2 hzero).mpr h
  have hlow : 2 ^ Nat.log2 n ≤ n := Nat.log2_self_le hzero
  have hhigh : n < 2 ^ (Nat.log2 n + 1) := Nat.lt_log2_self
  generalize hk : Nat.log2 n = k at hlog hlow hhigh
  obtain ⟨e, rfl⟩ : ∃ e, k = 52 + e := ⟨k - 52, by omega⟩
  have he : 52 + e - 52 = e := by omega
  rw [he]
  have hmax : max (-1074) (((52 + e : Nat) : Int) - (Nat.log2 1 : Nat) - 53) = (e : Int) - 1 := by
    have hone : Nat.log2 1 = 0 := rfl
    rw [hone]
    omega
  have h1 : (-((e : Int) - 1)).toNat = 0 := by omega
  have h2 : ((e : Int) - 1).toNat = e - 1 := by omega
  have h3 : (-((e : Int) - 1 + 1)).toNat = 0 := by omega
  have h4 : ((e : Int) - 1 + 1).toNat = e := by omega
  have hlarge : ¬ n / 2 ^ (e - 1) < 2 ^ 53 := by
    rw [Nat.not_lt, Nat.le_div_iff_mul_le (Nat.two_pow_pos _), ← Nat.pow_add]
    have hexp : 53 + (e - 1) = 52 + e := by omega
    rw [hexp]
    exact hlow
  have hquot : 2 ^ 52 ≤ n / 2 ^ e := by
    rw [Nat.le_div_iff_mul_le (Nat.two_pow_pos _), ← Nat.pow_add]
    exact hlow
  have hquot' : n / 2 ^ e < 2 ^ 53 := by
    rw [Nat.div_lt_iff_lt_mul (Nat.two_pow_pos _), ← Nat.pow_add]
    have hexp : 53 + e = 52 + e + 1 := by omega
    rw [hexp]
    exact hhigh
  have hround := divRound_bounds n (2 ^ e)
  by_cases hcarry : divRound n (2 ^ e) = 2 ^ 53
  · refine ⟨2 ^ 52, e + 1, ⟨Nat.le_refl _, by decide⟩, ⟨by omega, by omega⟩, ?_, ?_⟩
    · rw [hcarry, ← Nat.pow_add, ← Nat.pow_add]
      congr 1
      omega
    · have hexp : ((e : Int) - 1 + 1 + 1) = ((e + 1 : Nat) : Int) := by omega
      unfold ofFraction
      rw [if_neg hzero]
      simp only [scaled, hk, hmax, h1, h2, Nat.pow_zero, Nat.mul_one, Nat.one_mul,
        if_neg hlarge, h3, h4, if_pos hcarry, hexp]
  · refine ⟨divRound n (2 ^ e), e, ⟨by omega, by omega⟩, ⟨by omega, by omega⟩, rfl, ?_⟩
    have hexp : ((e : Int) - 1 + 1) = (e : Int) := by omega
    unfold ofFraction
    rw [if_neg hzero]
    simp only [scaled, hk, hmax, h1, h2, Nat.pow_zero, Nat.mul_one, Nat.one_mul,
      if_neg hlarge, h3, h4, if_neg hcarry]
    simp only [hexp]

theorem isNat_of_exp {man exp : Nat} (h : Canonical man exp) :
    IsNat ⟨false, man, exp, h⟩ (man * 2 ^ exp) := by
  refine ⟨rfl, ?_⟩
  simp only [fraction, Int.toNat_natCast, Int.toNat_neg_natCast, Nat.pow_zero, Nat.mul_one]

theorem ofFraction_rounded {n : Nat} (h : 2 ^ 53 ≤ n) (hbound : n < 2 ^ 256) :
    ∃ d, ofFraction false n 1 = some d ∧
      IsNat d (divRound n (2 ^ (Nat.log2 n - 52)) * 2 ^ (Nat.log2 n - 52)) := by
  obtain ⟨man, exp, hman, hexp, hvalue, heq⟩ := ofFraction_large h
  have hlog : Nat.log2 n < 256 := (Nat.log2_lt (by omega)).mpr hbound
  have hcanonical : Canonical man exp := ⟨hman.2, by omega, by omega, .inl hman.1⟩
  rw [dif_pos hcanonical] at heq
  exact ⟨_, heq, hvalue ▸ isNat_of_exp hcanonical⟩

/-- What a large number is read as is large. -/
theorem ofFraction_some {n : Nat} (h : 2 ^ 53 ≤ n) {d : Double} (hd : ofFraction false n 1 = some d) :
    ∃ m, 2 ^ 53 ≤ m ∧ IsNat d m := by
  obtain ⟨man, exp, hman, hexp, -, heq⟩ := ofFraction_large h
  rw [heq] at hd
  split at hd
  · cases hd
    rename_i hcanonical
    have hpow : 2 ^ 1 ≤ 2 ^ exp := Nat.pow_le_pow_right (by decide) hexp.1
    have hmul : 2 ^ 52 * 2 ^ 1 ≤ man * 2 ^ exp := Nat.mul_le_mul hman.1 hpow
    exact ⟨man * 2 ^ exp, by omega, isNat_of_exp hcanonical⟩
  · cases hd

/-- The number a natural number is read as. -/
theorem ofFraction_nat {n : Nat} (h : n < 2 ^ 256) :
    ∃ d, ofFraction false n 1 = some d ∧ IsNat d (roundNat n) := by
  by_cases hzero : n = 0
  · subst hzero
    have hround : roundNat 0 = 0 := rfl
    exact ⟨zero false, rfl, rfl, by simp only [fraction, zero, hround, Nat.zero_mul]⟩
  · unfold roundNat
    split
    · rename_i hsmall
      exact ofFraction_exact hzero hsmall
    · rename_i hlarge
      exact ofFraction_rounded (Nat.le_of_not_lt hlarge) h

variable {a b : Double} {m n : Nat}

/-- Numbers that are natural numbers compare as these do. -/
theorem IsNat.fractions_lt (ha : IsNat a m) (hb : IsNat b n) :
    a.fraction.1 * b.fraction.2 < b.fraction.1 * a.fraction.2 ↔ m < n := by
  have hpos : 0 < a.fraction.2 * b.fraction.2 := Nat.mul_pos a.fraction_pos b.fraction_pos
  have hleft : a.fraction.1 * b.fraction.2 = m * (a.fraction.2 * b.fraction.2) := by
    rw [ha.value, Nat.mul_assoc]
  have hright : b.fraction.1 * a.fraction.2 = n * (a.fraction.2 * b.fraction.2) := by
    rw [hb.value, Nat.mul_assoc, Nat.mul_comm b.fraction.2]
  rw [hleft, hright]
  exact Nat.mul_lt_mul_right hpos

/-- Two canonical pairs of one magnitude are the same. -/
theorem canonical_inj {x y : Nat} {e f : Int} (hx : Canonical x e) (hy : Canonical y f)
    (h : x * 2 ^ (e.toNat + (-f).toNat) = y * 2 ^ (f.toNat + (-e).toNat)) : x = y ∧ e = f := by
  wlog hle : e ≤ f generalizing x y e f
  · have hswap := this hy hx h.symm (by omega)
    exact ⟨hswap.1.symm, hswap.2.symm⟩
  obtain ⟨k, hk⟩ : ∃ k, f.toNat + (-e).toNat = e.toNat + (-f).toNat + k :=
    ⟨(f - e).toNat, by omega⟩
  have hscaled : x * 2 ^ (e.toNat + (-f).toNat) = y * 2 ^ k * 2 ^ (e.toNat + (-f).toNat) := by
    rw [h, hk, Nat.pow_add _ _ k]
    ring
  have hvalue : x = y * 2 ^ k := Nat.eq_of_mul_eq_mul_right (Nat.two_pow_pos _) hscaled
  rcases Nat.eq_zero_or_pos k with rfl | hpos
  · exact ⟨by omega, by omega⟩
  · have hlarge : 2 ^ 52 ≤ y := by
      rcases hy.2.2.2 with hman | hexp
      · exact hman
      · have hfirst := hx.2.1
        omega
    have hpow : 2 ^ 1 ≤ 2 ^ k := Nat.pow_le_pow_right (by decide) hpos
    have hmul : 2 ^ 52 * 2 ^ 1 ≤ y * 2 ^ k := Nat.mul_le_mul hlarge hpow
    have hsmall := hx.1
    omega

/-- Numbers that are natural numbers are the same when these are. -/
theorem IsNat.same_iff (ha : IsNat a m) (hb : IsNat b n) : a.same b = true ↔ m = n := by
  have hpos := a.fraction_pos
  have hpos' := b.fraction_pos
  constructor
  · intro h
    simp only [same, Bool.decide_or, Bool.or_eq_true, decide_eq_true_eq] at h
    rcases h with ⟨hzero, hzero'⟩ | rfl
    · have hm : m * a.fraction.2 = 0 := by rw [← ha.value]; simp [fraction, hzero]
      have hn : n * b.fraction.2 = 0 := by rw [← hb.value]; simp [fraction, hzero']
      rcases Nat.mul_eq_zero.mp hm with rfl | hbad
      · rcases Nat.mul_eq_zero.mp hn with rfl | hbad
        · rfl
        · omega
      · omega
    · exact Nat.eq_of_mul_eq_mul_right hpos (ha.value.symm.trans hb.value)
  · rintro rfl
    have hvalue : a.fraction.1 * b.fraction.2 = b.fraction.1 * a.fraction.2 := by
      rw [ha.value, hb.value, Nat.mul_right_comm]
    simp only [fraction, Nat.mul_assoc, ← Nat.pow_add] at hvalue
    have hpair := canonical_inj a.canonical b.canonical hvalue
    obtain ⟨neg, man, exp, hcanonical⟩ := a
    obtain ⟨neg', man', exp', hcanonical'⟩ := b
    obtain ⟨rfl, rfl⟩ := hpair
    obtain rfl := ha.plus
    obtain rfl := hb.plus
    simp [same]

/-- The order of numbers that are natural numbers. -/
theorem IsNat.lt_iff (ha : IsNat a m) (hb : IsNat b n) : a.lt b = true ↔ m < n := by
  unfold lt
  by_cases hsame : a.same b = true
  · have heq := (ha.same_iff hb).mp hsame
    simp [hsame, heq]
  · have hplus : a.neg = false := ha.plus
    have hplus' : b.neg = false := hb.plus
    rw [if_neg hsame]
    simp [hplus, hplus', ha.fractions_lt hb]

end Double

theorem digitsValue_foldl (s : JsString) (acc : Nat) :
    s.foldl (fun acc u => 10 * acc + (u.toNat - 48)) acc = acc * 10 ^ s.length + digitsValue s := by
  induction s generalizing acc with
  | nil => simp [digitsValue]
  | cons u s ih =>
    unfold digitsValue
    rw [List.foldl_cons, List.foldl_cons, ih, ih (10 * 0 + (u.toNat - 48)), List.length_cons,
      Nat.pow_succ]
    ring

theorem digitsValue_cons (u : UInt16) (s : JsString) :
    digitsValue (u :: s) = (u.toNat - 48) * 10 ^ s.length + digitsValue s := by
  have h := digitsValue_foldl s (10 * 0 + (u.toNat - 48))
  rw [Nat.mul_zero, Nat.zero_add] at h
  simpa [digitsValue] using h

/-- `k` digits write a number below `10 ^ k`. -/
theorem digitsValue_lt (h : s.all isDigit = true) : digitsValue s < 10 ^ s.length := by
  induction s with
  | nil => simp [digitsValue]
  | cons u s ih =>
    simp only [List.all_cons, Bool.and_eq_true] at h
    have hu := isDigit_bounds h.1
    have hs := ih h.2
    have hmul : (u.toNat - 48) * 10 ^ s.length ≤ 9 * 10 ^ s.length :=
      Nat.mul_le_mul_right _ (by omega)
    rw [digitsValue_cons, List.length_cons, Nat.pow_succ]
    omega

/-- Digits that start with no zero write a number of that length. -/
theorem le_digitsValue (h : isDigit u = true) (hne : u ≠ 48) :
    10 ^ s.length ≤ digitsValue (u :: s) := by
  have hu := isDigit_bounds h
  have hzero : u.toNat ≠ 48 := fun heq => hne (UInt16.toNat_inj.mp heq)
  have hmul : 1 * 10 ^ s.length ≤ (u.toNat - 48) * 10 ^ s.length :=
    Nat.mul_le_mul_right _ (by omega)
  rw [digitsValue_cons]
  omega

/-- Of two digit strings of one length the one with the smaller first digit writes less. -/
theorem digitsValue_lt_of_head {v : UInt16} (hu : isDigit u = true) (hs : s.all isDigit = true)
    (hlen : s.length = t.length) (h : u < v) :
    digitsValue (u :: s) < digitsValue (v :: t) := by
  have hbounds := isDigit_bounds hu
  have hless : u.toNat < v.toNat := h
  have hlt := digitsValue_lt hs
  rw [hlen] at hlt
  have hmul : (u.toNat - 48 + 1) * 10 ^ t.length ≤ (v.toNat - 48) * 10 ^ t.length :=
    Nat.mul_le_mul_right _ (by omega)
  rw [Nat.add_mul, Nat.one_mul] at hmul
  rw [digitsValue_cons, digitsValue_cons, hlen]
  omega

/-- Digit strings of one length are ordered by what they write. -/
theorem digits_compare (hs : s.all isDigit = true) (ht : t.all isDigit = true)
    (hlen : s.length = t.length) :
    (s < t ↔ digitsValue s < digitsValue t) ∧ (s = t ↔ digitsValue s = digitsValue t) := by
  induction s generalizing t with
  | nil =>
    obtain rfl := List.length_eq_zero_iff.mp hlen.symm
    simp
  | cons u s ih =>
    cases t with
    | nil => simp at hlen
    | cons v t =>
      simp only [List.all_cons, Bool.and_eq_true] at hs ht
      have htails : s.length = t.length := Nat.succ.inj hlen
      have hrec := ih hs.2 ht.2 htails
      rw [List.cons_lt_cons_iff, List.cons.injEq]
      rcases Nat.lt_trichotomy u.toNat v.toNat with hlow | heq | hhigh
      · have hvalue := digitsValue_lt_of_head hs.1 hs.2 htails hlow
        have hne : u ≠ v := by
          rintro rfl
          exact Nat.lt_irrefl _ hlow
        exact ⟨iff_of_true (.inl hlow) hvalue, iff_of_false (fun h => hne h.1) (by omega)⟩
      · obtain rfl := UInt16.toNat_inj.mp heq
        rw [digitsValue_cons, digitsValue_cons, htails, hrec.1, hrec.2]
        have hirrefl : ¬ u < u := Nat.lt_irrefl _
        simp [hirrefl]
      · have hvalue := digitsValue_lt_of_head ht.1 ht.2 htails.symm hhigh
        have hnot : ¬ u < v := Nat.lt_asymm hhigh
        have hne : u ≠ v := by
          rintro rfl
          exact Nat.lt_irrefl _ hhigh
        refine ⟨iff_of_false ?_ (by omega), iff_of_false (fun h => hne h.1) (by omega)⟩
        rintro (hlt | ⟨heq, -⟩)
        · exact hnot hlt
        · exact hne heq

end SellerAgents.Js
