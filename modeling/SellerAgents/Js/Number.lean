import Mathlib.Data.Nat.Log
import Mathlib.Tactic.IntervalCases
import SellerAgents.Js.Text

namespace SellerAgents.Js

/-- The pairs `man`, `exp` that stand for the magnitude `man * 2 ^ exp` of a finite binary64 number,
each magnitude once. -/
def Canonical (man : Nat) (exp : Int) : Prop :=
  man < 2 ^ 53 ∧ -1074 ≤ exp ∧ exp ≤ 971 ∧ (2 ^ 52 ≤ man ∨ exp = -1074)

instance (man : Nat) (exp : Int) : Decidable (Canonical man exp) :=
  inferInstanceAs (Decidable (_ ∧ _))

/-- A finite JavaScript number. -/
structure Double where
  neg : Bool
  man : Nat
  exp : Int
  canonical : Canonical man exp
deriving DecidableEq

namespace Double

/-- The number 0. -/
def zero (neg : Bool) : Double := ⟨neg, 0, -1074, by decide⟩

/-- `left === right`: the two zeros are equal. -/
def same (left right : Double) : Bool := (left.man = 0 ∧ right.man = 0) ∨ left = right

/-- The nearest integer to `p / q`, the even one at a tie. -/
def divRound (p q : Nat) : Nat :=
  let low := p / q
  if 2 * (p % q) < q then low
  else if q < 2 * (p % q) then low + 1
  else if low % 2 = 0 then low else low + 1

/-- `p / q` scaled by `2 ^ (-exp)`, as a fraction. -/
def scaled (p q : Nat) (exp : Int) : Nat × Nat := (p * 2 ^ (-exp).toNat, q * 2 ^ exp.toNat)

/-- The binary64 number nearest to `p / q`, or none when it overflows. -/
def ofFraction (neg : Bool) (p q : Nat) : Option Double :=
  if p = 0 then some (zero neg)
  else
    let low : Int := max (-1074) (Nat.log2 p - Nat.log2 q - 53)
    let fine := scaled p q low
    let exp := if fine.1 / fine.2 < 2 ^ 53 then low else low + 1
    let target := scaled p q exp
    let man := divRound target.1 target.2
    let (man, exp) := if man = 2 ^ 53 then (2 ^ 52, exp + 1) else (man, exp)
    if h : Canonical man exp then some ⟨neg, man, exp, h⟩ else none

/-- `man * 10 ^ e` as a fraction. -/
def decimal (man : Nat) (e : Int) : Nat × Nat := (man * 10 ^ e.toNat, 10 ^ (-e).toNat)

/-- The magnitude of a number as a fraction. -/
def fraction (d : Double) : Nat × Nat := (d.man * 2 ^ d.exp.toNat, 2 ^ (-d.exp).toNat)

/-- The decimal digits of `s`, written with exactly `k` places. -/
def places : Nat → Nat → JsString
  | 0, _ => []
  | k + 1, s => places k (s / 10) ++ [48 + UInt16.ofNat (s % 10)]

/-- The position `n` of the decimal point: `10 ^ (n - 1) ≤ d < 10 ^ n`. -/
def pointOf (d : Double) : Nat :=
  ((List.range 660).find? fun i : Nat =>
    let bound := decimal 1 ((i : Int) - 330)
    d.fraction.1 * bound.2 < bound.1 * d.fraction.2).getD 0

/-- The candidates `(k, s)` for the shortest decimal, fewest digits first and the closer of two
neighbours first. -/
def candidates (d : Double) : List (Nat × Nat) :=
  (List.range 17).flatMap fun i : Nat =>
    let k : Nat := i + 1
    let unit := decimal 1 ((pointOf d : Int) - 330 - (k : Int))
    let p := d.fraction.1 * unit.2
    let q := d.fraction.2 * unit.1
    let low := p / q
    (if 2 * (p % q) ≤ q then [low, low + 1] else [low + 1, low]).map fun s => (k, s)

/-- Whether the decimal of a candidate rounds to the number. -/
def denotes (d : Double) (candidate : Nat × Nat) : Bool :=
  let value := decimal candidate.2 ((pointOf d : Int) - 330 - (candidate.1 : Int))
  ofFraction d.neg value.1 value.2 = some d

/-- The digits and the point of a chosen candidate. A decimal rounded up to a power of ten moves the
point. -/
def chosen (point : Nat) : Option (Nat × Nat) → JsString × Int
  | some (k, s) =>
    if s = 10 ^ k then (places k (s / 10), (point : Int) - 329)
    else (places k s, (point : Int) - 330)
  | none => (places 1 0, 1)

/-- The digits and the point of the shortest decimal that denotes the number: step 5 of
`Number::toString`. -/
def shortest (d : Double) : JsString × Int := chosen (pointOf d) ((candidates d).find? (denotes d))

/-- The decimal digits of an exponent below 1000. -/
def exponentDigits (e : Nat) : JsString :=
  if e < 10 then places 1 e else if e < 100 then places 2 e else places 3 e

/-- Steps 6 to 10 of `Number::toString`. -/
def format (digits : JsString) (n : Int) : JsString :=
  let k : Int := digits.length
  if k ≤ n ∧ n ≤ 21 then digits ++ List.replicate (n - k).toNat 48
  else if 0 < n ∧ n ≤ 21 then digits.take n.toNat ++ 46 :: digits.drop n.toNat
  else if -6 < n ∧ n ≤ 0 then [48, 46] ++ List.replicate (-n).toNat 48 ++ digits
  else
    let sign : UInt16 := if n - 1 < 0 then 45 else 43
    let tail := 101 :: sign :: exponentDigits (n - 1).natAbs
    match digits with
    | [u] => u :: tail
    | u :: rest => u :: 46 :: rest ++ tail
    | [] => tail

/-- Steps 2 to 4 of `Number::toString`: zero prints without a sign, and the sign of another number
comes first. -/
def signed (neg : Bool) (man : Nat) (body : JsString) : JsString :=
  if man = 0 then [48] else if neg then 45 :: body else body

/-- `String(number)`. -/
def toText (d : Double) : JsString :=
  signed d.neg d.man (format (shortest d).1 (shortest d).2)

end Double

/-- Whether a unit is a decimal digit. -/
def isDigit (u : UInt16) : Bool := 48 ≤ u && u ≤ 57

/-- The value of a string of decimal digits. -/
def digitsValue (s : JsString) : Nat := s.foldl (fun acc u => 10 * acc + (u.toNat - 48)) 0

/-- The value of one digit in a base up to 36, if it is one. -/
def digitIn (base : Nat) (u : UInt16) : Option Nat :=
  let v := u.toNat
  let value := if 48 ≤ v ∧ v ≤ 57 then v - 48 else if 97 ≤ v ∧ v ≤ 122 then v - 87
    else if 65 ≤ v ∧ v ≤ 90 then v - 55 else base
  if value < base then some value else none

/-- The value of a non-empty string of digits in a base. -/
def radixValue (base : Nat) (s : JsString) : Option Nat :=
  if s = [] then none
  else s.foldlM (fun acc u => (digitIn base u).map fun v => base * acc + v) 0

/-- The exponent part of a decimal literal. -/
def exponentPart : JsString → Option Int
  | [] => some 0
  | u :: rest =>
    if u ≠ 101 ∧ u ≠ 69 then none
    else
      let (neg, digits) := match rest with
        | 45 :: digits => (true, digits)
        | 43 :: digits => (false, digits)
        | digits => (false, digits)
      if digits = [] ∨ ¬ digits.all isDigit then none
      else some (if neg then -(digitsValue digits : Int) else digitsValue digits)

/-- The finite value of a signed decimal literal. -/
def decimalLiteral (s : JsString) : Option Double :=
  let (neg, rest) := match s with
    | 45 :: rest => (true, rest)
    | 43 :: rest => (false, rest)
    | rest => (false, rest)
  let int := rest.takeWhile isDigit
  let afterInt := rest.dropWhile isDigit
  let (frac, afterFrac) := match afterInt with
    | 46 :: tail => (tail.takeWhile isDigit, tail.dropWhile isDigit)
    | tail => ([], tail)
  if int = [] ∧ frac = [] then none
  else
    match exponentPart afterFrac with
    | none => none
    | some e =>
      let value := Double.decimal (digitsValue (int ++ frac)) (e - frac.length)
      Double.ofFraction neg value.1 value.2

/-- `Number(string)` when it is finite, and none for NaN and the infinities. -/
def toNumber (s : JsString) : Option Double :=
  match trim s with
  | [] => some (.zero false)
  | 48 :: 120 :: digits | 48 :: 88 :: digits =>
    (radixValue 16 digits).bind fun v => Double.ofFraction false v 1
  | 48 :: 111 :: digits | 48 :: 79 :: digits =>
    (radixValue 8 digits).bind fun v => Double.ofFraction false v 1
  | 48 :: 98 :: digits | 48 :: 66 :: digits =>
    (radixValue 2 digits).bind fun v => Double.ofFraction false v 1
  | literal => decimalLiteral literal

namespace Double

/-- The units a printed number is made of: digits, point, exponent and signs. -/
def Printed (u : UInt16) : Prop := isDigit u = true ∨ u ∈ ([43, 45, 46, 101] : List UInt16)

theorem Printed.not_white {u : UInt16} (h : Printed u) : isWhite u = false := by
  rcases h with hdigit | hother
  · simp only [isDigit, Bool.and_eq_true, decide_eq_true_eq] at hdigit
    have hlow : 48 ≤ u.toNat := hdigit.1
    have hhigh : u.toNat ≤ 57 := hdigit.2
    rw [← UInt16.ofNat_toNat (x := u)]
    generalize u.toNat = v at hlow hhigh
    interval_cases v <;> decide
  · simp only [List.mem_cons, List.not_mem_nil, or_false] at hother
    rcases hother with rfl | rfl | rfl | rfl <;> decide

end Double

end SellerAgents.Js
