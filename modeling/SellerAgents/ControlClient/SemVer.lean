import SellerAgents.Js.Digits

namespace SellerAgents.ControlClient
open Js

/-- `0|[1-9]\d*`. -/
def isNumericId : JsString → Bool
  | [] => false
  | [u] => isDigit u
  | u :: rest => u != 48 && isDigit u && rest.all isDigit

/-- `[0-9A-Za-z-]`. -/
def isIdUnit (u : UInt16) : Bool :=
  isDigit u || (65 ≤ u && u ≤ 90) || (97 ≤ u && u ≤ 122) || u == 45

/-- `0|[1-9]\d*|\d*[A-Za-z-][0-9A-Za-z-]*`. -/
def isPrereleaseId (s : JsString) : Bool :=
  isNumericId s || (s.all isIdUnit && s.any fun u => !isDigit u)

/-- `[0-9A-Za-z-]+`. -/
def isBuildId (s : JsString) : Bool := s != [] && s.all isIdUnit

/-- `value.split("+", 1)[0]`. -/
def withoutBuild (s : JsString) : JsString := s.takeWhile (· != 43)

/-- What follows the first `+`, split at its points. -/
def buildIds (s : JsString) : List JsString :=
  match s.dropWhile (· != 43) with
  | [] => []
  | _ :: build => build.splitOn 46

/-- The part before the first hyphen of the version without its build. -/
def coreText (s : JsString) : JsString := (withoutBuild s).takeWhile (· != 45)

/-- The prerelease identifiers, none when there is no hyphen. -/
def prereleaseIds (s : JsString) : List JsString :=
  match (withoutBuild s).dropWhile (· != 45) with
  | [] => []
  | _ :: prerelease => prerelease.splitOn 46

/-- `SEMVER.test(value)`: neither a core nor a prerelease has a `+`, and a core has no hyphen, so
the first of each is where the expression puts it. -/
def semverShape (s : JsString) : Bool :=
  ((coreText s).splitOn 46).length == 3 && ((coreText s).splitOn 46).all isNumericId &&
    (prereleaseIds s).all isPrereleaseId && (buildIds s).all isBuildId

/-- The check of a version by the client and by its payload verifier. -/
def semver (s : JsString) : Bool := 1 ≤ s.length && s.length ≤ 64 && semverShape s

/-- A well-formed semantic version. -/
structure SemVer where
  text : JsString
  valid : semver text = true
deriving DecidableEq

structure ParsedSemver where
  core : List JsString
  prerelease : List JsString

/-- A version in its parts, when it has the shape of one. -/
def parseSemver (value : JsString) : Option ParsedSemver :=
  if semver value then some ⟨(coreText value).splitOn 46, prereleaseIds value⟩ else none

/-- `value.replace(/^0+(?=\d)/, "")`. -/
def stripZeros : JsString → JsString
  | 48 :: u :: rest => if isDigit u then stripZeros (u :: rest) else 48 :: u :: rest
  | s => s

/-- Two texts of one length by their units, or by their lengths. -/
def textCompare (a b : JsString) : Ordering :=
  if a.length = b.length then if a = b then .eq else if a < b then .lt else .gt
  else if a.length < b.length then .lt else .gt

def decimalCompare (left right : JsString) : Ordering :=
  textCompare (stripZeros left) (stripZeros right)

/-- The loop over the three core numbers. -/
def compareCore : List JsString → List JsString → Ordering
  | a :: as, b :: bs => (decimalCompare a b).then (compareCore as bs)
  | _, _ => .eq

/-- `/^\d+$/.test(value)`. -/
def allDigits (s : JsString) : Bool := s != [] && s.all isDigit

/-- The loop over the prerelease identifiers; the shorter list comes first. -/
def compareIds : List JsString → List JsString → Ordering
  | x :: xs, y :: ys =>
    if x = y then compareIds xs ys
    else if allDigits x && allDigits y then decimalCompare x y
    else if allDigits x != allDigits y then if allDigits x then .lt else .gt
    else if x < y then .lt else .gt
  | [], [] => .eq
  | [], _ :: _ => .lt
  | _ :: _, [] => .gt

/-- A version without a prerelease follows every prerelease of it. -/
def comparePrerelease (a b : List JsString) : Ordering :=
  match a, b with
  | [], [] => .eq
  | _ :: _, [] => .lt
  | [], _ :: _ => .gt
  | _, _ => compareIds a b

/-- The client's comparison of two versions, none when one is malformed. -/
def compareSemver (left right : JsString) : Option Ordering :=
  (parseSemver left).bind fun a => (parseSemver right).map fun b =>
    (compareCore a.core b.core).then (comparePrerelease a.prerelease b.prerelease)

/-- `versionAtLeast(actual, minimum)` of the client on extension versions. -/
def versionAtLeast (actual minimum : JsString) : Bool :=
  match compareSemver actual minimum with
  | some compared => compared != .lt
  | none => false

/-- The evaluator's loop: `a[i] !== b[i]` decides by `a[i] > b[i]`. -/
def numbersAtLeast : List Double → List Double → Bool
  | a :: as, b :: bs => if a.same b then numbersAtLeast as bs else b.lt a
  | _, _ => true

/-- `value.split(".").map(Number)`. A piece of a version of at most 64 units is never an infinity,
so none stands for NaN. -/
def numbers (value : JsString) : List (Option Double) := (value.splitOn 46).map toNumber

/-- `atLeast(actual, minimum)` of the evaluator. -/
def atLeast (actual minimum : JsString) : Bool :=
  let a := numbers actual
  let b := numbers minimum
  if a.length < 3 || b.length < 3 || a.any Option.isNone || b.any Option.isNone then false
  else numbersAtLeast ((a.filterMap id).take 3) ((b.filterMap id).take 3)

/-- Whether a version has a prerelease or a build part. -/
def tagged (s : JsString) : Bool := prereleaseIds s != [] || buildIds s != []

/-- The three core numbers. -/
def coreNumbers (s : JsString) : List Nat := ((coreText s).splitOn 46).map digitsValue

variable {a b s : JsString}

theorem isNumericId_digits (h : isNumericId s = true) :
    s ≠ [] ∧ s.all isDigit = true := by
  match s, h with
  | [u], h => exact ⟨by simp, by simpa [isNumericId] using h⟩
  | u :: v :: rest, h =>
    simp only [isNumericId, Bool.and_eq_true] at h
    exact ⟨by simp, by simp only [List.all_cons, h.1.2, Bool.true_and]; simpa using h.2⟩

theorem stripZeros_numericId (h : isNumericId s = true) : stripZeros s = s := by
  match s, h with
  | [u], h =>
    unfold stripZeros
    split
    · simp_all
    · rfl
  | u :: v :: rest, h =>
    simp only [isNumericId, Bool.and_eq_true, bne_iff_ne] at h
    unfold stripZeros
    split
    · simp_all
    · rfl

/-- A longer number without leading zeros is larger. -/
theorem digitsValue_lt_of_length (ha : isNumericId a = true) (hb : isNumericId b = true)
    (hlen : a.length < b.length) : digitsValue a < digitsValue b := by
  have hsmall := digitsValue_lt (isNumericId_digits ha).2
  match b, hb with
  | [v], hb =>
    have hzero : a = [] := List.length_eq_zero_iff.mp (by simpa using hlen)
    exact absurd hzero (isNumericId_digits ha).1
  | v :: w :: rest, hb =>
    simp only [isNumericId, Bool.and_eq_true, bne_iff_ne] at hb
    have hlarge := le_digitsValue (s := w :: rest) hb.1.2 hb.1.1
    have hpow : 10 ^ a.length ≤ 10 ^ (w :: rest).length :=
      Nat.pow_le_pow_right (by decide) (Nat.le_of_lt_succ hlen)
    omega

/-- The client's comparison of two decimals is that of the numbers they write. -/
theorem decimalCompare_numericId (ha : isNumericId a = true) (hb : isNumericId b = true) :
    decimalCompare a b = compare (digitsValue a) (digitsValue b) := by
  unfold decimalCompare
  rw [stripZeros_numericId ha, stripZeros_numericId hb]
  unfold textCompare
  rcases Nat.lt_trichotomy a.length b.length with hlt | heq | hgt
  · have hvalue := digitsValue_lt_of_length ha hb hlt
    rw [if_neg (by omega), if_pos hlt]
    exact (Nat.compare_eq_lt.mpr hvalue).symm
  · have horder := digits_compare (isNumericId_digits ha).2 (isNumericId_digits hb).2 heq
    rw [if_pos heq]
    by_cases hab : a = b
    · rw [if_pos hab]
      exact (Nat.compare_eq_eq.mpr (horder.2.mp hab)).symm
    · rw [if_neg hab]
      have hne : digitsValue a ≠ digitsValue b := fun h => hab (horder.2.mpr h)
      by_cases hlt : a < b
      · rw [if_pos hlt]
        exact (Nat.compare_eq_lt.mpr (horder.1.mp hlt)).symm
      · rw [if_neg hlt]
        have hnot : ¬ digitsValue a < digitsValue b := fun h => hlt (horder.1.mpr h)
        exact (Nat.compare_eq_gt.mpr (by omega)).symm
  · have hvalue := digitsValue_lt_of_length hb ha hgt
    rw [if_neg (by omega), if_neg (by omega)]
    exact (Nat.compare_eq_gt.mpr hvalue).symm

/-- Comparing cores compares their numbers from left to right. -/
theorem compareCore_lt_iff {as bs : List JsString} (ha : as.all isNumericId = true)
    (hb : bs.all isNumericId = true) (hlen : as.length = bs.length) :
    compareCore as bs = .lt ↔ as.map digitsValue < bs.map digitsValue := by
  induction as generalizing bs with
  | nil =>
    obtain rfl := List.length_eq_zero_iff.mp hlen.symm
    simp [compareCore]
  | cons a as ih =>
    cases bs with
    | nil => simp at hlen
    | cons b bs =>
      simp only [List.all_cons, Bool.and_eq_true] at ha hb
      have hrec := ih ha.2 hb.2 (Nat.succ.inj hlen)
      simp only [compareCore, List.map_cons, List.cons_lt_cons_iff,
        decimalCompare_numericId ha.1 hb.1, ← hrec]
      rcases Nat.lt_trichotomy (digitsValue a) (digitsValue b) with hlt | heq | hgt
      · simp [Nat.compare_eq_lt.mpr hlt, hlt]
      · simp [heq]
      · have hne : digitsValue a ≠ digitsValue b := by omega
        have hnot : ¬ digitsValue a < digitsValue b := by omega
        simp [Nat.compare_eq_gt.mpr hgt, hne, hnot]

theorem semverShape_core (h : semverShape s = true) :
    ∃ a b c, (coreText s).splitOn 46 = [a, b, c] ∧ isNumericId a = true ∧ isNumericId b = true ∧
      isNumericId c = true := by
  simp only [semverShape, Bool.and_eq_true, beq_iff_eq] at h
  obtain ⟨a, b, c, heq⟩ := List.length_eq_three.mp h.1.1.1
  have hall := h.1.1.2
  rw [heq] at hall
  simp only [List.all_cons, List.all_nil, Bool.and_eq_true, Bool.and_true] at hall
  exact ⟨a, b, c, heq, hall⟩

/-- The core numbers and the points between them. -/
theorem coreText_eq {c : JsString} (h : (coreText s).splitOn 46 = [a, b, c]) :
    coreText s = a ++ 46 :: (b ++ 46 :: c) := by
  have hjoin : [46].intercalate ((coreText s).splitOn 46) = coreText s :=
    List.intercalate_splitOn (46 : UInt16)
  rw [h] at hjoin
  simpa [List.intercalate] using hjoin.symm

/-- What a cut leaves out starts with the unit it cuts at. -/
theorem takeWhile_ne_append (s : JsString) (u : UInt16) :
    (s.dropWhile (· != u) = [] ∧ s.takeWhile (· != u) = s) ∨
      ∃ t, s.dropWhile (· != u) = u :: t ∧ s = s.takeWhile (· != u) ++ u :: t := by
  have happend := List.takeWhile_append_dropWhile (p := (· != u)) (l := s)
  cases hdrop : s.dropWhile (· != u) with
  | nil =>
    rw [hdrop, List.append_nil] at happend
    exact .inl ⟨rfl, happend⟩
  | cons v t =>
    have hv : ¬ (v != u) = true := by
      have hne : s.dropWhile (· != u) ≠ [] := by simp [hdrop]
      have hhead := List.head_dropWhile_not (· != u) hne
      simpa [hdrop] using hhead
    obtain rfl : v = u := by simpa using hv
    rw [hdrop] at happend
    exact .inr ⟨t, rfl, happend.symm⟩

/-- A version without prerelease and build is its core. -/
theorem coreText_plain (h : tagged s = false) : coreText s = s := by
  simp only [tagged, Bool.or_eq_false_iff, bne_eq_false_iff_eq] at h
  have hbuild : withoutBuild s = s := by
    rcases takeWhile_ne_append s 43 with ⟨-, heq⟩ | ⟨t, hdrop, -⟩
    · exact heq
    · simp [buildIds, hdrop] at h
  unfold coreText
  rcases takeWhile_ne_append (withoutBuild s) 45 with ⟨-, heq⟩ | ⟨t, hdrop, -⟩
  · rw [heq, hbuild]
  · simp [prereleaseIds, hdrop] at h

/-- In any other version a sign follows the core. -/
theorem coreText_tagged (h : tagged s = true) :
    ∃ u t, (u = 43 ∨ u = 45) ∧ s = coreText s ++ u :: t := by
  unfold coreText
  rcases takeWhile_ne_append (withoutBuild s) 45 with ⟨hdrop, heq⟩ | ⟨t, hdrop, heq⟩
  · rw [heq]
    rcases takeWhile_ne_append s 43 with ⟨hdrop', heq'⟩ | ⟨t, -, heq'⟩
    · simp [tagged, prereleaseIds, buildIds, hdrop, hdrop'] at h
    · exact ⟨43, t, .inl rfl, heq'⟩
  · rcases takeWhile_ne_append s 43 with ⟨-, heq'⟩ | ⟨t', -, heq'⟩
    · have hs : withoutBuild s = s := heq'
      rw [hs] at heq ⊢
      exact ⟨45, t, .inr rfl, heq⟩
    · refine ⟨45, t ++ 43 :: t', .inr rfl, ?_⟩
      have hs : s = withoutBuild s ++ 43 :: t' := heq'
      rw [← List.cons_append, ← List.append_assoc, ← heq]
      exact hs

theorem isNumericId_point (h : isNumericId s = true) : (46 : UInt16) ∉ s := by
  intro hmem
  have hdigit := List.all_eq_true.mp (isNumericId_digits h).2 46 hmem
  exact absurd hdigit (by decide)

/-- The first piece of a text is what stands before the first separator. -/
theorem splitOn_head (u : UInt16) (s : JsString) :
    ∃ rest, s.splitOn u = s.takeWhile (· != u) :: rest := by
  rcases takeWhile_ne_append s u with ⟨-, heq⟩ | ⟨t, -, heq⟩
  · refine ⟨[], ?_⟩
    rw [heq]
    apply List.splitOn_eq_singleton
    intro hmem
    have hall := List.takeWhile_eq_self_iff.mp heq u hmem
    simp at hall
  · refine ⟨t.splitOn u, ?_⟩
    conv_lhs => rw [heq]
    apply List.splitOn_append_cons_self_of_not_mem
    intro hmem
    have hp := List.mem_takeWhile_imp hmem
    simp at hp

/-- The numbers of a version without prerelease and build. -/
theorem numbers_plain {c : JsString} (hplain : tagged s = false)
    (h : (coreText s).splitOn 46 = [a, b, c]) :
    numbers s = [toNumber a, toNumber b, toNumber c] := by
  rw [coreText_plain hplain] at h
  simp [numbers, h]

/-- A prerelease or a build makes the third piece not a number. -/
theorem numbers_tagged (hshape : semverShape s = true) (h : tagged s = true) :
    (numbers s).any Option.isNone = true := by
  obtain ⟨a, b, c, hcore, ha, hb, hc⟩ := semverShape_core hshape
  obtain ⟨u, t, hu, hs⟩ := coreText_tagged h
  have hpoint : u ≠ 46 := by rcases hu with rfl | rfl <;> decide
  have hshape : s = a ++ 46 :: (b ++ 46 :: (c ++ u :: t)) := by
    rw [coreText_eq hcore] at hs
    simpa using hs
  obtain ⟨rest, hlast⟩ := splitOn_head 46 (c ++ u :: t)
  have htake : (c ++ u :: t).takeWhile (· != 46) = c ++ u :: t.takeWhile (· != 46) := by
    have hall : ∀ v ∈ c, (v != 46) = true := by
      intro v hv
      have hne : v ≠ 46 := fun heq => isNumericId_point hc (heq ▸ hv)
      simpa using hne
    rw [List.takeWhile_append_of_pos hall, List.takeWhile_cons_of_pos (by simpa using hpoint)]
  have hsplit : s.splitOn 46 = a :: b :: (c ++ u :: t.takeWhile (· != 46)) :: rest := by
    rw [hshape, List.splitOn_append_cons_self_of_not_mem (isNumericId_point ha),
      List.splitOn_append_cons_self_of_not_mem (isNumericId_point hb), hlast, htake]
  have hnan := toNumber_digits_sign (t := t.takeWhile (· != 46)) (isNumericId_digits hc).1
    (isNumericId_digits hc).2 hu
  simp [numbers, hsplit, hnan]

/-- The evaluator refuses every comparison with a prerelease or a build in it. -/
theorem atLeast_tagged {actual minimum : JsString} (ha : semverShape actual = true)
    (hm : semverShape minimum = true) (h : (tagged actual || tagged minimum) = true) :
    atLeast actual minimum = false := by
  unfold atLeast
  rcases Bool.or_eq_true_iff.mp h with hactual | hminimum
  · simp [numbers_tagged ha hactual]
  · simp [numbers_tagged hm hminimum]

theorem numbersAtLeast_iff {as bs : List Double} {ms ns : List Nat}
    (ha : List.Forall₂ Double.IsNat as ms) (hb : List.Forall₂ Double.IsNat bs ns)
    (hlen : ms.length = ns.length) : numbersAtLeast as bs = true ↔ ¬ ms < ns := by
  induction ha generalizing bs ns with
  | nil =>
    obtain rfl := List.length_eq_zero_iff.mp hlen.symm
    simp [numbersAtLeast]
  | @cons a m as ms ha _ ih =>
    cases hb with
    | nil => simp at hlen
    | @cons b n bs ns hb htail =>
      have hrec := ih htail (Nat.succ.inj hlen)
      unfold numbersAtLeast
      rw [List.cons_lt_cons_iff]
      by_cases hmn : m = n
      · subst hmn
        rw [if_pos ((ha.same_iff hb).mpr rfl), hrec]
        simp
      · have hsame : ¬ a.same b = true := fun h => hmn ((ha.same_iff hb).mp h)
        rw [if_neg hsame, hb.lt_iff ha]
        simp only [hmn, false_and, or_false]
        omega

/-- A core number is read as the binary64 number nearest to it. -/
theorem toNumber_numericId (h : isNumericId s = true) (hlen : s.length ≤ 64) :
    ∃ d, toNumber s = some d ∧ Double.IsNat d (Double.roundNat (digitsValue s)) := by
  obtain ⟨hne, hdigits⟩ := isNumericId_digits h
  have hlt := digitsValue_lt hdigits
  have hpow : 10 ^ s.length ≤ 10 ^ 64 := Nat.pow_le_pow_right (by decide) hlen
  have hbound : (10 : Nat) ^ 64 < 2 ^ 256 := by norm_num
  obtain ⟨d, hd, hnat⟩ := Double.ofFraction_nat (n := digitsValue s) (by omega)
  exact ⟨d, (toNumber_digits hne hdigits).trans hd, hnat⟩

namespace SemVer

theorem length_le (v : SemVer) : v.text.length ≤ 64 := by
  have h := v.valid
  simp only [semver, Bool.and_eq_true, decide_eq_true_eq] at h
  exact h.1.2

theorem shape (v : SemVer) : semverShape v.text = true := by
  have h := v.valid
  simp only [semver, Bool.and_eq_true] at h
  exact h.2

/-- The numbers of a plain version are its core numbers, rounded. -/
theorem numbers_eq (v : SemVer) (h : tagged v.text = false) :
    ∃ x y z, numbers v.text = [some x, some y, some z] ∧
      List.Forall₂ Double.IsNat [x, y, z] ((coreNumbers v.text).map Double.roundNat) := by
  obtain ⟨a, b, c, hcore, ha, hb, hc⟩ := semverShape_core v.shape
  have hlen := v.length_le
  have htext := coreText_eq hcore
  rw [coreText_plain h] at htext
  have htotal := congrArg List.length htext
  simp only [List.length_append, List.length_cons] at htotal
  obtain ⟨x, hx, hxn⟩ := toNumber_numericId ha (by omega)
  obtain ⟨y, hy, hyn⟩ := toNumber_numericId hb (by omega)
  obtain ⟨z, hz, hzn⟩ := toNumber_numericId hc (by omega)
  refine ⟨x, y, z, ?_, ?_⟩
  · rw [numbers_plain h hcore, hx, hy, hz]
  · simp only [coreNumbers, hcore, List.map_cons, List.map_nil]
    exact .cons hxn (.cons hyn (.cons hzn .nil))

theorem coreNumbers_length (v : SemVer) : (coreNumbers v.text).length = 3 := by
  obtain ⟨a, b, c, hcore, -⟩ := semverShape_core v.shape
  simp [coreNumbers, hcore]

variable {actual minimum : SemVer}

/-- On plain versions the evaluator compares the rounded core numbers. -/
theorem atLeast_plain (ha : tagged actual.text = false) (hm : tagged minimum.text = false) :
    atLeast actual.text minimum.text = true ↔
      ¬ (coreNumbers actual.text).map Double.roundNat <
        (coreNumbers minimum.text).map Double.roundNat := by
  obtain ⟨x, y, z, hnumbers, hnat⟩ := actual.numbers_eq ha
  obtain ⟨x', y', z', hnumbers', hnat'⟩ := minimum.numbers_eq hm
  have hloop : atLeast actual.text minimum.text = numbersAtLeast [x, y, z] [x', y', z'] := by
    simp [atLeast, hnumbers, hnumbers']
  rw [hloop]
  apply numbersAtLeast_iff hnat hnat'
  rw [List.length_map, List.length_map, coreNumbers_length, coreNumbers_length]

theorem parseSemver_eq (v : SemVer) :
    parseSemver v.text = some ⟨(coreText v.text).splitOn 46, prereleaseIds v.text⟩ :=
  if_pos v.valid

/-- On plain versions the client compares the core numbers themselves. -/
theorem versionAtLeast_plain (ha : tagged actual.text = false) (hm : tagged minimum.text = false) :
    versionAtLeast actual.text minimum.text = true ↔
      ¬ coreNumbers actual.text < coreNumbers minimum.text := by
  have hids : ∀ s, tagged s = false → prereleaseIds s = [] := by
    intro s h
    simp only [tagged, Bool.or_eq_false_iff, bne_eq_false_iff_eq] at h
    exact h.1
  have hcompare : compareSemver actual.text minimum.text =
      some (compareCore ((coreText actual.text).splitOn 46) ((coreText minimum.text).splitOn 46)) := by
    unfold compareSemver
    rw [actual.parseSemver_eq, minimum.parseSemver_eq, hids _ ha, hids _ hm]
    simp [comparePrerelease]
  obtain ⟨a, b, c, hcore, hn⟩ := semverShape_core actual.shape
  obtain ⟨a', b', c', hcore', hn'⟩ := semverShape_core minimum.shape
  have hall : [a, b, c].all isNumericId = true := by simp [hn]
  have hall' : [a', b', c'].all isNumericId = true := by simp [hn']
  have hlt := compareCore_lt_iff hall hall' rfl
  unfold versionAtLeast
  rw [hcompare, hcore, hcore']
  simp only [coreNumbers, hcore, hcore', ← hlt, bne_iff_ne, ne_eq]

end SemVer

/-- When the two comparisons of a packaged version with a minimum come out alike: with a prerelease
or a build on either side, only when the packaged version is too old; without, whenever rounding the
core numbers to binary64 keeps their order. -/
def VersionsAgree (packaged minimum : SemVer) : Prop :=
  if tagged packaged.text || tagged minimum.text then
    versionAtLeast packaged.text minimum.text = false
  else
    (coreNumbers packaged.text).map Double.roundNat < (coreNumbers minimum.text).map Double.roundNat ↔
      coreNumbers packaged.text < coreNumbers minimum.text

theorem versions_agree_iff (packaged minimum : SemVer) :
    (versionAtLeast packaged.text minimum.text = atLeast packaged.text minimum.text) ↔
      VersionsAgree packaged minimum := by
  unfold VersionsAgree
  by_cases h : (tagged packaged.text || tagged minimum.text) = true
  · rw [if_pos h, atLeast_tagged packaged.shape minimum.shape h]
  · rw [if_neg h]
    simp only [Bool.or_eq_true, not_or, Bool.not_eq_true] at h
    have hevaluator := SemVer.atLeast_plain h.1 h.2
    have hclient := SemVer.versionAtLeast_plain h.1 h.2
    rw [Bool.eq_iff_iff, hevaluator, hclient, not_iff_not]
    exact iff_comm

/-- `"2147483647"`. -/
def largestPart : JsString := [50, 49, 52, 55, 52, 56, 51, 54, 52, 55]

def parseBrowser (value : JsString) : Option (List JsString) :=
  let parts := value.splitOn 46
  if parts.length < 1 || 4 < parts.length || parts.any (fun part => !isNumericId part) then none
  else if parts.any fun part => decimalCompare part largestPart == .gt then none
  else some (parts ++ List.replicate (4 - parts.length) [48])

def compareBrowser (left right : JsString) : Option Ordering :=
  (parseBrowser left).bind fun a => (parseBrowser right).map fun b => compareCore a b

end SellerAgents.ControlClient
