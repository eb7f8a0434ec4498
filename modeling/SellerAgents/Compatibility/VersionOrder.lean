import Mathlib.Data.List.Forall2
import SellerAgents.Compatibility.Versions
import SellerAgents.Ordered.SemanticVersions

namespace SellerAgents.Compatibility
open Js ControlClient Ordered

section Texts

/-- The order of texts by their code units. -/
def codeUnits : JsString → JsString → Ordering := List.compareLex (compareOn UInt16.toNat)

theorem codeUnits_eq (a b : JsString) :
    codeUnits a b = if a = b then .eq else if a < b then .lt else .gt := by
  induction a generalizing b with
  | nil =>
    cases b with
    | nil => rfl
    | cons v b => simp [codeUnits, List.compareLex_nil_cons]
  | cons u a ih =>
    cases b with
    | nil => simp [codeUnits, List.compareLex_cons_nil]
    | cons v b =>
      rw [codeUnits, List.compareLex_cons_cons, ← codeUnits, ih b]
      rcases Nat.lt_trichotomy u.toNat v.toNat with hlt | heq | hgt
      · have hless : u < v := hlt
        have hne : u ≠ v := fun heq => Nat.lt_irrefl _ (heq ▸ hlt)
        rw [compareOn, Nat.compare_eq_lt.mpr hlt]
        simp [hne, List.cons_lt_cons_iff, hless]
      · obtain rfl := UInt16.toNat_inj.mp heq
        rw [compareOn, Nat.compare_eq_eq.mpr rfl]
        simp
      · have hnot : ¬ u < v := Nat.lt_asymm hgt
        have hne : u ≠ v := fun heq => Nat.lt_irrefl _ (heq ▸ hgt)
        rw [compareOn, Nat.compare_eq_gt.mpr hgt]
        simp [hne, List.cons_lt_cons_iff, hnot]

end Texts

section Semantic

/-- The identifier that a text of a prerelease is. -/
def identifier (s : JsString) : Identifier JsString :=
  if allDigits s then .numeric (digitsValue s) else .alphanumeric s

/-- What a version text says. -/
def semanticVersion (value : JsString) : SemanticVersion JsString where
  major := (coreNumbers value).getD 0 0
  minor := (coreNumbers value).getD 1 0
  patch := (coreNumbers value).getD 2 0
  prerelease := (prereleaseIds value).map identifier

theorem compareNumeric_eq (l r : JsString) : compareNumeric l r = textCompare l r := by
  rw [compareNumeric, textCompare]
  by_cases hlen : l.length = r.length
  · rw [if_neg (not_not.mpr hlen), if_pos hlen]
  · rw [if_pos hlen, if_neg hlen]

theorem decimalCompare_eq {l r : JsString} (hl : isNumericId l = true) (hr : isNumericId r = true) :
    decimalCompare l r = compareNumeric l r := by
  rw [compareNumeric_eq, decimalCompare, stripZeros_numericId hl, stripZeros_numericId hr]

theorem compareNumeric_value {l r : JsString} (hl : isNumericId l = true)
    (hr : isNumericId r = true) : compareNumeric l r = compare (digitsValue l) (digitsValue r) := by
  rw [← decimalCompare_eq hl hr, decimalCompare_numericId hl hr]

theorem compareNumeric_ne {l r : JsString} (h : l ≠ r) : compareNumeric l r ≠ .eq := by
  rw [compareNumeric]
  split_ifs <;> simp_all

/-- The digits of a prerelease have no leading zeros. -/
theorem isNumericId_of_digits {s : JsString} (h : isPrereleaseId s = true)
    (hdigits : allDigits s = true) : isNumericId s = true := by
  simp only [isPrereleaseId, Bool.or_eq_true, Bool.and_eq_true] at h
  rcases h with h | ⟨-, hother⟩
  · exact h
  · obtain ⟨u, hmem, hu⟩ := List.any_eq_true.mp hother
    simp only [allDigits, Bool.and_eq_true] at hdigits
    rw [List.all_eq_true.mp hdigits.2 u hmem] at hu
    cases hu

theorem identifier_cmp {l r : JsString} (hl : isPrereleaseId l = true) (hr : isPrereleaseId r = true) :
    Identifier.cmp codeUnits (identifier l) (identifier r) =
      if l = r then .eq
      else if allDigits l && allDigits r then compareNumeric l r
      else if allDigits l != allDigits r then if allDigits l then .lt else .gt
      else if l < r then .lt else .gt := by
  rw [identifier, identifier]
  cases hdl : allDigits l with
  | true =>
    cases hdr : allDigits r with
    | true =>
      have hvalue := compareNumeric_value (isNumericId_of_digits hl hdl) (isNumericId_of_digits hr hdr)
      by_cases heq : l = r
      · subst heq
        simp [Identifier.cmp]
      · simp [Identifier.cmp, heq, hvalue]
    | false =>
      have hne : l ≠ r := fun heq => by simp [heq, hdr] at hdl
      simp [Identifier.cmp, hne]
  | false =>
    cases hdr : allDigits r with
    | true =>
      have hne : l ≠ r := fun heq => by simp [heq, hdr] at hdl
      simp [Identifier.cmp, hne]
    | false => simp [Identifier.cmp, codeUnits_eq]

theorem compareIdentifiers_eq {ls rs : List JsString} (hl : ls.all isPrereleaseId = true)
    (hr : rs.all isPrereleaseId = true) : compareIdentifiers ls rs =
      List.compareLex (Identifier.cmp codeUnits) (ls.map identifier) (rs.map identifier) := by
  induction ls generalizing rs with
  | nil =>
    cases rs with
    | nil => rfl
    | cons r rs => simp [compareIdentifiers, List.compareLex_nil_cons]
  | cons l ls ih =>
    cases rs with
    | nil => simp [compareIdentifiers, List.compareLex_cons_nil]
    | cons r rs =>
      simp only [List.all_cons, Bool.and_eq_true] at hl hr
      rw [List.map_cons, List.map_cons, List.compareLex_cons_cons, identifier_cmp hl.1 hr.1,
        compareIdentifiers, ih hl.2 hr.2]
      by_cases heq : l = r
      · simp [heq]
      · have hne := compareNumeric_ne heq
        rw [if_neg heq, if_neg heq]
        split_ifs
        · cases hc : compareNumeric l r with
          | lt => rfl
          | eq => exact absurd hc hne
          | gt => rfl
        all_goals rfl

theorem comparePrereleases_eq {ls rs : List JsString} (hl : ls.all isPrereleaseId = true)
    (hr : rs.all isPrereleaseId = true) : comparePrereleases ls rs =
      prereleaseCmp codeUnits (ls.map identifier) (rs.map identifier) := by
  cases ls with
  | nil =>
    cases rs with
    | nil => rfl
    | cons r rs => simp [comparePrereleases, prereleaseCmp]
  | cons l ls =>
    cases rs with
    | nil => simp [comparePrereleases, prereleaseCmp]
    | cons r rs =>
      simp only [comparePrereleases, reduceCtorEq, or_self, if_false]
      exact compareIdentifiers_eq hl hr

theorem shape_of_schema {value : JsString} (h : SemVerV1Schema value = true) :
    semverShape value = true := by
  simp only [SemVerV1Schema, Bool.and_eq_true] at h
  exact h.2

theorem prerelease_of_shape {value : JsString} (h : semverShape value = true) :
    (prereleaseIds value).all isPrereleaseId = true := by
  simp only [semverShape, Bool.and_eq_true] at h
  exact h.1.2

/-- The server orders versions by their precedence. -/
theorem compareSemVerV1_eq {a b : JsString} (ha : SemVerV1Schema a = true)
    (hb : SemVerV1Schema b = true) :
    compareSemVerV1 a b = .ok (precedence codeUnits (semanticVersion a) (semanticVersion b)) := by
  obtain ⟨major, minor, patch, hcore, hmajor, hminor, hpatch⟩ := semverShape_core (shape_of_schema ha)
  obtain ⟨major', minor', patch', hcore', hmajor', hminor', hpatch'⟩ :=
    semverShape_core (shape_of_schema hb)
  have hprerelease := comparePrereleases_eq (prerelease_of_shape (shape_of_schema ha))
    (prerelease_of_shape (shape_of_schema hb))
  simp only [compareSemVerV1, ha, hb, Bool.not_true, Bool.false_eq_true, if_false, parseVersion, hcore,
    hcore', List.getD_cons_zero, List.getD_cons_succ, hprerelease,
    compareNumeric_value hmajor hmajor', compareNumeric_value hminor hminor',
    compareNumeric_value hpatch hpatch']
  simp only [precedence, compareLex, compareOn, semanticVersion, coreNumbers, hcore, hcore',
    List.map_cons, List.getD_cons_zero, List.getD_cons_succ]

end Semantic

section Client

theorem compareIds_eq {ls rs : List JsString} (hl : ls.all isPrereleaseId = true)
    (hr : rs.all isPrereleaseId = true) : compareIds ls rs = compareIdentifiers ls rs := by
  induction ls generalizing rs with
  | nil =>
    cases rs with
    | nil => rfl
    | cons r rs => simp [compareIds, compareIdentifiers]
  | cons l ls ih =>
    cases rs with
    | nil => simp [compareIds, compareIdentifiers]
    | cons r rs =>
      simp only [List.all_cons, Bool.and_eq_true] at hl hr
      rw [compareIds, compareIdentifiers, ih hl.2 hr.2]
      by_cases hdigits : (allDigits l && allDigits r) = true
      · have hboth := Bool.and_eq_true_iff.mp hdigits
        rw [if_pos hdigits, if_pos hdigits, decimalCompare_eq (isNumericId_of_digits hl.1 hboth.1)
          (isNumericId_of_digits hr.1 hboth.2)]
      · rw [if_neg hdigits, if_neg hdigits]

theorem comparePrerelease_eq {ls rs : List JsString} (hl : ls.all isPrereleaseId = true)
    (hr : rs.all isPrereleaseId = true) : comparePrerelease ls rs = comparePrereleases ls rs := by
  cases ls with
  | nil =>
    cases rs with
    | nil => rfl
    | cons r rs => simp [comparePrereleases, comparePrerelease]
  | cons l ls =>
    cases rs with
    | nil => simp [comparePrereleases, comparePrerelease]
    | cons r rs =>
      simp only [comparePrereleases, comparePrerelease, reduceCtorEq, or_self, if_false]
      exact compareIds_eq hl hr

/-- The client compares as the server, and refuses what the server throws at. -/
theorem compareSemver_eq (a b : JsString) : compareSemver a b = (compareSemVerV1 a b).toOption := by
  have hschema : ∀ value, semver value = SemVerV1Schema value := fun _ => rfl
  rw [compareSemver, compareSemVerV1, parseSemver, parseSemver, hschema, hschema]
  cases ha : SemVerV1Schema a with
  | false => rfl
  | true =>
    cases hb : SemVerV1Schema b with
    | false => rfl
    | true =>
      obtain ⟨major, minor, patch, hcore, hmajor, hminor, hpatch⟩ :=
        semverShape_core (shape_of_schema ha)
      obtain ⟨major', minor', patch', hcore', hmajor', hminor', hpatch'⟩ :=
        semverShape_core (shape_of_schema hb)
      have hprerelease := comparePrerelease_eq (prerelease_of_shape (shape_of_schema ha))
        (prerelease_of_shape (shape_of_schema hb))
      simp only [if_true, Option.bind_some, Option.map_some, Bool.not_true, Bool.false_eq_true,
        if_false, parseVersion, hcore, hcore', List.getD_cons_zero, List.getD_cons_succ, hprerelease,
        compareCore, decimalCompare_eq hmajor hmajor', decimalCompare_eq hminor hminor',
        decimalCompare_eq hpatch hpatch', Except.toOption]
      cases compareNumeric major major' with
      | lt => rfl
      | gt => rfl
      | eq =>
        cases compareNumeric minor minor' with
        | lt => rfl
        | gt => rfl
        | eq =>
          cases compareNumeric patch patch' with
          | lt => rfl
          | eq => rfl
          | gt => rfl

end Client

section Browsers

theorem isNat_largestNumber : Double.IsNat largestNumber 2147483647 := by
  refine ⟨rfl, ?_⟩
  have hone : (-(largestNumber.exp)).toNat = 22 := rfl
  have htwo : largestNumber.exp.toNat = 0 := rfl
  have hman : largestNumber.man = 2147483647 * 2 ^ 22 := rfl
  simp only [Double.fraction, hone, htwo, hman, Nat.pow_zero, Nat.mul_one]

theorem isNumericId_largestPart : isNumericId largestPart = true := by decide

/-- The server takes a part of a browser version for the number it writes, or refuses it. -/
theorem exceedsLargest_iff {part : JsString} (h : isNumericId part = true) :
    (exceedsLargest (toNumber part) = true ↔ 2147483647 < digitsValue part) ∧
      (digitsValue part ≤ 2147483647 →
        ∃ d, toNumber part = some d ∧ Double.IsNat d (digitsValue part)) := by
  obtain ⟨hne, hdigits⟩ := isNumericId_digits h
  have hnumber := toNumber_digits hne hdigits
  rcases Nat.lt_or_ge (digitsValue part) (2 ^ 53) with hsmall | hlarge
  · obtain ⟨d, hd, hnat⟩ := Double.ofFraction_nat (n := digitsValue part)
      (Nat.lt_trans hsmall (by norm_num))
    have hround : Double.roundNat (digitsValue part) = digitsValue part := if_pos hsmall
    rw [hround] at hnat
    rw [hnumber, hd]
    exact ⟨isNat_largestNumber.lt_iff hnat, fun _ => ⟨d, rfl, hnat⟩⟩
  · have hbig : 2147483647 < digitsValue part := by omega
    refine ⟨⟨fun _ => hbig, fun _ => ?_⟩, fun hle => by omega⟩
    rw [hnumber]
    cases hd : Double.ofFraction false (digitsValue part) 1 with
    | none => rfl
    | some d =>
      obtain ⟨m, hm, hnat⟩ := Double.ofFraction_some hlarge hd
      exact (isNat_largestNumber.lt_iff hnat).mpr (by omega)

theorem decimalCompare_largest {part : JsString} (h : isNumericId part = true) :
    decimalCompare part largestPart = .gt ↔ 2147483647 < digitsValue part := by
  have hvalue : digitsValue largestPart = 2147483647 := by decide
  rw [decimalCompare_numericId h isNumericId_largestPart, hvalue]
  exact Nat.compare_eq_gt

/-- Numbers from left to right. -/
def compareNats : List Nat → List Nat → Ordering
  | m :: ms, n :: ns => (compare m n).then (compareNats ms ns)
  | _, _ => .eq

theorem compareNumbers_eq {xs ys : List Double} {ms ns : List Nat}
    (hx : List.Forall₂ Double.IsNat xs ms) (hy : List.Forall₂ Double.IsNat ys ns) :
    compareNumbers xs ys = compareNats ms ns := by
  induction hx generalizing ys ns with
  | nil =>
    cases hy with
    | nil => rfl
    | cons _ _ => rfl
  | @cons x m xs ms hx _ ih =>
    cases hy with
    | nil => rfl
    | @cons y n ys ns hy htail =>
      rw [compareNumbers, compareNats, ih htail]
      rcases Nat.lt_trichotomy m n with hlt | heq | hgt
      · have hne : ¬ x.same y = true := fun hsame => by
          have heq := (hx.same_iff hy).mp hsame
          omega
        rw [if_neg hne, if_pos ((hx.lt_iff hy).mpr hlt), Nat.compare_eq_lt.mpr hlt]
        rfl
      · rw [if_pos ((hx.same_iff hy).mpr heq), Nat.compare_eq_eq.mpr heq]
        rfl
      · have hne : ¬ x.same y = true := fun hsame => by
          have heq := (hx.same_iff hy).mp hsame
          omega
        have hnot : ¬ x.lt y = true := fun hless => by
          have hlt := (hx.lt_iff hy).mp hless
          omega
        rw [if_neg hne, if_neg hnot, Nat.compare_eq_gt.mpr hgt]
        rfl

theorem compareCore_eq {as bs : List JsString} (ha : ∀ a ∈ as, isNumericId a = true)
    (hb : ∀ b ∈ bs, isNumericId b = true) :
    compareCore as bs = compareNats (as.map digitsValue) (bs.map digitsValue) := by
  induction as generalizing bs with
  | nil => rfl
  | cons a as ih =>
    cases bs with
    | nil => rfl
    | cons b bs =>
      rw [compareCore, List.map_cons, List.map_cons, compareNats,
        decimalCompare_numericId (ha a List.mem_cons_self) (hb b List.mem_cons_self),
        ih (fun a hmem => ha a (List.mem_cons_of_mem _ hmem))
          (fun b hmem => hb b (List.mem_cons_of_mem _ hmem))]

theorem numbers_isNat {parts : List JsString} (hnumeric : ∀ part ∈ parts, isNumericId part = true)
    (hsmall : ∀ part ∈ parts, digitsValue part ≤ 2147483647) :
    List.Forall₂ Double.IsNat ((parts.map toNumber).filterMap id) (parts.map digitsValue) := by
  induction parts with
  | nil => exact .nil
  | cons part rest ih =>
    obtain ⟨d, hd, hnat⟩ := (exceedsLargest_iff (hnumeric part List.mem_cons_self)).2
      (hsmall part List.mem_cons_self)
    rw [List.map_cons, List.map_cons, hd]
    exact .cons hnat (ih (fun part hmem => hnumeric part (List.mem_cons_of_mem _ hmem))
      fun part hmem => hsmall part (List.mem_cons_of_mem _ hmem))

theorem zeros_isNat (k : Nat) :
    List.Forall₂ Double.IsNat (List.replicate k (.zero false)) (List.replicate k 0) := by
  induction k with
  | zero => exact .nil
  | succ k ih => exact .cons ⟨rfl, by simp only [Double.fraction, Double.zero, Nat.zero_mul]⟩ ih

/-- Both sides refuse a browser version, or both take it for the same four numbers. -/
theorem parseBrowser_cases (value : JsString) :
    (parseBrowserVersion value = none ∧ parseBrowser value = none) ∨
      ∃ numbers parts, parseBrowserVersion value = some numbers ∧ parseBrowser value = some parts ∧
        (∀ part ∈ parts, isNumericId part = true) ∧
        List.Forall₂ Double.IsNat numbers (parts.map digitsValue) := by
  rw [parseBrowserVersion, parseBrowser]
  dsimp only
  generalize value.splitOn 46 = parts
  split
  · exact .inl ⟨rfl, rfl⟩
  · rename_i hshape
    simp only [Bool.or_eq_true, List.any_eq_true, not_or, not_exists, not_and,
      Bool.not_eq_true, Bool.not_eq_false'] at hshape
    have hnumeric : ∀ part ∈ parts, isNumericId part = true := by
      intro part hmem
      simpa using hshape.2 part hmem
    have hagree : (parts.map toNumber).any exceedsLargest =
        parts.any fun part => decimalCompare part largestPart == .gt := by
      rw [List.any_map, Bool.eq_iff_iff, List.any_eq_true, List.any_eq_true]
      refine exists_congr fun part => and_congr_right fun hmem => ?_
      rw [Function.comp_apply, (exceedsLargest_iff (hnumeric part hmem)).1, beq_iff_eq,
        decimalCompare_largest (hnumeric part hmem)]
    rw [hagree]
    split
    · exact .inl ⟨rfl, rfl⟩
    · rename_i hsmall
      refine .inr ⟨_, _, rfl, rfl, ?_, ?_⟩
      · intro part hmem
        rcases List.mem_append.mp hmem with hmem | hmem
        · exact hnumeric part hmem
        · rw [List.eq_of_mem_replicate hmem]
          rfl
      · have hbounds : ∀ part ∈ parts, digitsValue part ≤ 2147483647 := by
          intro part hmem
          by_contra hlarge
          rw [Bool.not_eq_true, List.any_eq_false] at hsmall
          refine hsmall part hmem ?_
          rw [beq_iff_eq, decimalCompare_largest (hnumeric part hmem)]
          omega
        rw [List.map_append, List.map_replicate, List.length_map]
        exact List.rel_append (numbers_isNat hnumeric hbounds) (zeros_isNat _)

/-- The server and the client agree on every pair of browser versions. -/
theorem compareBrowserVersionV1_eq (a b : JsString) :
    compareBrowserVersionV1 a b = compareBrowser a b := by
  rw [compareBrowserVersionV1, compareBrowser]
  rcases parseBrowser_cases a with ⟨ha, ha'⟩ | ⟨xs, as, hx, hparts, hnumeric, hnat⟩
  · rw [ha, ha']
    rfl
  · rcases parseBrowser_cases b with ⟨hb, hb'⟩ | ⟨ys, bs, hy, hparts', hnumeric', hnat'⟩
    · rw [hx, hparts, hb, hb']
      rfl
    · rw [hx, hparts, hy, hparts', Option.bind_some, Option.bind_some, Option.map_some,
        Option.map_some, compareNumbers_eq hnat hnat', compareCore_eq hnumeric hnumeric']

end Browsers

end SellerAgents.Compatibility
