import SellerAgents.Compatibility.Resolution
import SellerAgents.Compatibility.VersionOrder

namespace SellerAgents.Compatibility
open Js ControlClient Ordered Std

instance : TransCmp codeUnits := inferInstanceAs (TransCmp (List.compareLex _))

section Resolution

variable {v w : JsString}

/-- A version below a bound stays below it when it is lowered. -/
theorem belowVersion_mono (hv : SemVerV1Schema v = true) (hw : SemVerV1Schema w = true)
    (hle : compareSemVerV1 v w ≠ .ok .gt) {bound : Option JsString} {low : Bool}
    (h : belowVersion v bound = .ok low) : ∃ low', belowVersion w bound = .ok low' ∧
      (low' = true → low = true) := by
  rw [belowVersion] at h ⊢
  cases hbound : truthy bound with
  | none => exact ⟨false, rfl, by simp⟩
  | some b =>
    rw [hbound] at h
    by_cases hb : SemVerV1Schema b = true
    · rw [compareSemVerV1_eq hv hw, ne_eq, Except.ok.injEq] at hle
      simp only [compareSemVerV1_eq hv hb, compareSemVerV1_eq hw hb, Except.map,
        Except.ok.injEq] at h ⊢
      refine ⟨_, rfl, fun hlow => ?_⟩
      rw [beq_iff_eq] at hlow
      rw [← h, beq_iff_eq]
      refine TransCmp.lt_of_isLE_of_lt ?_ hlow
      cases hcompared : precedence codeUnits (semanticVersion v) (semanticVersion w) with
      | lt => rfl
      | eq => rfl
      | gt => exact absurd hcompared hle
    · simp [compareSemVerV1, hv, hb, Except.map] at h

/-- The same resolution for another extension version. -/
def CompatibilityResolverInput.withVersion (input : CompatibilityResolverInput) (version : JsString) :
    CompatibilityResolverInput :=
  { input with extensionVersion := version }

/-- How far a status is from support. -/
def ExtensionStatus.rank : ExtensionStatus → Nat
  | .SUPPORTED => 0
  | .UPDATE_RECOMMENDED => 1
  | .UPDATE_REQUIRED => 2

theorem ExtensionStatus.rank_le (status : ExtensionStatus) : status.rank ≤ 2 := by
  cases status with
  | SUPPORTED => exact Nat.zero_le 2
  | UPDATE_RECOMMENDED => exact Nat.le_succ 1
  | UPDATE_REQUIRED => exact Nat.le_refl 2

variable {input : CompatibilityResolverInput} {minimum recommended : Option JsString}

/-- What the two bounds make of a version that a release supports and no policy blocks. -/
theorem extensionStatus_eq (hsupports : input.releaseSupports = true)
    (hblocked : input.extensionVersion ∉ input.blocked) {status : ExtensionStatus}
    (h : input.extensionStatus minimum recommended = .ok status) :
    (belowVersion input.extensionVersion minimum = .ok true ∧ status = .UPDATE_REQUIRED) ∨
      (belowVersion input.extensionVersion minimum = .ok false ∧ ∃ low,
        belowVersion input.extensionVersion recommended = .ok low ∧
          status = if low then .UPDATE_RECOMMENDED else .SUPPORTED) := by
  have hcontains : input.blocked.contains input.extensionVersion = false := by simpa using hblocked
  simp only [CompatibilityResolverInput.extensionStatus, hsupports, hcontains, Bool.not_true,
    Bool.or_self, Bool.false_eq_true, if_false] at h
  cases hminimum : belowVersion input.extensionVersion minimum with
  | error e =>
    rw [hminimum] at h
    cases h
  | ok low =>
    rw [hminimum] at h
    cases low with
    | true =>
      cases h
      exact .inl ⟨rfl, rfl⟩
    | false =>
      cases hrecommended : belowVersion input.extensionVersion recommended with
      | error e =>
        rw [hrecommended] at h
        cases h
      | ok low =>
        rw [hrecommended] at h
        cases low with
        | true =>
          cases h
          exact .inr ⟨rfl, true, rfl, rfl⟩
        | false =>
          cases h
          exact .inr ⟨rfl, false, rfl, rfl⟩

theorem extensionStatus_unsupported (h : input.releaseSupports = false) :
    input.extensionStatus minimum recommended = .ok .UPDATE_REQUIRED := by
  simp [CompatibilityResolverInput.extensionStatus, h]

theorem extensionStatus_blocked (h : input.extensionVersion ∈ input.blocked) :
    input.extensionStatus minimum recommended = .ok .UPDATE_REQUIRED := by
  simp [CompatibilityResolverInput.extensionStatus, h]

/-- A raised version that is not blocked has no worse status. -/
theorem extensionStatus_mono (hv : SemVerV1Schema v = true) (hw : SemVerV1Schema w = true)
    (hle : compareSemVerV1 v w ≠ .ok .gt) {status status' : ExtensionStatus}
    (h : (input.withVersion v).extensionStatus minimum recommended = .ok status)
    (h' : (input.withVersion w).extensionStatus minimum recommended = .ok status')
    (hblocked : w ∉ input.blocked) : status'.rank ≤ status.rank := by
  have hlow : (input.withVersion v).extensionVersion = v := rfl
  have hhigh : (input.withVersion w).extensionVersion = w := rfl
  cases hsupports : input.releaseSupports with
  | false =>
    have hv' : (input.withVersion v).releaseSupports = false := hsupports
    rw [extensionStatus_unsupported hv'] at h
    cases h
    exact status'.rank_le
  | true =>
    have hvs : (input.withVersion v).releaseSupports = true := hsupports
    have hws : (input.withVersion w).releaseSupports = true := hsupports
    by_cases hv' : (input.withVersion v).extensionVersion ∈ (input.withVersion v).blocked
    · rw [extensionStatus_blocked hv'] at h
      cases h
      exact status'.rank_le
    · rcases extensionStatus_eq hvs hv' h with ⟨-, rfl⟩ | ⟨hminimum, low, hrecommended, rfl⟩
      · exact status'.rank_le
      · -- The lower version meets the minimum, so the higher one does.
        rw [hlow] at hminimum hrecommended
        obtain ⟨below, hminimum', himp⟩ := belowVersion_mono hv hw hle hminimum
        obtain ⟨low', hrecommended', himp'⟩ := belowVersion_mono hv hw hle hrecommended
        rcases extensionStatus_eq hws hblocked h' with ⟨htrue, -⟩ | ⟨-, low'', hagain, rfl⟩
        · rw [hhigh, hminimum'] at htrue
          cases htrue
          exact absurd (himp rfl) Bool.false_ne_true
        · rw [hhigh, hrecommended'] at hagain
          cases hagain
          cases low' with
          | false => exact Nat.zero_le _
          | true =>
            rw [himp' rfl]

/-- What a resolution is made of. -/
theorem resolve_some {resolution : CompatibilityResolution}
    (h : resolveCompatibility input = .ok (some resolution)) : ∃ minimum recommended,
      maxVersion (input.consumed.map (·.minimumExtensionVersion)) = .ok minimum ∧
      maxVersion (input.consumed.map (·.recommendedExtensionVersion)) = .ok recommended ∧
      input.extensionStatus minimum recommended = .ok resolution.extension := by
  rw [resolveCompatibility] at h
  split at h
  · cases h
  · cases hminimum : maxVersion (input.consumed.map (·.minimumExtensionVersion)) with
    | error e =>
      rw [hminimum] at h
      cases h
    | ok minimum =>
      cases hrecommended : maxVersion (input.consumed.map (·.recommendedExtensionVersion)) with
      | error e =>
        rw [hminimum, hrecommended] at h
        cases h
      | ok recommended =>
        rw [hminimum, hrecommended] at h
        cases hinverted : inverted minimum recommended with
        | error e =>
          simp only [bind, Except.bind, hinverted] at h
          cases h
        | ok flag =>
          simp only [bind, Except.bind, hinverted] at h
          split at h
          · cases h
          · cases hstatus : input.extensionStatus minimum recommended with
            | error e =>
              rw [hstatus] at h
              cases h
            | ok status =>
              rw [hstatus] at h
              cases h
              exact ⟨minimum, recommended, rfl, rfl, hstatus⟩

/-- Raising the extension version makes its status no worse, unless the raised version is blocked. -/
theorem resolve_mono (hv : SemVerV1Schema v = true) (hw : SemVerV1Schema w = true)
    (hle : compareSemVerV1 v w ≠ .ok .gt) {low high : CompatibilityResolution}
    (hlow : resolveCompatibility (input.withVersion v) = .ok (some low))
    (hhigh : resolveCompatibility (input.withVersion w) = .ok (some high)) :
    high.extension.rank ≤ low.extension.rank ∨ w ∈ input.blocked := by
  obtain ⟨minimum, recommended, hminimum, hrecommended, hstatus⟩ := resolve_some hlow
  obtain ⟨minimum', recommended', hminimum', hrecommended', hstatus'⟩ := resolve_some hhigh
  have hsame : (input.withVersion w).consumed = (input.withVersion v).consumed := rfl
  rw [hsame, hminimum] at hminimum'
  rw [hsame, hrecommended] at hrecommended'
  cases hminimum'
  cases hrecommended'
  by_cases hblocked : w ∈ input.blocked
  · exact .inr hblocked
  · exact .inl (extensionStatus_mono hv hw hle hstatus hstatus' hblocked)

end Resolution

/-- `left` is not after `right` for the server. -/
def VersionLE (left right : JsString) : Prop :=
  ∃ order, compareSemVerV1 left right = .ok order ∧ order ≠ .gt

theorem versionLE_iff {a b : JsString} (ha : SemVerV1Schema a = true) (hb : SemVerV1Schema b = true) :
    VersionLE a b ↔ (precedence codeUnits (semanticVersion a) (semanticVersion b)).isLE = true := by
  rw [VersionLE, compareSemVerV1_eq ha hb]
  simp [Ordering.isLE_iff_ne_gt]

/-- The order of the versions that the schema admits. -/
structure VersionOrderLaws : Prop where
  spec : ∀ a b, SemVerV1Schema a = true → SemVerV1Schema b = true →
    compareSemVerV1 a b = .ok (precedence codeUnits (semanticVersion a) (semanticVersion b))
  total : ∀ a b, SemVerV1Schema a = true → SemVerV1Schema b = true → VersionLE a b ∨ VersionLE b a
  trans : ∀ a b c, SemVerV1Schema a = true → SemVerV1Schema b = true → SemVerV1Schema c = true →
    VersionLE a b → VersionLE b c → VersionLE a c
  swap : ∀ a b order, compareSemVerV1 a b = .ok order → compareSemVerV1 b a = .ok order.swap

theorem schema_of_ok {a b : JsString} {order : Ordering} (h : compareSemVerV1 a b = .ok order) :
    SemVerV1Schema a = true ∧ SemVerV1Schema b = true := by
  rw [compareSemVerV1] at h
  split at h
  · cases h
  · split at h
    · cases h
    · simp_all

theorem versionOrderLaws : VersionOrderLaws where
  spec := fun _ _ => compareSemVerV1_eq
  total := by
    intro a b ha hb
    rw [versionLE_iff ha hb, versionLE_iff hb ha]
    have hswap : precedence codeUnits (semanticVersion b) (semanticVersion a) =
        (precedence codeUnits (semanticVersion a) (semanticVersion b)).swap := OrientedCmp.eq_swap
    rw [hswap]
    cases precedence codeUnits (semanticVersion a) (semanticVersion b) with
    | lt => exact .inl rfl
    | eq => exact .inl rfl
    | gt => exact .inr rfl
  trans := by
    intro a b c ha hb hc hab hbc
    rw [versionLE_iff ha hb] at hab
    rw [versionLE_iff hb hc] at hbc
    rw [versionLE_iff ha hc]
    exact TransCmp.isLE_trans hab hbc
  swap := by
    intro a b order h
    obtain ⟨ha, hb⟩ := schema_of_ok h
    rw [compareSemVerV1_eq ha hb, Except.ok.injEq] at h
    rw [compareSemVerV1_eq hb ha, ← h]
    exact congrArg Except.ok OrientedCmp.eq_swap

/-- One order of versions on the server and in the client, which a resolution follows. -/
theorem version_ordering :
    VersionOrderLaws ∧
    (∀ a b, compareSemver a b = (compareSemVerV1 a b).toOption) ∧
    (∀ a b, compareBrowserVersionV1 a b = compareBrowser a b) ∧
    ∀ (input : CompatibilityResolverInput) v w low high,
      SemVerV1Schema v = true → SemVerV1Schema w = true → VersionLE v w →
      resolveCompatibility (input.withVersion v) = .ok (some low) →
      resolveCompatibility (input.withVersion w) = .ok (some high) →
      high.extension.rank ≤ low.extension.rank ∨ w ∈ input.blocked := by
  refine ⟨versionOrderLaws, compareSemver_eq, compareBrowserVersionV1_eq, ?_⟩
  intro input v w low high hv hw hle hlow hhigh
  refine resolve_mono hv hw ?_ hlow hhigh
  obtain ⟨order, horder, hne⟩ := hle
  rw [horder, ne_eq, Except.ok.injEq]
  exact hne

/-- `1.0.0-rc.1`. -/
def candidateVersion : JsString := [49, 46, 48, 46, 48, 45, 114, 99, 46, 49]

/-- `1.0.0`. -/
def releasedVersion : JsString := [49, 46, 48, 46, 48]

/-- A release with the minimum `1.0.0`, of which `1.0.0-rc.1` falls short. -/
def releaseInput : CompatibilityResolverInput where
  contractVersion := .control_plane_v2
  extensionVersion := candidateVersion
  browserFamily := .chrome
  browserVersion := [49]
  release := some ⟨"r1"⟩
  releaseContracts := [⟨"r1", .control_plane_v2⟩]
  releaseBrowsers := [⟨"r1", .chrome⟩]
  policies := [⟨"p1", .control_plane_v2, none, some releasedVersion, none, none, false, none⟩]
  blockedVersions := fun _ => none

theorem version_ordering_candidate : ∃ low high,
    resolveCompatibility (releaseInput.withVersion candidateVersion) = .ok (some low) ∧
    resolveCompatibility (releaseInput.withVersion releasedVersion) = .ok (some high) ∧
    low.extension = .UPDATE_REQUIRED ∧ high.extension = .SUPPORTED ∧
    (high.extension.rank ≤ low.extension.rank ∨ releasedVersion ∈ releaseInput.blocked) :=
  ⟨⟨.UPDATE_REQUIRED, .SUPPORTED, some releasedVersion⟩,
    ⟨.SUPPORTED, .SUPPORTED, some releasedVersion⟩, by decide +kernel, by decide +kernel, rfl, rfl,
    version_ordering.2.2.2 releaseInput candidateVersion releasedVersion _ _ (by decide +kernel)
      (by decide +kernel) ⟨.lt, by decide +kernel, by decide⟩ (by decide +kernel)
      (by decide +kernel)⟩

/-- A version of the grammar with a number of 61 digits is longer than the schema admits. -/
theorem long_version_refused : ∃ value : JsString, semverShape value = true ∧
    compareSemVerV1 value value = .error .zodError ∧ compareSemver value value = none :=
  ⟨List.replicate 61 49 ++ [46, 48, 46, 48], by decide +kernel, by decide +kernel, by decide +kernel⟩

end SellerAgents.Compatibility
