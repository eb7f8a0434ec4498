import SellerAgents.ControlClient.SemVer

namespace SellerAgents.ControlClient
open Js

inductive Contract where
  | controlPlaneV2
  | controlPlaneV3
deriving DecidableEq

inductive SnapshotVersion where
  | bootstrapSnapshotV2
  | bootstrapSnapshotV3
deriving DecidableEq

inductive AccessBasis where
  | beta
  | commercial
  | none
deriving DecidableEq

inductive SubscriptionState where
  | none
  | trial
  | active
  | grace
  | pastDue
  | canceled
  | expired
  | suspended
deriving DecidableEq

inductive ExtensionStatus where
  | supported
  | updateRecommended
  | updateRequired
deriving DecidableEq

inductive BrowserStatus where
  | supported
  | unsupportedBrowser
  | maintenance
deriving DecidableEq

/-- `subscription_access_v1`; the times are what `Date.parse` returns. -/
structure SubscriptionAccess where
  paidThrough : Int
  offlineHardUntil : Int
deriving DecidableEq

/-- A bootstrap payload with the compatibility its client sees: signed with the payload, or
projected from its signed local rules. -/
structure Payload where
  snapshotVersion : SnapshotVersion
  contractVersion : Contract
  configVersion : Int
  issuedAt : Int
  expiresAt : Int
  offlineGraceUntil : Int
  serverTime : Int
  accessBasis : Option AccessBasis
  accountStatus : String
  subscriptionState : SubscriptionState
  deviceStatus : String
  subscriptionAccess : Option SubscriptionAccess
  extensionStatus : ExtensionStatus
  minimumVersion : Option SemVer
  browserStatus : BrowserStatus
deriving DecidableEq

def maxSafeInteger : Int := 9007199254740991

def isSafeInteger (n : Int) : Bool := -maxSafeInteger ≤ n && n ≤ maxSafeInteger

def maxDateMs : Int := 8640000000000000

def seventyTwoHours : Int := 72 * 60 * 60 * 1000

/-- `subscriptionAccessV3(value, accessBasis, subscriptionState)`. -/
def subscriptionAccessV3 (value : Option SubscriptionAccess) (accessBasis : Option AccessBasis)
    (subscriptionState : SubscriptionState) : Bool :=
  let paidCommercial := accessBasis == some .commercial &&
    [.active, .grace, .canceled].contains subscriptionState
  match value with
  | none => !paidCommercial
  | some access => paidCommercial && access.offlineHardUntil - access.paidThrough == seventyTwoHours

/-- The checks of `payload` and `payloadV3` on these fields. -/
def Payload.verified (value : Payload) : Bool :=
  value.accountStatus == "ACTIVE" && value.deviceStatus == "ACTIVE" &&
    isSafeInteger value.configVersion && 0 < value.configVersion &&
    value.issuedAt ≤ value.serverTime && value.issuedAt < value.expiresAt &&
    value.expiresAt < value.offlineGraceUntil &&
    match value.snapshotVersion with
    | .bootstrapSnapshotV2 => value.contractVersion == .controlPlaneV2
    | .bootstrapSnapshotV3 => value.contractVersion == .controlPlaneV3 && value.accessBasis.isSome &&
      subscriptionAccessV3 value.subscriptionAccess value.accessBasis value.subscriptionState

/-- A payload the verifier has accepted. -/
structure VerifiedPayload extends Payload where
  accepted : toPayload.verified = true

/-- What the package carries: its version and its contract. -/
structure Package where
  extensionVersion : SemVer
  contractVersion : Contract

def validMillis (value : Int) : Bool := isSafeInteger value && 0 ≤ value && value ≤ maxDateMs

/-- `parsedMillis` of the client and `parsed` of the evaluator. -/
def parsedMillis (value : Int) : Option Int := if validMillis value then some value else none

/-- The times stored with a cached payload. -/
structure CacheClock where
  trustedServerTimeMs : Int
  effectiveTimeMs : Int

/-- The times of `validCacheClockShape(value, payload)`. -/
def validCacheClock (value : CacheClock) (payload : Payload) : Bool :=
  validMillis value.trustedServerTimeMs && validMillis value.effectiveTimeMs &&
    value.trustedServerTimeMs ≤ value.effectiveTimeMs &&
    match parsedMillis payload.serverTime with
    | none => false
    | some serverTimeMs => serverTimeMs ≤ value.trustedServerTimeMs &&
      (payload.contractVersion != .controlPlaneV3 || value.trustedServerTimeMs == serverTimeMs)

/-- A cache clock of a payload and an effective time at or after its times. -/
structure Reading (payload : Payload) where
  clock : CacheClock
  valid : validCacheClock clock payload = true
  time : Int
  safe : isSafeInteger time = true
  after : clock.effectiveTimeMs ≤ time

/-! The client's check. -/

/-- The check `EXTENSION_MINIMUM`. -/
def extensionMinimum (config : Package) (snapshot : Payload) : Bool :=
  match snapshot.minimumVersion with
  | none => true
  | some minimum => (parseSemver minimum.text).isSome &&
    versionAtLeast config.extensionVersion.text minimum.text

def authorityStaticValid (config : Package) (snapshot : Payload) : Bool :=
  (snapshot.contractVersion != .controlPlaneV3 || snapshot.accessBasis != some .none) &&
    snapshot.accountStatus == "ACTIVE" && snapshot.deviceStatus == "ACTIVE" &&
    [.supported, .updateRecommended].contains snapshot.extensionStatus &&
    snapshot.browserStatus == .supported && extensionMinimum config snapshot

def cacheAuthorityDeadline (snapshot : Payload) : Option Int :=
  match parsedMillis snapshot.expiresAt with
  | none => none
  | some expiresAt =>
    if snapshot.contractVersion ≠ .controlPlaneV3 then parsedMillis snapshot.offlineGraceUntil
    else if snapshot.accessBasis = some .commercial then
      match snapshot.subscriptionAccess with
      | none => some expiresAt
      | some access =>
        match parsedMillis access.paidThrough, parsedMillis access.offlineHardUntil with
        | some paidThrough, some offlineHardUntil =>
          if offlineHardUntil - paidThrough = seventyTwoHours then some offlineHardUntil else none
        | _, _ => none
    else if snapshot.accessBasis = some .beta then parsedMillis snapshot.offlineGraceUntil
    else some expiresAt

def legacyGraceRequired (snapshot : Payload) : Bool :=
  snapshot.contractVersion != .controlPlaneV3 || snapshot.accessBasis == some .beta

def authorityBaseValid (config : Package) (snapshot : Payload) (effectiveTimeMs : Int) : Bool :=
  authorityStaticValid config snapshot && validMillis effectiveTimeMs &&
    match parsedMillis snapshot.expiresAt, cacheAuthorityDeadline snapshot with
    | some expiresAt, some deadline =>
      (!legacyGraceRequired snapshot || expiresAt < deadline) && effectiveTimeMs < deadline
    | _, _ => false

/-! The evaluator's gates. -/

inductive Source where
  | online
  | cache
deriving DecidableEq

inductive Freshness where
  | fresh
  | staleButOfflineGraceEligible
  | cacheExpired
deriving DecidableEq

/-- The deadline of a contract, basis and source, which may be missing, and whether the payload may
outlive its expiry; none when the paid interval is malformed. -/
def freshnessDeadline (payload : Payload) (source : Source) (expires : Int)
    (legacyGrace : Option Int) : Option (Option Int × Bool) :=
  if payload.contractVersion ≠ .controlPlaneV3 then some (legacyGrace, true)
  else if source = .online then some (some expires, false)
  else if payload.accessBasis = some .commercial then
    match payload.subscriptionAccess with
    | none => some (some expires, false)
    | some access =>
      match parsedMillis access.paidThrough, parsedMillis access.offlineHardUntil with
      | some paidThrough, some hard =>
        if hard - paidThrough ≠ seventyTwoHours then none else some (some hard, true)
      | _, _ => none
  else if payload.accessBasis = some .beta then some (legacyGrace, true)
  else some (some expires, false)

/-- `requiresLegacyGrace && (legacyGrace === null || legacyGrace <= expires)`. -/
def legacyGraceMissing (payload : Payload) (expires : Int) (legacyGrace : Option Int) : Bool :=
  legacyGraceRequired payload &&
    match legacyGrace with
    | none => true
    | some grace => grace ≤ expires

/-- The state at an effective time. -/
def freshnessState (effectiveTimeMs deadline expires : Int) (offlineEligible : Bool) : Freshness :=
  if deadline ≤ effectiveTimeMs then .cacheExpired
  else if effectiveTimeMs < expires then .fresh
  else if offlineEligible then .staleButOfflineGraceEligible
  else .cacheExpired

/-- `freshness(payload, clock, requestedTime, source)`: the state and the effective time, none for
null. -/
def freshness (payload : Payload) (clock : CacheClock) (requestedTime : Int) (source : Source) :
    Option (Freshness × Int) :=
  let legacyGrace := parsedMillis payload.offlineGraceUntil
  match parsedMillis payload.expiresAt, parsedMillis payload.serverTime with
  | some expires, some server =>
    let values := [clock.effectiveTimeMs, clock.trustedServerTimeMs, server, requestedTime].filter
      isSafeInteger
    if values.length < 3 || values.any fun value => value < 0 || maxDateMs < value then none
    else
      match freshnessDeadline payload source expires legacyGrace with
      | some (some deadline, offlineEligible) =>
        if legacyGraceMissing payload expires legacyGrace then none
        else
          let effectiveTimeMs := values.foldl max 0
          some (freshnessState effectiveTimeMs deadline expires offlineEligible, effectiveTimeMs)
      | _ => none
  | _, _ => none

/-- The gates of `evaluate` on the payload and its time, with the state. -/
structure WorkGates where
  state : Option Freshness
  freshness : Bool
  bootstrapCompatibility : Bool
  accessBasis : Bool

def wireCompatible (config : Package) (payload : Payload) : Bool :=
  (payload.snapshotVersion == .bootstrapSnapshotV2 &&
      payload.contractVersion == config.contractVersion) ||
    (payload.snapshotVersion == .bootstrapSnapshotV3 && payload.contractVersion == .controlPlaneV3)

/-- The minimum of the payload as the evaluator checks it. -/
def minimumMet (config : Package) (payload : Payload) : Bool :=
  match payload.minimumVersion with
  | none => true
  | some minimum => atLeast config.extensionVersion.text minimum.text

def workGates (config : Package) (payload : Payload) (clock : CacheClock) (effectiveTimeMs : Int)
    (source : Source) : WorkGates :=
  let state := (freshness payload clock effectiveTimeMs source).map Prod.fst
  { state := state
    freshness := state.isSome
    bootstrapCompatibility := wireCompatible config payload &&
      isSafeInteger payload.configVersion && 0 < payload.configVersion &&
      payload.accountStatus == "ACTIVE" && payload.deviceStatus == "ACTIVE" &&
      [.supported, .updateRecommended].contains payload.extensionStatus &&
      minimumMet config payload && payload.browserStatus == .supported
    accessBasis := payload.contractVersion != .controlPlaneV3 || payload.accessBasis != some .none }

/-- All three gates hold and the cache has not expired. -/
def WorkGates.hold (gates : WorkGates) : Bool :=
  gates.freshness && gates.bootstrapCompatibility && gates.accessBasis &&
    gates.state != some .cacheExpired

/-- A payload may be worked with before its deadline. -/
def WithinDeadline (payload : Payload) (time : Int) : Prop :=
  ∃ deadline, cacheAuthorityDeadline payload = some deadline ∧ time < deadline

theorem parsedMillis_eq_some {value t : Int} :
    parsedMillis value = some t ↔ value = t ∧ 0 ≤ t ∧ t ≤ maxDateMs := by
  have hsafe : maxDateMs ≤ maxSafeInteger := by decide
  have hneg : -maxSafeInteger ≤ 0 := by decide
  unfold parsedMillis validMillis isSafeInteger
  constructor
  · intro h
    split at h
    · rename_i hvalid
      obtain rfl := Option.some.inj h
      simp only [Bool.and_eq_true, decide_eq_true_eq] at hvalid
      exact ⟨rfl, hvalid.1.2, hvalid.2⟩
    · cases h
  · rintro ⟨rfl, hlow, hhigh⟩
    rw [if_pos]
    simp only [Bool.and_eq_true, decide_eq_true_eq]
    omega

theorem validMillis_iff {value : Int} : validMillis value = true ↔ 0 ≤ value ∧ value ≤ maxDateMs := by
  constructor
  · intro h
    exact (parsedMillis_eq_some.mp (if_pos h)).2
  · intro h
    have hparsed : parsedMillis value = some value := parsedMillis_eq_some.mpr ⟨rfl, h⟩
    unfold parsedMillis at hparsed
    split at hparsed
    · assumption
    · cases hparsed

section Deadlines
variable {payload : Payload} {expires : Int}

/-- The two deadline tables agree for a cached payload. -/
theorem freshnessDeadline_cache (h : parsedMillis payload.expiresAt = some expires) :
    (freshnessDeadline payload .cache expires (parsedMillis payload.offlineGraceUntil)).bind Prod.fst =
      cacheAuthorityDeadline payload := by
  unfold freshnessDeadline cacheAuthorityDeadline
  rw [h]
  dsimp only
  split
  · rfl
  · rw [if_neg (by decide)]
    split
    · cases payload.subscriptionAccess with
      | none => rfl
      | some access =>
        dsimp only
        cases parsedMillis access.paidThrough with
        | none => rfl
        | some paidThrough =>
          cases parsedMillis access.offlineHardUntil with
          | none => rfl
          | some hard =>
            dsimp only
            by_cases hspan : hard - paidThrough = seventyTwoHours
            · rw [if_neg (not_not.mpr hspan), if_pos hspan]
              rfl
            · rw [if_pos hspan, if_neg hspan]
              rfl
    · split <;> rfl

/-- A payload that may not outlive its expiry has it as its deadline. -/
theorem freshnessDeadline_ineligible {source : Source} {grace deadline : Option Int}
    (h : freshnessDeadline payload source expires grace = some (deadline, false)) :
    deadline = some expires := by
  unfold freshnessDeadline at h
  split at h
  · simp at h
  · split at h
    · simpa using h.symm
    · split at h
      · split at h
        · simpa using h.symm
        · split at h
          · split at h <;> simp at h
          · cases h
      · split at h
        · simp at h
        · simpa using h.symm

theorem cacheAuthorityDeadline_bounds {deadline : Int}
    (h : cacheAuthorityDeadline payload = some deadline) : 0 ≤ deadline ∧ deadline ≤ maxDateMs := by
  unfold cacheAuthorityDeadline at h
  split at h
  · cases h
  · rename_i expiresAt hexpires
    have hself : some expiresAt = some deadline → 0 ≤ deadline ∧ deadline ≤ maxDateMs := by
      intro heq
      exact (parsedMillis_eq_some.mp (hexpires.trans heq)).2
    split at h
    · exact (parsedMillis_eq_some.mp h).2
    · split at h
      · split at h
        · exact hself h
        · split at h
          · rename_i hard hhard
            split at h
            · exact (parsedMillis_eq_some.mp (hhard.trans h)).2
            · cases h
          · cases h
      · split at h
        · exact (parsedMillis_eq_some.mp h).2
        · exact hself h

/-- Where the legacy grace is required it is the deadline. -/
theorem cacheAuthorityDeadline_legacy (h : parsedMillis payload.expiresAt = some expires)
    (hlegacy : legacyGraceRequired payload = true) :
    cacheAuthorityDeadline payload = parsedMillis payload.offlineGraceUntil := by
  unfold cacheAuthorityDeadline
  rw [h]
  dsimp only
  simp only [legacyGraceRequired, Bool.or_eq_true, bne_iff_ne, beq_iff_eq] at hlegacy
  split
  · rfl
  · rcases hlegacy with hcontract | hbasis
    · contradiction
    · rw [hbasis, if_neg (by decide), if_pos rfl]

theorem cacheAuthorityDeadline_expires {deadline : Int}
    (h : cacheAuthorityDeadline payload = some deadline) :
    ∃ expires, parsedMillis payload.expiresAt = some expires := by
  unfold cacheAuthorityDeadline at h
  split at h
  · cases h
  · exact ⟨_, by assumption⟩

end Deadlines

namespace VerifiedPayload
variable (payload : VerifiedPayload)

theorem expires_lt_grace : payload.expiresAt < payload.offlineGraceUntil := by
  have h := payload.accepted
  simp only [Payload.verified, Bool.and_eq_true, decide_eq_true_eq] at h
  exact h.1.2

theorem accountActive : payload.accountStatus = "ACTIVE" := by
  have h := payload.accepted
  simp only [Payload.verified, Bool.and_eq_true, beq_iff_eq] at h
  exact h.1.1.1.1.1.1.1

theorem deviceActive : payload.deviceStatus = "ACTIVE" := by
  have h := payload.accepted
  simp only [Payload.verified, Bool.and_eq_true, beq_iff_eq] at h
  exact h.1.1.1.1.1.1.2

theorem configVersion_valid : isSafeInteger payload.configVersion = true ∧ 0 < payload.configVersion := by
  have h := payload.accepted
  simp only [Payload.verified, Bool.and_eq_true, decide_eq_true_eq] at h
  exact ⟨h.1.1.1.1.1.2, h.1.1.1.1.2⟩

/-- A payload speaks the contract of its snapshot. -/
theorem wireCompatible_iff (config : Package) : wireCompatible config payload.toPayload = true ↔
    payload.contractVersion = .controlPlaneV3 ∨ config.contractVersion = .controlPlaneV2 := by
  have h := payload.accepted
  simp only [Payload.verified, Bool.and_eq_true] at h
  have hpair := h.2
  unfold wireCompatible
  cases hsnapshot : payload.snapshotVersion with
  | bootstrapSnapshotV2 =>
    rw [hsnapshot] at hpair
    have hcontract : payload.contractVersion = .controlPlaneV2 := by simpa using hpair
    rw [hcontract]
    cases config.contractVersion <;> decide
  | bootstrapSnapshotV3 =>
    rw [hsnapshot] at hpair
    simp only [Bool.and_eq_true, beq_iff_eq] at hpair
    simp [hpair.1.1]

/-- A verified payload's grace ends after its expiry. -/
theorem legacyGraceMissing_eq {expires : Int} (h : parsedMillis payload.expiresAt = some expires)
    {deadline : Int} (hdeadline : cacheAuthorityDeadline payload.toPayload = some deadline) :
    legacyGraceMissing payload.toPayload expires (parsedMillis payload.offlineGraceUntil) = false ∧
      (legacyGraceRequired payload.toPayload = true → expires < deadline) := by
  have hlt := payload.expires_lt_grace
  have hexpires := (parsedMillis_eq_some.mp h).1
  unfold legacyGraceMissing
  by_cases hlegacy : legacyGraceRequired payload.toPayload = true
  · have hgrace := (cacheAuthorityDeadline_legacy h hlegacy).symm.trans hdeadline
    have hvalue := (parsedMillis_eq_some.mp hgrace).1
    rw [hlegacy, hgrace]
    simp only [Bool.true_and, decide_eq_false_iff_not]
    exact ⟨by omega, fun _ => by omega⟩
  · exact ⟨by simp [hlegacy], fun h => absurd h hlegacy⟩

end VerifiedPayload

namespace Reading
variable {payload : VerifiedPayload} (reading : Reading payload.toPayload)

/-- The server's time, the clock's two and the effective time are in order. -/
theorem ordered : ∃ server, parsedMillis payload.serverTime = some server ∧ 0 ≤ server ∧
    server ≤ reading.clock.trustedServerTimeMs ∧
    reading.clock.trustedServerTimeMs ≤ reading.clock.effectiveTimeMs ∧
    reading.clock.effectiveTimeMs ≤ maxDateMs ∧ reading.clock.effectiveTimeMs ≤ reading.time := by
  have hvalid := reading.valid
  have hafter := reading.after
  simp only [validCacheClock, Bool.and_eq_true, decide_eq_true_eq, validMillis_iff] at hvalid
  obtain ⟨⟨⟨htrusted, heffective⟩, horder⟩, hserver⟩ := hvalid
  cases hparsed : parsedMillis payload.serverTime with
  | none => simp [hparsed] at hserver
  | some server =>
    rw [hparsed] at hserver
    simp only [Bool.and_eq_true, decide_eq_true_eq] at hserver
    have hbounds := (parsedMillis_eq_some.mp hparsed).2
    exact ⟨server, rfl, hbounds.1, hserver.1, horder, heffective.2, hafter⟩

/-- The evaluator's freshness of a cached payload at a time after its clock. -/
theorem freshness_eq {expires : Int} (h : parsedMillis payload.expiresAt = some expires) :
    freshness payload.toPayload reading.clock reading.time .cache =
      if maxDateMs < reading.time then none
      else
        (freshnessDeadline payload.toPayload .cache expires
          (parsedMillis payload.offlineGraceUntil)).bind fun row => row.1.bind fun deadline =>
            if legacyGraceMissing payload.toPayload expires
              (parsedMillis payload.offlineGraceUntil) then none
            else some (freshnessState reading.time deadline expires row.2, reading.time) := by
  obtain ⟨server, hserver, hzero, htrusted, heffective, hmax, hafter⟩ := reading.ordered
  have hsafe := reading.safe
  have hbound : maxDateMs ≤ maxSafeInteger := by decide
  have hneg : -maxSafeInteger ≤ 0 := by decide
  have hall : ∀ v : Int, 0 ≤ v → v ≤ maxDateMs → isSafeInteger v = true := by
    intro v hlow hhigh
    simp only [isSafeInteger, Bool.and_eq_true, decide_eq_true_eq]
    omega
  have hvalues : [reading.clock.effectiveTimeMs, reading.clock.trustedServerTimeMs, server,
      reading.time].filter isSafeInteger = [reading.clock.effectiveTimeMs,
      reading.clock.trustedServerTimeMs, server, reading.time] := by
    simp [hsafe, hall reading.clock.effectiveTimeMs (by omega) (by omega),
      hall reading.clock.trustedServerTimeMs (by omega) (by omega), hall server (by omega) (by omega)]
  have hlatest : [reading.clock.effectiveTimeMs, reading.clock.trustedServerTimeMs, server,
      reading.time].foldl max 0 = reading.time := by
    simp only [List.foldl_cons, List.foldl_nil]
    omega
  have hrange : [reading.clock.effectiveTimeMs, reading.clock.trustedServerTimeMs, server,
      reading.time].any (fun value => decide (value < 0) || decide (maxDateMs < value)) =
      decide (maxDateMs < reading.time) := by
    have hpos : ¬ reading.time < 0 := by omega
    simp only [List.any_cons, List.any_nil, Bool.or_false]
    rw [decide_eq_false (by omega), decide_eq_false (p := maxDateMs < _) (by omega),
      decide_eq_false (by omega), decide_eq_false (p := maxDateMs < _) (by omega),
      decide_eq_false (by omega), decide_eq_false (p := maxDateMs < _) (by omega),
      decide_eq_false hpos]
    simp
  unfold freshness
  rw [h, hserver]
  dsimp only
  rw [hvalues, hlatest, hrange]
  cases freshnessDeadline payload.toPayload .cache expires
    (parsedMillis payload.offlineGraceUntil) with
  | none => simp
  | some row =>
    obtain ⟨deadline, offlineEligible⟩ := row
    cases deadline with
    | none => simp
    | some deadline => simp

/-- The evaluator lets a cached payload work exactly before its deadline. -/
theorem freshness_iff : (∃ state, (freshness payload.toPayload reading.clock reading.time .cache).map
    Prod.fst = some state ∧ state ≠ .cacheExpired) ↔ WithinDeadline payload.toPayload reading.time := by
  cases hexpires : parsedMillis payload.expiresAt with
  | none =>
    constructor
    · rintro ⟨state, hstate, -⟩
      simp [freshness, hexpires] at hstate
    · rintro ⟨deadline, hdeadline, -⟩
      obtain ⟨expires, hparsed⟩ := cacheAuthorityDeadline_expires hdeadline
      simp [hexpires] at hparsed
  | some expires =>
    have htable := freshnessDeadline_cache hexpires
    rw [reading.freshness_eq hexpires]
    constructor
    · rintro ⟨state, hstate, hne⟩
      split at hstate
      · cases hstate
      · cases hrow : freshnessDeadline payload.toPayload .cache expires
          (parsedMillis payload.offlineGraceUntil) with
        | none => simp [hrow] at hstate
        | some row =>
          obtain ⟨deadline, offlineEligible⟩ := row
          rw [hrow] at hstate htable
          cases deadline with
          | none => simp at hstate
          | some deadline =>
            refine ⟨deadline, htable.symm, ?_⟩
            by_contra hlate
            simp only [Option.bind_some] at hstate
            split at hstate
            · cases hstate
            · have hexpired : freshnessState reading.time deadline expires offlineEligible =
                  .cacheExpired := if_pos (by omega)
              rw [hexpired] at hstate
              exact hne (Option.some.inj hstate).symm
    · rintro ⟨deadline, hdeadline, htime⟩
      have hbounds := cacheAuthorityDeadline_bounds hdeadline
      have hgrace := (payload.legacyGraceMissing_eq hexpires hdeadline).1
      rw [hdeadline] at htable
      cases hrow : freshnessDeadline payload.toPayload .cache expires
        (parsedMillis payload.offlineGraceUntil) with
      | none => simp [hrow] at htable
      | some row =>
        obtain ⟨found, offlineEligible⟩ := row
        rw [hrow] at htable
        obtain rfl : found = some deadline := htable
        refine ⟨freshnessState reading.time deadline expires offlineEligible, ?_, ?_⟩
        · rw [if_neg (by omega), Option.bind_some, Option.bind_some, hgrace]
          rfl
        · unfold freshnessState
          rw [if_neg (by omega)]
          split
          · decide
          · split
            · decide
            · rename_i hstale hineligible
              obtain rfl : offlineEligible = false := by simpa using hineligible
              have hsame := Option.some.inj (freshnessDeadline_ineligible hrow)
              omega

/-- So does the client. -/
theorem authorityBaseValid_iff (config : Package) :
    authorityBaseValid config payload.toPayload reading.time = true ↔
      authorityStaticValid config payload.toPayload = true ∧
        WithinDeadline payload.toPayload reading.time := by
  obtain ⟨server, -, hzero, htrusted, heffective, -, hafter⟩ := reading.ordered
  unfold authorityBaseValid
  constructor
  · intro h
    simp only [Bool.and_eq_true] at h
    refine ⟨h.1.1, ?_⟩
    have htime := h.2
    split at htime
    · rename_i deadline _ hdeadline
      simp only [Bool.and_eq_true, decide_eq_true_eq] at htime
      exact ⟨deadline, hdeadline, htime.2⟩
    · cases htime
  · rintro ⟨hstatic, deadline, hdeadline, htime⟩
    obtain ⟨expires, hexpires⟩ := cacheAuthorityDeadline_expires hdeadline
    have hbounds := cacheAuthorityDeadline_bounds hdeadline
    have hlegacy := (payload.legacyGraceMissing_eq hexpires hdeadline).2
    have hvalid : validMillis reading.time = true := validMillis_iff.mpr ⟨by omega, by omega⟩
    rw [hstatic, hvalid, hexpires, hdeadline]
    simp only [Bool.true_and, Bool.and_eq_true, Bool.or_eq_true, Bool.not_eq_true',
      decide_eq_true_eq]
    refine ⟨?_, htime⟩
    cases hrequired : legacyGraceRequired payload.toPayload with
    | false => exact .inl rfl
    | true => exact .inr (hlegacy hrequired)

end Reading

/-- What both gates ask of a payload besides its versions. -/
structure SharedChecks (payload : Payload) (time : Int) : Prop where
  basis : payload.contractVersion = .controlPlaneV3 → payload.accessBasis ≠ some .none
  extension : payload.extensionStatus ≠ .updateRequired
  browser : payload.browserStatus = .supported
  deadline : WithinDeadline payload time

/-- The client's check of the minimum version. -/
def clientMinimumMet (config : Package) (payload : Payload) : Prop :=
  ∀ minimum, payload.minimumVersion = some minimum →
    versionAtLeast config.extensionVersion.text minimum.text = true

/-- Whether the package and the payload speak one contract, which the evaluator asks of a
`bootstrap_snapshot_v2` alone. -/
def SameContract (config : Package) (payload : Payload) : Prop :=
  payload.contractVersion = .controlPlaneV3 ∨ config.contractVersion = .controlPlaneV2

/-- When the two gates give one verdict: where a shared check refuses; where package and payload
speak one contract and their versions compare alike; and where they do not and the package is older
than the minimum. -/
def SameVerdict (config : Package) (payload : Payload) (time : Int) : Prop :=
  ¬ SharedChecks payload time ∨
    (SameContract config payload ∧
      ∀ minimum, payload.minimumVersion = some minimum →
        VersionsAgree config.extensionVersion minimum) ∨
    (¬ SameContract config payload ∧
      ∃ minimum, payload.minimumVersion = some minimum ∧
        versionAtLeast config.extensionVersion.text minimum.text = false)

theorem extension_allowed {status : ExtensionStatus} :
    [ExtensionStatus.supported, .updateRecommended].contains status = true ↔
      status ≠ .updateRequired := by
  cases status <;> decide

theorem basis_allowed {payload : Payload} :
    (payload.contractVersion != .controlPlaneV3 || payload.accessBasis != some .none) = true ↔
      (payload.contractVersion = .controlPlaneV3 → payload.accessBasis ≠ some .none) := by
  rw [Bool.or_eq_true, bne_iff_ne, bne_iff_ne, ne_eq, ← imp_iff_not_or]

theorem Payload.minimum_cases {payload : Payload} {p : SemVer → Bool} {result : Bool}
    (hnone : payload.minimumVersion = none → result = true)
    (hsome : ∀ minimum, payload.minimumVersion = some minimum → result = p minimum) :
    result = true ↔ ∀ minimum, payload.minimumVersion = some minimum → p minimum = true := by
  cases h : payload.minimumVersion with
  | none => simp [hnone h]
  | some minimum => simp [hsome minimum h]

theorem minimumMet_iff (config : Package) (payload : Payload) : minimumMet config payload = true ↔
    ∀ minimum, payload.minimumVersion = some minimum →
      atLeast config.extensionVersion.text minimum.text = true := by
  apply Payload.minimum_cases
  · intro h
    simp [minimumMet, h]
  · intro minimum h
    simp [minimumMet, h]

namespace Reading
variable {payload : VerifiedPayload} (reading : Reading payload.toPayload) (config : Package)

/-- The client lets a payload work when the shared checks pass and its version is not too old. -/
theorem client_iff : authorityBaseValid config payload.toPayload reading.time = true ↔
    SharedChecks payload.toPayload reading.time ∧ clientMinimumMet config payload.toPayload := by
  have hversion : extensionMinimum config payload.toPayload = true ↔
      clientMinimumMet config payload.toPayload := by
    apply Payload.minimum_cases
    · intro h
      simp [extensionMinimum, h]
    · intro minimum h
      simp [extensionMinimum, h, minimum.parseSemver_eq]
  rw [reading.authorityBaseValid_iff config]
  simp only [authorityStaticValid, payload.accountActive, payload.deviceActive, Bool.and_eq_true,
    basis_allowed, extension_allowed, beq_iff_eq, hversion]
  constructor
  · rintro ⟨⟨⟨⟨⟨⟨hbasis, -⟩, -⟩, hextension⟩, hbrowser⟩, hminimum⟩, hdeadline⟩
    exact ⟨⟨hbasis, hextension, hbrowser, hdeadline⟩, hminimum⟩
  · rintro ⟨hshared, hminimum⟩
    exact ⟨⟨⟨⟨⟨⟨hshared.basis, trivial⟩, trivial⟩, hshared.extension⟩, hshared.browser⟩, hminimum⟩,
      hshared.deadline⟩

/-- The evaluator adds its own check of the contract and has its own comparison of versions. -/
theorem evaluator_iff :
    (workGates config payload.toPayload reading.clock reading.time .cache).hold = true ↔
      SharedChecks payload.toPayload reading.time ∧ SameContract config payload.toPayload ∧
        minimumMet config payload.toPayload = true := by
  have hfresh : ((freshness payload.toPayload reading.clock reading.time .cache).map Prod.fst).isSome =
      true ∧ (freshness payload.toPayload reading.clock reading.time .cache).map Prod.fst ≠
        some .cacheExpired ↔ WithinDeadline payload.toPayload reading.time := by
    rw [← reading.freshness_iff, Option.isSome_iff_exists]
    constructor
    · rintro ⟨⟨state, hstate⟩, hne⟩
      exact ⟨state, hstate, fun heq => hne (heq ▸ hstate)⟩
    · rintro ⟨state, hstate, hne⟩
      exact ⟨⟨state, hstate⟩, fun heq => hne (Option.some.inj (hstate.symm.trans heq))⟩
  have hconfig := payload.configVersion_valid
  simp only [WorkGates.hold, workGates, payload.accountActive, payload.deviceActive, hconfig.1,
    decide_eq_true hconfig.2, Bool.and_eq_true, basis_allowed, extension_allowed, bne_iff_ne,
    beq_iff_eq, payload.wireCompatible_iff config]
  constructor
  · rintro ⟨⟨⟨hsome, ⟨⟨⟨⟨⟨⟨hwire, -⟩, -⟩, -⟩, -⟩, hextension⟩, hminimum⟩, hbrowser⟩, hbasis⟩, hne⟩
    exact ⟨⟨hbasis, hextension, hbrowser, hfresh.mp ⟨hsome, hne⟩⟩, hwire, hminimum⟩
  · rintro ⟨hshared, hwire, hminimum⟩
    obtain ⟨hsome, hne⟩ := hfresh.mpr hshared.deadline
    exact ⟨⟨⟨hsome, ⟨⟨⟨⟨⟨⟨hwire, trivial⟩, trivial⟩, trivial⟩, trivial⟩, hshared.extension⟩, hminimum⟩,
      hshared.browser⟩, hshared.basis⟩, hne⟩

end Reading

/-- The evaluator's gates and the client's check give one verdict on a cached payload exactly under
`SameVerdict`. -/
theorem work_gates_agree_iff (config : Package) (payload : VerifiedPayload)
    (reading : Reading payload.toPayload) :
    ((workGates config payload.toPayload reading.clock reading.time .cache).hold = true ↔
      authorityBaseValid config payload.toPayload reading.time = true) ↔
      SameVerdict config payload.toPayload reading.time := by
  rw [reading.client_iff config, reading.evaluator_iff config, minimumMet_iff]
  unfold SameVerdict clientMinimumMet
  simp only [← versions_agree_iff]
  by_cases hshared : SharedChecks payload.toPayload reading.time
  · by_cases hcontract : SameContract config payload.toPayload
    · cases payload.minimumVersion with
      | none => simp [hshared, hcontract]
      | some minimum =>
        simp only [hshared, hcontract, Option.some.injEq, forall_eq', true_and, not_true_eq_false,
          false_and, or_false, false_or]
        cases versionAtLeast config.extensionVersion.text minimum.text <;> simp
    · cases payload.minimumVersion with
      | none => simp [hshared, hcontract]
      | some minimum => simp [hshared, hcontract]
  · simp [hshared]

/-- A package of version 0.2.4. -/
def releasePackage : Package := ⟨⟨units "0.2.4", by decide⟩, .controlPlaneV2⟩

/-- A payload whose minimum is a prerelease of the packaged version. -/
def prereleaseMinimum : VerifiedPayload where
  snapshotVersion := .bootstrapSnapshotV2
  contractVersion := .controlPlaneV2
  configVersion := 1
  issuedAt := 0
  expiresAt := 2000
  offlineGraceUntil := 3000
  serverTime := 1000
  accessBasis := none
  accountStatus := "ACTIVE"
  subscriptionState := .active
  deviceStatus := "ACTIVE"
  subscriptionAccess := none
  extensionStatus := .supported
  minimumVersion := some ⟨units "0.2.4-alpha.2+build.7", by decide⟩
  browserStatus := .supported
  accepted := by decide

def freshReading : Reading prereleaseMinimum.toPayload := ⟨⟨1000, 1000⟩, by decide, 1000, by decide, by decide⟩

/-- The client works with a minimum that has a prerelease part and the evaluator does not. -/
theorem work_gates_disagree : ¬ ∀ (config : Package) (payload : VerifiedPayload)
    (reading : Reading payload.toPayload),
    ((workGates config payload.toPayload reading.clock reading.time .cache).hold = true ↔
      authorityBaseValid config payload.toPayload reading.time = true) := by
  intro h
  have hclient : authorityBaseValid releasePackage prereleaseMinimum.toPayload freshReading.time =
      true := by decide +kernel
  have hevaluator : (workGates releasePackage prereleaseMinimum.toPayload freshReading.clock
      freshReading.time .cache).hold = false := by decide +kernel
  have hsame := (h releasePackage prereleaseMinimum freshReading).mpr hclient
  rw [hevaluator] at hsame
  cases hsame

end SellerAgents.ControlClient
