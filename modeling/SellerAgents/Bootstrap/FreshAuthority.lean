import SellerAgents.Bootstrap.Service
import SellerAgents.Js.Fallible

namespace SellerAgents.Bootstrap

open CommercialAccess (CommercialAccessDependencies CommercialAccessSnapshot accessUntil)
open ControlClient (Package Payload authorityBaseValid cacheAuthorityDeadline parsedMillis)
open Subscriptions (Date SubscriptionSnapshot SubscriptionState)
open ControlClient (Contract maxDateMs SubscriptionAccess parsedMillis_eq_some validMillis_iff
  authorityStaticValid legacyGraceRequired releasePackage)

/-- A subscription's state as a client reads it. -/
def clientSubscriptionState : Option SubscriptionState → ControlClient.SubscriptionState
  | none => .none
  | some .TRIAL => .trial
  | some .ACTIVE => .active
  | some .GRACE => .grace
  | some .PAST_DUE => .pastDue
  | some .CANCELED => .canceled
  | some .EXPIRED => .expired
  | some .SUSPENDED => .suspended

section Issuing

variable {Ai Release Policy Rule : Type} {service : BootstrapService Ai Release Policy Rule}
  {contract : Contract} {subject : BootstrapSubject} {request : BootstrapRequest}
  {envelope : SignedEnvelope Ai Release Policy Rule}
  {snapshot : Snapshot Ai Release Policy Rule}

/-- The payload that a client works with: with the signed compatibility, or with the one that it
projects from the signed local rules. -/
def Snapshot.view (project : LocalClientAuthority Ai Release Policy Rule → Option Compatibility)
    (snapshot : Snapshot Ai Release Policy Rule) : Option Payload :=
  let compatibility := match snapshot.authority with
    | .identified compatibility _ _ => some compatibility
    | .localClient authority => project authority
  compatibility.map fun compatibility =>
    { snapshotVersion := snapshot.snapshotVersion
      contractVersion := snapshot.contractVersion
      configVersion := snapshot.configVersion
      issuedAt := snapshot.issuedAt
      expiresAt := snapshot.expiresAt
      offlineGraceUntil := snapshot.offlineGraceUntil
      serverTime := snapshot.serverTime
      accessBasis := some snapshot.accessBasis
      accountStatus := "ACTIVE"
      subscriptionState := clientSubscriptionState (snapshot.subscription.map Prod.fst)
      deviceStatus := "ACTIVE"
      subscriptionAccess := snapshot.subscriptionAccess
      extensionStatus := compatibility.extensionStatus
      minimumVersion := compatibility.minimumVersion
      browserStatus := compatibility.browserStatus }

/-- The extension and the browser are supported. -/
def GoodStanding (config : Package) (payload : Payload) : Prop :=
  [.supported, .updateRecommended].contains payload.extensionStatus = true ∧
    payload.browserStatus = .supported ∧ ControlClient.extensionMinimum config payload = true

/-- What the access of an account is read as, at the time of the call. -/
def BootstrapService.accessOf (service : BootstrapService Ai Release Policy Rule)
    (accountId : String) : Option Subscriptions.SubscriptionAccessResult :=
  service.commercialAccess.bind fun dependencies =>
    dependencies.accessResolver accountId service.now

/-- An account with beta access, or with an eligible commercial access. -/
def BootstrapService.Eligible (service : BootstrapService Ai Release Policy Rule)
    (accountId : String) : Prop :=
  service.resolveBeta accountId = .ok true ∨
    ∃ access, service.accessOf accountId = some access ∧ access.isEligible = true

/-- What an issued snapshot was made from. -/
structure Issued (service : BootstrapService Ai Release Policy Rule)
    (contract : Contract) (accountId : String)
    (snapshot : Snapshot Ai Release Policy Rule) (commercial : Option CommercialAccessSnapshot)
    (betaEligible : Bool) : Prop where
  resolved : service.resolveCommercial accountId = .ok commercial
  beta : service.resolveBeta accountId = .ok betaEligible
  basis : snapshot.accessBasis =
    accessBasisOf betaEligible (commercial.any (·.access.isEligible))
  issuedAt : snapshot.issuedAt = service.now
  version : snapshot.contractVersion = contract
    ∧ snapshot.snapshotVersion = snapshotVersionOf contract
  window : service.window snapshot.accessBasis commercial =
    .ok (snapshot.expiresAt, snapshot.offlineGraceUntil)
  access : BootstrapService.subscriptionAccess contract snapshot.accessBasis commercial =
    .ok snapshot.subscriptionAccess
  valid : snapshot.isValid = true

theorem issued_of_issue {signer : Option (String → Snapshot Ai Release Policy Rule → Option String)}
    (h : service.issue contract signer subject request = .ok envelope) :
    ∃ commercial betaEligible,
      Issued service contract subject.accountId envelope.payload commercial betaEligible := by
  unfold BootstrapService.issue at h
  split at h
  · cases h
  · cases signer with
    | none => cases h
    | some sign =>
      obtain ⟨commercial, hcommercial, h⟩ := Js.bind_eq_ok.mp h
      obtain ⟨betaEligible, hbeta, h⟩ := Js.bind_eq_ok.mp h
      obtain ⟨⟨expiresAt, offlineGraceUntil⟩, hwindow, h⟩ := Js.bind_eq_ok.mp h
      obtain ⟨access, haccess, h⟩ := Js.bind_eq_ok.mp h
      obtain ⟨entitlements, -, h⟩ := Js.bind_eq_ok.mp h
      obtain ⟨⟨signingKeyId, configVersion, authority⟩, -, h⟩ := Js.bind_eq_ok.mp h
      obtain ⟨payload, hparse, h⟩ := Js.bind_eq_ok.mp h
      have hpayload : envelope.payload = payload := by
        split at h
        · cases h
          rfl
        · cases h
      unfold BootstrapService.parse at hparse
      split at hparse
      · rename_i hvalid
        rw [Bool.and_eq_true] at hvalid
        refine ⟨commercial, betaEligible, ?_⟩
        rw [hpayload]
        cases hparse
        exact ⟨hcommercial, hbeta, rfl, rfl, ⟨rfl, rfl⟩, hwindow, haccess, hvalid.1⟩
      · cases hparse

theorem isoTimestamp_le {value : Int} (h : isoTimestamp value = true) :
    value ≤ maxDateMs := by
  unfold isoTimestamp at h
  rw [Bool.and_eq_true, decide_eq_true_eq, decide_eq_true_eq] at h
  exact h.2.trans (by decide)

/-- What a valid snapshot has of its times. -/
theorem Snapshot.times_of_valid (h : snapshot.isValid = true) :
    snapshot.issuedAt < snapshot.expiresAt ∧ snapshot.expiresAt < snapshot.offlineGraceUntil ∧
      snapshot.offlineGraceUntil ≤ maxDateMs := by
  simp only [Snapshot.isValid, Bool.and_eq_true, decide_eq_true_eq] at h
  obtain ⟨⟨⟨⟨⟨⟨-, hgrace⟩, -⟩, -⟩, hissued⟩, hlt⟩, -⟩ := h
  exact ⟨hissued, hlt, isoTimestamp_le hgrace⟩

/-- A subscription access of a valid v3 snapshot ends three days after what is paid. -/
theorem Snapshot.access_of_valid (h : snapshot.isValid = true)
    (hversion : snapshot.snapshotVersion = .bootstrapSnapshotV3)
    {access : SubscriptionAccess} (haccess : snapshot.subscriptionAccess = some access) :
    access.offlineHardUntil = access.paidThrough + 72 * 60 * 60 * 1000 ∧
      access.offlineHardUntil ≤ maxDateMs := by
  unfold Snapshot.isValid at h
  rw [hversion, Bool.and_eq_true] at h
  have hvalid := h.2
  simp only [reduceCtorEq, decide_false, Bool.false_or, Snapshot.subscriptionAccessValid, haccess,
    Bool.and_eq_true, decide_eq_true_eq] at hvalid
  obtain ⟨⟨⟨-, hhard⟩, hdiff⟩, -⟩ := hvalid
  exact ⟨by omega, isoTimestamp_le hhard⟩

/-- When a payload stops being worked with. -/
def usableUntil (payload : Payload) : Int :=
  if payload.contractVersion = .controlPlaneV3 ∧ payload.accessBasis = some .commercial then
    payload.subscriptionAccess.elim payload.expiresAt (·.offlineHardUntil)
  else payload.offlineGraceUntil


section Deadline

variable {config : Package} {payload : Payload} {t : Int}

theorem cacheAuthorityDeadline_eq {deadline : Int}
    (hbasis : payload.accessBasis = some .beta ∨ payload.accessBasis = some .commercial)
    (h : cacheAuthorityDeadline payload = some deadline) : deadline = usableUntil payload := by
  unfold cacheAuthorityDeadline at h
  unfold usableUntil
  cases hexpires : parsedMillis payload.expiresAt with
  | none =>
    rw [hexpires] at h
    cases h
  | some expiresAt =>
    rw [hexpires] at h
    obtain ⟨rfl, -⟩ := parsedMillis_eq_some.mp hexpires
    dsimp only at h
    split at h
    · rename_i hversion
      rw [if_neg fun hboth => hversion hboth.1]
      exact (parsedMillis_eq_some.mp h).1.symm
    · rename_i hversion
      have hv3 : payload.contractVersion = .controlPlaneV3 := not_not.mp hversion
      split at h
      · rename_i hcommercial
        rw [if_pos ⟨hv3, hcommercial⟩]
        cases hsubscription : payload.subscriptionAccess with
        | none =>
          rw [hsubscription] at h
          cases h
          rfl
        | some access =>
          rw [hsubscription] at h
          dsimp only at h
          split at h
          · rename_i hhard
            split at h
            · cases h
              exact (parsedMillis_eq_some.mp hhard).1.symm
            · cases h
          · cases h
      · rename_i hcommercial
        rw [if_neg fun hboth => hcommercial hboth.2]
        rw [if_pos (hbasis.resolve_right hcommercial)] at h
        exact (parsedMillis_eq_some.mp h).1.symm

/-- A payload is worked with before its end only. -/
theorem lt_usableUntil
    (hbasis : payload.accessBasis = some .beta ∨ payload.accessBasis = some .commercial)
    (h : authorityBaseValid config payload t = true) : t < usableUntil payload := by
  unfold authorityBaseValid at h
  rw [Bool.and_eq_true] at h
  have htimes := h.2
  split at htimes
  · rename_i hdeadline
    rw [Bool.and_eq_true, decide_eq_true_eq] at htimes
    rw [← cacheAuthorityDeadline_eq hbasis hdeadline]
    exact htimes.2
  · cases htimes

theorem nonneg_of_valid (h : authorityBaseValid config payload t = true) : 0 ≤ t := by
  unfold authorityBaseValid at h
  rw [Bool.and_eq_true, Bool.and_eq_true] at h
  exact (validMillis_iff.mp h.1.2).1

/-- A payload with a subscription access is worked with only if what is paid ends after 1970. -/
theorem paidThrough_nonneg (hv3 : payload.contractVersion = .controlPlaneV3)
    (hcommercial : payload.accessBasis = some .commercial)
    {access : SubscriptionAccess} (haccess : payload.subscriptionAccess = some access)
    (h : authorityBaseValid config payload t = true) : 0 ≤ access.paidThrough := by
  unfold authorityBaseValid cacheAuthorityDeadline at h
  rw [hv3, hcommercial, haccess, Bool.and_eq_true] at h
  have hdeadline := h.2
  cases hpaid : parsedMillis access.paidThrough with
  | some paid =>
    obtain ⟨rfl, hnonneg, -⟩ := parsedMillis_eq_some.mp hpaid
    exact hnonneg
  | none =>
    cases hexpires : parsedMillis payload.expiresAt <;> simp [hexpires, hpaid] at hdeadline

/-- A payload whose times are after 1970 is worked with before its end. -/
theorem authorityBaseValid_of_lt
    (hbasis : payload.accessBasis = some .beta ∨ payload.accessBasis = some .commercial)
    (hstatic : authorityStaticValid config payload = true)
    (hexpires : 0 ≤ payload.expiresAt) (hgrace : payload.expiresAt < payload.offlineGraceUntil)
    (hrange : payload.offlineGraceUntil ≤ maxDateMs)
    (haccess : ∀ access ∈ payload.subscriptionAccess, 0 ≤ access.paidThrough ∧
      access.offlineHardUntil = access.paidThrough + 72 * 60 * 60 * 1000 ∧
      access.offlineHardUntil ≤ maxDateMs)
    (ht : 0 ≤ t) (htrange : t ≤ maxDateMs) (hlt : t < usableUntil payload) :
    authorityBaseValid config payload t = true := by
  have hparsed : parsedMillis payload.expiresAt = some payload.expiresAt :=
    parsedMillis_eq_some.mpr ⟨rfl, hexpires, hgrace.le.trans hrange⟩
  have hgraceParsed : parsedMillis payload.offlineGraceUntil = some payload.offlineGraceUntil :=
    parsedMillis_eq_some.mpr ⟨rfl, hexpires.trans hgrace.le, hrange⟩
  have hdeadline : cacheAuthorityDeadline payload = some (usableUntil payload) := by
    unfold cacheAuthorityDeadline usableUntil
    rw [hparsed]
    dsimp only
    by_cases hversion : payload.contractVersion = .controlPlaneV3
    · rw [if_neg (not_not.mpr hversion)]
      by_cases hcommercial : payload.accessBasis = some .commercial
      · rw [if_pos hcommercial, if_pos ⟨hversion, hcommercial⟩]
        cases hsubscription : payload.subscriptionAccess with
        | none => rfl
        | some access =>
          obtain ⟨hpaid, hhard, hhardRange⟩ := haccess access hsubscription
          have hpaidParsed : parsedMillis access.paidThrough = some access.paidThrough :=
            parsedMillis_eq_some.mpr ⟨rfl, hpaid, by omega⟩
          have hhardParsed : parsedMillis access.offlineHardUntil = some access.offlineHardUntil :=
            parsedMillis_eq_some.mpr ⟨rfl, by omega, hhardRange⟩
          dsimp only [Option.elim_some]
          rw [hpaidParsed, hhardParsed]
          dsimp only
          rw [if_pos]
          unfold ControlClient.seventyTwoHours
          omega
      · rw [if_neg hcommercial, if_pos (hbasis.resolve_right hcommercial),
          if_neg fun hboth => hcommercial hboth.2]
        exact hgraceParsed
    · rw [if_pos hversion, if_neg fun hboth => hversion hboth.1]
      exact hgraceParsed
  have hlegacy : legacyGraceRequired payload = true →
      usableUntil payload = payload.offlineGraceUntil := by
    intro hrequired
    unfold usableUntil
    rw [if_neg]
    rintro ⟨hversion, hcommercial⟩
    simp [legacyGraceRequired, hversion, hcommercial] at hrequired
  unfold authorityBaseValid
  rw [hstatic, validMillis_iff.mpr ⟨ht, htrange⟩, hparsed, hdeadline]
  simp only [Bool.and_self, Bool.true_and, Bool.and_eq_true, Bool.or_eq_true, decide_eq_true_eq]
  refine ⟨?_, hlt⟩
  cases hrequired : legacyGraceRequired payload with
  | false => exact .inl rfl
  | true =>
    rw [hlegacy hrequired]
    exact .inr hgrace

end Deadline

/-- The end of the paid period of an access. -/
def periodEnd : Subscriptions.SubscriptionAccessResult → Option Date
  | .INELIGIBLE _ => none
  | .ELIGIBLE _ _ _ _ _ currentPeriodEnd _ => some currentPeriodEnd

section Record

variable {accountId : String} {commercial : Option CommercialAccessSnapshot} {betaEligible : Bool}
  {value : CommercialAccessSnapshot}

theorem resolveCommercial_some (h : service.resolveCommercial accountId = .ok (some value)) :
    service.accessOf accountId = some value.access ∧
      (value.access.isEligible = true → value.accessUntil = accessUntil value.access) := by
  unfold BootstrapService.resolveCommercial at h
  unfold BootstrapService.accessOf
  cases hports : service.commercialAccess with
  | none =>
    rw [hports] at h
    cases h
  | some dependencies =>
    rw [hports] at h
    dsimp only at h
    split at h
    · rename_i found hresolve
      cases h
      obtain ⟨haccess, hrecord⟩ := CommercialAccessDependencies.resolve_ok hresolve
      exact ⟨haccess, fun helig => (hrecord helig).1⟩
    · cases h
    · cases h

theorem resolveCommercial_none (h : service.resolveCommercial accountId = .ok none) :
    service.accessOf accountId = none := by
  unfold BootstrapService.resolveCommercial at h
  unfold BootstrapService.accessOf
  cases hports : service.commercialAccess with
  | none => rfl
  | some dependencies =>
    rw [hports] at h
    dsimp only at h
    split at h <;> cases h

/-- A snapshot for an eligible account is of a basis that allows work. -/
theorem Issued.basis_of_eligible
    (h : Issued service contract accountId snapshot commercial betaEligible)
    (heligible : service.Eligible accountId) :
    snapshot.accessBasis = .beta ∨ snapshot.accessBasis = .commercial := by
  rw [h.basis]
  cases betaEligible with
  | true => exact .inl rfl
  | false =>
    obtain hbeta | ⟨access, haccess, helig⟩ := heligible
    · rw [h.beta] at hbeta
      cases hbeta
    · cases commercial with
      | none =>
        rw [resolveCommercial_none h.resolved] at haccess
        cases haccess
      | some value =>
        rw [(resolveCommercial_some h.resolved).1] at haccess
        cases haccess
        exact .inr (by simp [accessBasisOf, helig])

theorem Issued.commercial_of_basis
    (h : Issued service contract accountId snapshot commercial betaEligible)
    (hbasis : snapshot.accessBasis = .commercial) :
    ∃ value, commercial = some value ∧ value.access.isEligible = true := by
  rw [h.basis] at hbasis
  unfold accessBasisOf at hbasis
  split at hbasis
  · cases hbasis
  · split at hbasis
    · rename_i helig
      cases commercial with
      | none => cases helig
      | some value => exact ⟨value, rfl, helig⟩
    · cases hbasis

theorem commercialWindow_le {now deadline : Date} {window : Date × Date}
    (h : commercialWindow now deadline = some window) : window.2 ≤ deadline := by
  unfold commercialWindow at h
  simp only [Option.bind_eq_bind, Option.bind_eq_some_iff] at h
  obtain ⟨plain, -, offlineGraceUntil, hgrace, expiresAt, -, hwindow⟩ := h
  split at hwindow
  · cases hwindow
    unfold newDate at hgrace
    split at hgrace
    · cases hgrace
      exact min_le_right _ _
    · cases hgrace
  · cases hwindow

/-- A commercial snapshot ends by the end of the access that was read. -/
theorem Issued.grace_le_accessUntil
    (h : Issued service contract accountId snapshot commercial betaEligible)
    (hbasis : snapshot.accessBasis = .commercial) :
    ∃ deadline, (service.accessOf accountId).bind accessUntil = some deadline ∧
      snapshot.offlineGraceUntil ≤ deadline := by
  obtain ⟨value, rfl, helig⟩ := h.commercial_of_basis hbasis
  obtain ⟨haccess, huntil⟩ := resolveCommercial_some h.resolved
  have hwindow := h.window
  rw [hbasis] at hwindow
  unfold BootstrapService.window at hwindow
  dsimp only [Option.bind_some] at hwindow
  rw [huntil helig] at hwindow
  cases hdeadline : accessUntil value.access with
  | none =>
    rw [hdeadline] at hwindow
    cases hwindow
  | some deadline =>
    refine ⟨deadline, by rw [haccess]; exact hdeadline, ?_⟩
    rw [hdeadline] at hwindow
    dsimp only at hwindow
    cases hcapped : commercialWindow service.now deadline with
    | none =>
      rw [hcapped] at hwindow
      cases hwindow
    | some window =>
      rw [hcapped] at hwindow
      cases hwindow
      exact commercialWindow_le hcapped

/-- A subscription access is one of v3, and says until when the record is paid. -/
theorem Issued.paidThrough (h : Issued service contract accountId snapshot commercial betaEligible)
    {access : SubscriptionAccess} (haccess : snapshot.subscriptionAccess = some access) :
    contract = .controlPlaneV3 ∧
      (service.accessOf accountId).bind periodEnd = some access.paidThrough := by
  have hproduced := h.access
  rw [haccess] at hproduced
  unfold BootstrapService.subscriptionAccess at hproduced
  split at hproduced
  · refine ⟨rfl, ?_⟩
    rw [(resolveCommercial_some h.resolved).1]
    unfold commercialSubscriptionAccess at hproduced
    split at hproduced
    · rename_i hread
      split at hproduced
      · cases hproduced
      · rename_i hchecked
        simp only [Bool.or_eq_true, decide_eq_true_eq, not_or, not_not] at hchecked
        split at hproduced
        · dsimp only at hproduced
          split at hproduced
          · cases hproduced
          · cases hproduced
            dsimp only [Option.bind_some]
            rw [hread, hchecked.2]
            rfl
        · cases hproduced
    · cases hproduced
  · cases hproduced
  · cases hproduced

end Record

theorem issued_of_either (h : service.issueV2 subject request = .ok envelope ∨
      service.issueV3 subject request = .ok envelope) :
    ∃ contract commercial betaEligible,
      Issued service contract subject.accountId envelope.payload commercial betaEligible := by
  rcases h with h | h
  · exact ⟨_, issued_of_issue h⟩
  · exact ⟨_, issued_of_issue h⟩

/-- A client view of a snapshot keeps what decides its deadline. -/
theorem Snapshot.view_some
    {project : LocalClientAuthority Ai Release Policy Rule → Option Compatibility}
    {payload : Payload} (h : snapshot.view project = some payload) :
    payload.contractVersion = snapshot.contractVersion ∧ payload.expiresAt = snapshot.expiresAt ∧
      payload.offlineGraceUntil = snapshot.offlineGraceUntil ∧
      payload.accessBasis = some snapshot.accessBasis ∧
      payload.subscriptionAccess = snapshot.subscriptionAccess ∧
      payload.accountStatus = "ACTIVE" ∧ payload.deviceStatus = "ACTIVE" := by
  obtain ⟨compatibility, -, rfl⟩ := Option.map_eq_some_iff.mp h
  exact ⟨rfl, rfl, rfl, rfl, rfl, rfl, rfl⟩

theorem authorityStaticValid_of_good {config : Package} {payload : Payload}
    (hgood : GoodStanding config payload)
    (hbasis : payload.accessBasis = some .beta ∨ payload.accessBasis = some .commercial)
    (haccount : payload.accountStatus = "ACTIVE") (hdevice : payload.deviceStatus = "ACTIVE") :
    authorityStaticValid config payload = true := by
  obtain ⟨hextension, hbrowser, hminimum⟩ := hgood
  have hallowed : (payload.accessBasis != some .none) = true := by
    rcases hbasis with hbasis | hbasis
    · rw [hbasis]
      rfl
    · rw [hbasis]
      rfl
  unfold authorityStaticValid
  rw [hallowed, haccount, hdevice, hextension, hbrowser, hminimum, Bool.or_true]
  rfl

/-- A snapshot for an eligible account. Its client works with it from the time it was issued up to
its expiry exactly when it does not outlive what is paid by more than three days, and otherwise up
to these three days, with times from 1970 on. It does not work with it from the end of the record's
access on under v2, nor from three days after what is paid on. -/
theorem issued_authority_usable (service : BootstrapService Ai Release Policy Rule)
    (subject : BootstrapSubject) (request : BootstrapRequest)
    (envelope : SignedEnvelope Ai Release Policy Rule)
    (project : LocalClientAuthority Ai Release Policy Rule → Option Compatibility)
    (config : Package) (payload : Payload) (h : service.issueV2 subject request = .ok envelope ∨
      service.issueV3 subject request = .ok envelope)
    (hview : envelope.payload.view project = some payload)
    (heligible : service.Eligible subject.accountId) (hgood : GoodStanding config payload) :
    ((∀ t, service.now ≤ t → t < payload.expiresAt → authorityBaseValid config payload t = true) ↔
      0 ≤ service.now ∧ ∀ access ∈ payload.subscriptionAccess, 0 ≤ access.paidThrough ∧
        payload.expiresAt ≤ access.paidThrough + 72 * 60 * 60 * 1000) ∧
    (0 ≤ service.now → ∀ t, service.now ≤ t → t < payload.expiresAt →
      (∀ access ∈ payload.subscriptionAccess,
        0 ≤ access.paidThrough ∧ t < access.paidThrough + 72 * 60 * 60 * 1000) →
      authorityBaseValid config payload t = true) ∧
    (payload.contractVersion = .controlPlaneV2 → ∀ t,
      (payload.offlineGraceUntil ≤ t ∨ payload.accessBasis = some .commercial ∧
        ∃ deadline ≤ t, (service.accessOf subject.accountId).bind accessUntil = some deadline) →
      authorityBaseValid config payload t = false) ∧
    ∀ access ∈ payload.subscriptionAccess,
      (service.accessOf subject.accountId).bind periodEnd = some access.paidThrough ∧
      ∀ t, access.paidThrough + 72 * 60 * 60 * 1000 ≤ t →
        authorityBaseValid config payload t = false := by
  obtain ⟨contract, commercial, betaEligible, hissued⟩ := issued_of_either h
  obtain ⟨hcontract, hexpires, hgrace, hbasis, haccess, haccount, hdevice⟩ :=
    Snapshot.view_some hview
  obtain ⟨hissuedAt, hlt, hrange⟩ := Snapshot.times_of_valid hissued.valid
  rw [hissued.issuedAt, ← hexpires] at hissuedAt
  have hallowed : payload.accessBasis = some .beta ∨ payload.accessBasis = some .commercial := by
    rw [hbasis]
    exact (hissued.basis_of_eligible heligible).imp (congrArg some) (congrArg some)
  have hpaid : ∀ access ∈ payload.subscriptionAccess, payload.contractVersion = .controlPlaneV3 ∧
      payload.accessBasis = some .commercial ∧
      access.offlineHardUntil = access.paidThrough + 72 * 60 * 60 * 1000 ∧
      access.offlineHardUntil ≤ maxDateMs := by
    intro access hmem
    have hsigned : envelope.payload.subscriptionAccess = some access := haccess.symm.trans hmem
    have hv3 := (hissued.paidThrough hsigned).1
    have hversion := hissued.version
    rw [hv3] at hversion
    refine ⟨hcontract.trans hversion.1, ?_, Snapshot.access_of_valid hissued.valid hversion.2 hsigned⟩
    have hproduced := hissued.access
    rw [hsigned, hv3] at hproduced
    rw [hbasis]
    cases hkind : envelope.payload.accessBasis with
    | commercial => rfl
    | _ =>
      rw [hkind] at hproduced
      cases hproduced
  have husable : 0 ≤ service.now → ∀ t, service.now ≤ t → t < payload.expiresAt →
      (∀ access ∈ payload.subscriptionAccess,
        0 ≤ access.paidThrough ∧ t < access.paidThrough + 72 * 60 * 60 * 1000) →
      authorityBaseValid config payload t = true := by
    intro hnow t hfrom hbefore hpaidFor
    have hstatic := authorityStaticValid_of_good hgood hallowed haccount hdevice
    have hexpiresPos : 0 ≤ payload.expiresAt := hnow.trans (hfrom.trans hbefore.le)
    have hgraceLater : payload.expiresAt < payload.offlineGraceUntil := by
      rw [hexpires, hgrace]
      exact hlt
    have hgraceRange : payload.offlineGraceUntil ≤ maxDateMs := by
      rw [hgrace]
      exact hrange
    refine authorityBaseValid_of_lt hallowed hstatic hexpiresPos hgraceLater hgraceRange
      (fun access hmem => ⟨(hpaidFor access hmem).1, (hpaid access hmem).2.2⟩)
      (hnow.trans hfrom) (hbefore.le.trans (hgraceLater.le.trans hgraceRange)) ?_
    unfold usableUntil
    split
    · cases hsubscription : payload.subscriptionAccess with
      | none => exact hbefore
      | some access =>
        rw [Option.elim_some, (hpaid access hsubscription).2.2.1]
        exact (hpaidFor access hsubscription).2
    · exact hbefore.trans hgraceLater
  have hdenied : ∀ access ∈ payload.subscriptionAccess,
      ∀ t, access.paidThrough + 72 * 60 * 60 * 1000 ≤ t →
        authorityBaseValid config payload t = false := by
    intro access hmem t hend
    refine Bool.eq_false_iff.mpr fun hvalid => ?_
    have hused := lt_usableUntil hallowed hvalid
    obtain ⟨hv3, hcommercial, hhard, -⟩ := hpaid access hmem
    have hsubscription : payload.subscriptionAccess = some access := hmem
    unfold usableUntil at hused
    rw [if_pos ⟨hv3, hcommercial⟩, hsubscription, Option.elim_some, hhard] at hused
    exact absurd hused (not_lt.mpr hend)
  refine ⟨⟨fun hall => ?_, fun ⟨hnow, hcondition⟩ t hfrom hbefore => ?_⟩, husable, fun hv2 t hend => ?_,
    fun access hmem => ⟨(hissued.paidThrough (haccess.symm.trans hmem)).2, hdenied access hmem⟩⟩
  · -- The time of issue is one of the times before the expiry.
    have hnow := hall service.now le_rfl hissuedAt
    refine ⟨nonneg_of_valid hnow, fun access hmem => ?_⟩
    obtain ⟨hv3, hcommercial, -⟩ := hpaid access hmem
    refine ⟨paidThrough_nonneg hv3 hcommercial hmem hnow, not_lt.mp fun hhard => ?_⟩
    have hlast := hall (max service.now (access.paidThrough + 72 * 60 * 60 * 1000))
      (le_max_left _ _) (max_lt hissuedAt hhard)
    rw [hdenied access hmem _ (le_max_right _ _)] at hlast
    cases hlast
  · refine husable hnow t hfrom hbefore fun access hmem => ?_
    obtain ⟨hpaidNonneg, hexpiry⟩ := hcondition access hmem
    exact ⟨hpaidNonneg, hbefore.trans_le hexpiry⟩
  · refine Bool.eq_false_iff.mpr fun hvalid => ?_
    have hused := lt_usableUntil hallowed hvalid
    unfold usableUntil at hused
    rw [if_neg fun hboth => by rw [hv2] at hboth; cases hboth.1] at hused
    rcases hend with hend | ⟨hcommercial, deadline, hend, hrecord⟩
    · exact absurd hused (not_lt.mpr hend)
    · have hkind : envelope.payload.accessBasis = .commercial :=
        Option.some.inj (hbasis.symm.trans hcommercial)
      obtain ⟨found, hfound, hle⟩ := hissued.grace_le_accessUntil hkind
      obtain rfl := Option.some.inj (hfound.symm.trans hrecord)
      rw [hgrace] at hused
      exact absurd hused (not_lt.mpr (hle.trans hend))

end Issuing

/-- A grace of thirty days. -/
def graceSubscription : SubscriptionSnapshot where
  id := "subscription"
  accountId := "account"
  state := .GRACE
  stateRevision := 2
  currentPlanRevisionId := "plan"
  boundPriceRevisionId := none
  startedAt := 1700000000000
  currentPeriodStart := 1700000000000
  currentPeriodEnd := 1702592000000
  graceUntil := some 1705184000000
  cancelAtPeriodEnd := false
  canceledAt := none
  suspendedAt := none
  createdAt := 1700000000000
  updatedAt := 1702592000000

def graceAccess : CommercialAccessDependencies where
  accessResolver _ at' :=
    some (Subscriptions.resolveSubscriptionAccess .ACTIVE (some graceSubscription) at')
  bindingAccessResolver _ at' :=
    some (Subscriptions.resolveSubscriptionAccess .ACTIVE (some graceSubscription) at')
  getCurrentSubscription _ := some graceSubscription
  resolveCommercialEntitlements _ _ _ := some [("seller_agents.work", some (.BOOLEAN true))]

def supportedClient : Compatibility where
  extensionStatus := .supported
  minimumVersion := none
  browserStatus := .supported

/-- A service of that account, some time after the paid period. -/
def graceService (later : Int) : BootstrapService Unit Unit Unit Unit where
  now := 1702592000000 + later
  commercialAccess := some graceAccess
  betaAccess := none
  betaCapabilityPermissions := none
  policy _ _ _ :=
    some { signingKeyId := "key", configVersion := 1, compatibility := supportedClient, features := [] }
  aiResolution := none
  localClientAuthority := none
  schemaAccepts _ := true
  signV2 := some fun keyId _ => some keyId
  signV3 := some fun keyId _ => some keyId

def graceSubject : BootstrapSubject where
  accountId := "account"
  deviceId := "device"

def graceRequest : BootstrapRequest where
  deviceId := "device"
  identified := some ("0.2.4", { family := "chrome", version := "126" })
  detectedAi := none

def graceSnapshot (later : Int) : Snapshot Unit Unit Unit Unit where
  snapshotVersion := .bootstrapSnapshotV3
  contractVersion := .controlPlaneV3
  configVersion := 1
  serverTime := 1702592000000 + later
  issuedAt := 1702592000000 + later
  expiresAt := 1702592000000 + later + 900000
  offlineGraceUntil := 1702592000000 + later + 87300000
  accountId := "account"
  accessBasis := .commercial
  subscription := some (.GRACE, "plan")
  entitlements := [("seller_agents.work", .boolean true)]
  subscriptionAccess := some { paidThrough := 1702592000000, offlineHardUntil := 1702851200000 }
  authority := .identified supportedClient [] .UNCONFIGURED

def gracePayload (later : Int) : Payload where
  snapshotVersion := .bootstrapSnapshotV3
  contractVersion := .controlPlaneV3
  configVersion := 1
  issuedAt := 1702592000000 + later
  expiresAt := 1702592000000 + later + 900000
  offlineGraceUntil := 1702592000000 + later + 87300000
  serverTime := 1702592000000 + later
  accessBasis := some .commercial
  accountStatus := "ACTIVE"
  subscriptionState := .grace
  deviceStatus := "ACTIVE"
  subscriptionAccess := some { paidThrough := 1702592000000, offlineHardUntil := 1702851200000 }
  extensionStatus := .supported
  minimumVersion := none
  browserStatus := .supported

/-- A day into the grace, its snapshot is worked with. -/
theorem grace_snapshot_usable :
    authorityBaseValid releasePackage (gracePayload 86400000) 1702678400000 = true :=
  (issued_authority_usable (graceService 86400000) graceSubject graceRequest
    { keyId := "key", payload := graceSnapshot 86400000 } (fun _ => none)
    releasePackage (gracePayload 86400000) (.inr (by decide +kernel))
    (by decide +kernel) (.inr ⟨graceSubscription.eligible, by decide +kernel, rfl⟩)
    ⟨by decide, rfl, rfl⟩).1.mpr ⟨by decide, fun access hmem => by
      obtain rfl := Option.some.inj hmem
      decide⟩ 1702678400000 (by decide) (by decide)

/-- Three days into the grace, a fresh snapshot is not worked with before its expiry. -/
theorem fresh_grace_snapshot_unusable :
    (graceService 259200000).issueV3 graceSubject graceRequest =
        .ok { keyId := "key", payload := graceSnapshot 259200000 } ∧
      (graceSnapshot 259200000).view (fun _ => none) = some (gracePayload 259200000) ∧
      (graceService 259200000).accessOf "account" = some graceSubscription.eligible ∧
      (graceService 259200000).now < (gracePayload 259200000).expiresAt ∧
      authorityBaseValid releasePackage (gracePayload 259200000)
        (graceService 259200000).now = false := by
  decide +kernel

end SellerAgents.Bootstrap
