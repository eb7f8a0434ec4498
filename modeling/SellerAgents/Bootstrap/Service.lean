import SellerAgents.Bootstrap.CommercialAccess
import SellerAgents.ControlClient.WorkGates

namespace SellerAgents.Bootstrap

open CommercialAccess (CommercialAccessDependencies CommercialAccessSnapshot SafeEntitlementMap)
open ControlClient (AccessBasis BrowserStatus Contract ExtensionStatus SemVer SnapshotVersion
  SubscriptionAccess)
open Subscriptions (Date SubscriptionState)

/-- The codes of a `BootstrapError`, and what else is thrown. -/
inductive IssueError where
  | DEVICE_MISMATCH
  | UNAVAILABLE
  | thrown
deriving DecidableEq

structure BootstrapSubject where
  accountId : String
  deviceId : String

structure DetectedAi where
  family : String
  surface : String
  variant : Option String
deriving DecidableEq

structure BrowserIdentity where
  family : String
  version : String

/-- A request; one that names an extension version and a browser is identified. -/
structure BootstrapRequest where
  deviceId : String
  identified : Option (String × BrowserIdentity)
  detectedAi : Option DetectedAi

structure Compatibility where
  extensionStatus : ExtensionStatus
  minimumVersion : Option SemVer
  browserStatus : BrowserStatus
deriving DecidableEq

/-- `BootstrapAiResolutionV1`, with what a resolution service found of an AI. -/
inductive AiResolution (Ai : Type) where
  | UNCONFIGURED
  | NO_PROFILE (detected : DetectedAi)
  | found (value : Ai)
deriving DecidableEq

inductive LocalAi (Ai : Type) where
  | NO_CANDIDATES (detected : DetectedAi)
  | found (value : Ai)
deriving DecidableEq

/-- The rules that a client evaluates by itself; of a policy and of a feature rule the contract is
written out. -/
structure LocalClientAuthority (Ai Release Policy Rule : Type) where
  contractVersion : Contract
  releases : List Release
  policies : List (Contract × Policy)
  featureRules : List (Contract × Rule)
  ai : LocalAi Ai
deriving DecidableEq

/-- What an authority is about: an identified client, or the local rules. -/
inductive SnapshotAuthority (Ai Release Policy Rule : Type) where
  | identified (compatibility : Compatibility) (features : List (String × Bool))
      (ai : AiResolution Ai)
  | localClient (authority : LocalClientAuthority Ai Release Policy Rule)
deriving DecidableEq

/-- A bootstrap snapshot. Its account and its device are active, and its times are what `Date.parse`
returns. -/
structure Snapshot (Ai Release Policy Rule : Type) where
  snapshotVersion : SnapshotVersion
  contractVersion : Contract
  configVersion : Int
  serverTime : Date
  issuedAt : Date
  expiresAt : Date
  offlineGraceUntil : Date
  accountId : String
  accessBasis : AccessBasis
  /-- The state and the plan revision of the subscription. -/
  subscription : Option (SubscriptionState × String)
  entitlements : SafeEntitlementMap
  subscriptionAccess : Option SubscriptionAccess
  authority : SnapshotAuthority Ai Release Policy Rule
deriving DecidableEq

structure SignedEnvelope (Ai Release Policy Rule : Type) where
  keyId : String
  payload : Snapshot Ai Release Policy Rule
deriving DecidableEq

/-- What the policy resolver finds for a client. -/
structure PolicyResult where
  signingKeyId : String
  configVersion : Int
  compatibility : Compatibility
  features : List (String × Bool)

structure MaterializedAuthority (Ai Release Policy Rule : Type) where
  signingKeyId : String
  configVersion : Int
  localClientAuthority : LocalClientAuthority Ai Release Policy Rule

/-- The ports of the service, at one call. A port that is optional in the service is an `Option`,
and none as an answer is a failure or a rejection. -/
structure BootstrapService (Ai Release Policy Rule : Type) where
  now : Date
  commercialAccess : Option CommercialAccessDependencies
  /-- Whether an account has beta access. -/
  betaAccess : Option (String → Option Bool)
  betaCapabilityPermissions : Option SafeEntitlementMap
  policy : BootstrapSubject → String → BrowserIdentity → Option PolicyResult
  aiResolution : Option (BootstrapSubject → String → BrowserIdentity → DetectedAi → Option Ai)
  localClientAuthority : Option (BootstrapSubject → Option DetectedAi →
    Option (MaterializedAuthority Ai Release Policy Rule))
  /-- The checks of the payload schema on what a snapshot holds beside its times, its configuration
  and its subscription access. -/
  schemaAccepts : Snapshot Ai Release Policy Rule → Bool
  /-- The key of the envelope that the signer makes of a payload. -/
  signV2 : Option (String → Snapshot Ai Release Policy Rule → Option String)
  signV3 : Option (String → Snapshot Ai Release Policy Rule → Option String)

/-- `new Date(value)`, where it is valid. -/
def newDate (value : Int) : Option Date :=
  if -ControlClient.maxDateMs ≤ value ∧ value ≤ ControlClient.maxDateMs then some value else none

/-- The end of a snapshot and of its grace, fifteen minutes and a day. -/
def plainWindow (now : Date) : Option (Date × Date) := do
  let expiresAt ← newDate (now + 15 * 60000)
  let offlineGraceUntil ← newDate (expiresAt + 24 * 60 * 60000)
  return (expiresAt, offlineGraceUntil)

/-- The window of a commercial access, which ends by its deadline. -/
def commercialWindow (now deadline : Date) : Option (Date × Date) := do
  let (expiresAt, offlineGraceUntil) ← plainWindow now
  let offlineGraceUntil ← newDate (min offlineGraceUntil deadline)
  let expiresAt ← newDate (min expiresAt (offlineGraceUntil - 1))
  if now < expiresAt ∧ expiresAt < offlineGraceUntil then
    return (expiresAt, offlineGraceUntil)
  else none

/-- What a date can be in a wire timestamp, whose years have four digits. -/
def isoTimestamp (value : Date) : Bool := -62167219200000 ≤ value && value ≤ 253402300799999

section Service

variable {Ai Release Policy Rule : Type}

/-- The subscription states of a paid period. -/
def paidState (state : SubscriptionState) : Bool :=
  state = .ACTIVE || state = .GRACE || state = .CANCELED

/-- The checks of `validateV3Snapshot` on the subscription access. -/
def Snapshot.subscriptionAccessValid (value : Snapshot Ai Release Policy Rule) : Bool :=
  let paidCommercialState := value.accessBasis = .commercial &&
    value.subscription.any fun subscription => paidState subscription.1
  match value.subscriptionAccess with
  | none => !paidCommercialState
  | some access =>
    isoTimestamp access.paidThrough && isoTimestamp access.offlineHardUntil &&
    access.offlineHardUntil - access.paidThrough = 72 * 60 * 60 * 1000 && paidCommercialState

/-- `BootstrapSnapshotPayloadV2Schema` and `BootstrapSnapshotPayloadV3Schema`. -/
def Snapshot.isValid (value : Snapshot Ai Release Policy Rule) : Bool :=
  CommercialAccess.isSafeInteger value.configVersion && 0 < value.configVersion &&
  isoTimestamp value.issuedAt && isoTimestamp value.expiresAt &&
  isoTimestamp value.offlineGraceUntil && isoTimestamp value.serverTime &&
  value.issuedAt ≤ value.serverTime && value.issuedAt < value.expiresAt &&
  value.expiresAt < value.offlineGraceUntil &&
  (value.snapshotVersion = .bootstrapSnapshotV2 || value.subscriptionAccessValid)

/-- The rules of a v2 authority, under the contract of v3. -/
def LocalClientAuthority.asV3 (source : LocalClientAuthority Ai Release Policy Rule) :
    LocalClientAuthority Ai Release Policy Rule where
  contractVersion := .controlPlaneV3
  releases := source.releases
  policies := source.policies.map fun policy => (.controlPlaneV3, policy.2)
  featureRules := source.featureRules.map fun rule => (.controlPlaneV3, rule.2)
  ai := source.ai

def LocalClientAuthority.forContract (contract : Contract)
    (source : LocalClientAuthority Ai Release Policy Rule) :
    LocalClientAuthority Ai Release Policy Rule :=
  match contract with
  | .controlPlaneV2 => source
  | .controlPlaneV3 => source.asV3

def snapshotVersionOf : Contract → SnapshotVersion
  | .controlPlaneV2 => .bootstrapSnapshotV2
  | .controlPlaneV3 => .bootstrapSnapshotV3

def accessBasisOf (betaEligible commercialEligible : Bool) : AccessBasis :=
  if betaEligible then .beta else if commercialEligible then .commercial else .none

/-- The subscription access of a v3 snapshot of a commercial basis. -/
def commercialSubscriptionAccess (commercial : CommercialAccessSnapshot) :
    Except IssueError (Option SubscriptionAccess) :=
  match commercial.currentSubscription, commercial.access with
  | some currentSubscription, .ELIGIBLE _ state _ _ _ currentPeriodEnd _ =>
    if !(state = .TRIAL || paidState state) || currentSubscription.state ≠ state ||
        currentSubscription.currentPeriodEnd ≠ currentPeriodEnd then .error .UNAVAILABLE
    else if paidState state then
      let paidThrough := currentSubscription.currentPeriodEnd
      match newDate (paidThrough + 72 * 60 * 60 * 1000) with
      | none => .error .thrown
      | some offlineHardUntil => .ok (some { paidThrough, offlineHardUntil })
    else .ok none
  | _, _ => .error .UNAVAILABLE

namespace BootstrapService

variable (service : BootstrapService Ai Release Policy Rule)

/-- The commercial access of an account at the time of the call; none where the service has none. -/
def resolveCommercial (accountId : String) : Except IssueError (Option CommercialAccessSnapshot) :=
  match service.commercialAccess with
  | none => .ok none
  | some dependencies =>
    match dependencies.resolve accountId service.now with
    | some (.OK value) => .ok (some value)
    | some _ => .error .UNAVAILABLE
    | none => .error .thrown

def resolveBeta (accountId : String) : Except IssueError Bool :=
  match service.betaAccess with
  | none => .ok false
  | some resolve => (resolve accountId).elim (.error .thrown) .ok

/-- The window of a snapshot of an access basis. -/
def window (accessBasis : AccessBasis) (commercial : Option CommercialAccessSnapshot) :
    Except IssueError (Date × Date) :=
  match accessBasis with
  | .commercial =>
    match commercial.bind (·.accessUntil) with
    | none => .error .thrown
    | some deadline => (commercialWindow service.now deadline).elim (.error .UNAVAILABLE) .ok
  | _ => (plainWindow service.now).elim (.error .thrown) .ok

/-- The subscription access of a snapshot, which a v2 snapshot has not. -/
def subscriptionAccess (contract : Contract) (accessBasis : AccessBasis)
    (commercial : Option CommercialAccessSnapshot) :
    Except IssueError (Option SubscriptionAccess) :=
  match contract, accessBasis, commercial with
  | .controlPlaneV3, .commercial, some commercial => commercialSubscriptionAccess commercial
  | .controlPlaneV3, .commercial, none => .error .UNAVAILABLE
  | _, _, _ => .ok none

/-- `composeSignedEntitlements`. -/
def signedEntitlements (betaEligible : Bool) (commercial : Option CommercialAccessSnapshot) :
    Except IssueError SafeEntitlementMap :=
  let entitlements := match commercial with
    | some value => if value.access.isEligible then value.entitlements else []
    | none => []
  if betaEligible then
    match service.betaCapabilityPermissions with
    | none => .error .thrown
    | some permissions => .ok (permissions.foldl (fun map entry => map.set entry.1 entry.2) entitlements)
  else .ok entitlements

/-- The AI of an identified client. -/
def resolveAi (eligible : Bool) (subject : BootstrapSubject) (extensionVersion : String)
    (browser : BrowserIdentity) (detectedAi : Option DetectedAi) :
    Except IssueError (AiResolution Ai) :=
  match detectedAi with
  | none => .ok .UNCONFIGURED
  | some detected =>
    if !eligible then .ok (.NO_PROFILE detected)
    else
      match service.aiResolution with
      | none => .ok (.NO_PROFILE detected)
      | some resolve =>
        (resolve subject extensionVersion browser detected).elim (.error .UNAVAILABLE)
          fun value => .ok (.found value)

/-- The key to sign with, the configuration and the authority of a request. -/
def authority (contract : Contract) (eligible : Bool) (subject : BootstrapSubject)
    (request : BootstrapRequest) :
    Except IssueError (String × Int × SnapshotAuthority Ai Release Policy Rule) :=
  match request.identified with
  | none =>
    match service.localClientAuthority with
    | none => .error .UNAVAILABLE
    | some materialize =>
      match materialize subject (if eligible then request.detectedAi else none) with
      | none => .error .UNAVAILABLE
      | some materialized =>
        let source := materialized.localClientAuthority.forContract contract
        let localClientAuthority := match request.detectedAi with
          | some detected => if eligible then source else { source with ai := .NO_CANDIDATES detected }
          | none => source
        .ok (materialized.signingKeyId, materialized.configVersion,
          .localClient localClientAuthority)
  | some (extensionVersion, browser) =>
    match service.policy subject extensionVersion browser with
    | none => .error .UNAVAILABLE
    | some result => do
      let ai ← service.resolveAi eligible subject extensionVersion browser request.detectedAi
      return (result.signingKeyId, result.configVersion,
        .identified result.compatibility result.features ai)

/-- `Schema.parse(payload)`. -/
def parse (payload : Snapshot Ai Release Policy Rule) :
    Except IssueError (Snapshot Ai Release Policy Rule) :=
  if payload.isValid && service.schemaAccepts payload then .ok payload else .error .thrown

/-- The steps that `issueV2` and `issueV3` share. -/
def issue (contract : Contract)
    (signer : Option (String → Snapshot Ai Release Policy Rule → Option String))
    (subject : BootstrapSubject) (request : BootstrapRequest) :
    Except IssueError (SignedEnvelope Ai Release Policy Rule) :=
  if request.deviceId ≠ subject.deviceId then .error .DEVICE_MISMATCH
  else
    match signer with
    | none => .error .UNAVAILABLE
    | some sign => do
      let commercial ← service.resolveCommercial subject.accountId
      let betaEligible ← service.resolveBeta subject.accountId
      let commercialEligible := commercial.any (·.access.isEligible)
      let accessBasis := accessBasisOf betaEligible commercialEligible
      let (expiresAt, offlineGraceUntil) ← service.window accessBasis commercial
      let subscriptionAccess ← subscriptionAccess contract accessBasis commercial
      let entitlements ← service.signedEntitlements betaEligible commercial
      let (signingKeyId, configVersion, authority) ←
        service.authority contract (betaEligible || commercialEligible) subject request
      let payload ← service.parse
        { snapshotVersion := snapshotVersionOf contract, contractVersion := contract, configVersion
          serverTime := service.now, issuedAt := service.now, expiresAt, offlineGraceUntil
          accountId := subject.accountId, accessBasis
          subscription := (commercial.bind (·.currentSubscription)).map fun subscription =>
            (subscription.state, subscription.currentPlanRevisionId)
          entitlements, subscriptionAccess, authority }
      if sign signingKeyId payload = some signingKeyId then
        return { keyId := signingKeyId, payload }
      else .error .UNAVAILABLE

def issueV2 (subject : BootstrapSubject) (request : BootstrapRequest) :
    Except IssueError (SignedEnvelope Ai Release Policy Rule) :=
  service.issue .controlPlaneV2 service.signV2 subject request

def issueV3 (subject : BootstrapSubject) (request : BootstrapRequest) :
    Except IssueError (SignedEnvelope Ai Release Policy Rule) :=
  service.issue .controlPlaneV3 service.signV3 subject request

end BootstrapService

end Service

end SellerAgents.Bootstrap
