import SellerAgents.Ranking.Retention
import SellerAgents.Sync.State

open SellerAgents.Js Ranking

namespace SellerAgents.Sync

/-- The codes of a result. -/
inductive ResultCode where
  | reconciliation (code : ReconciliationClass)
  | IN_SYNC
  | STORE_METADATA_INVALID
  | STORE_TOMBSTONE_DOMINATES
  | STORE_PROVIDER_IDENTITY_MISMATCH
  | STORE_STALE_REVISION
  | SYNC_CONFLICT
deriving DecidableEq

inductive Outcome where
  | ACK
  | CONFLICT
deriving DecidableEq

/-- `SyncRepositoryResult`. -/
structure SyncResult where
  outcome : Outcome
  serverRevision : Nat
  serverState : Option SyncPayload
  code : Option ResultCode
deriving DecidableEq

/-- `explicit` on a payload that is not null. -/
def isExplicit (payload : SyncPayload) : Bool :=
  payload.kind = .BINDING_UPSERT || payload.kind = .FINISH

def stateKind (payload : SyncPayload) : BindingState :=
  payload.bindingState.getD (if payload.kind = .FINISH then .FINISHED else .BOUND)

def marketplaceName : Marketplace → JsString
  | .ozon => units "ozon"
  | .wildberries => units "wildberries"

def bindingStateName : BindingState → JsString
  | .BOUND => units "BOUND"
  | .FINISHED => units "FINISHED"

/-- The parts of an effective binding; a null or absent one joins as an empty text. -/
def identityParts (payload : SyncPayload) (accountId entityId : JsString) : List JsString :=
  [accountId, entityId, payload.conversationKeyDigest, payload.bindingId.getD [],
    units (toString payload.bindingRevision), payload.storeId.getD [],
    (payload.marketplace.map marketplaceName).getD [], payload.credentialRevision.getD [],
    payload.workGeneration.join.getD [], bindingStateName (stateKind payload)]

def identity (payload : SyncPayload) (accountId entityId : JsString) : JsString :=
  List.intercalate (units "|") (identityParts payload accountId entityId)

def sameEffectiveBinding (left right : SyncPayload) (accountId entityId : JsString) : Bool :=
  identity left accountId entityId = identity right accountId entityId

/-- `markerEligible` on a state that is not null. -/
def markerEligible (marker : Marker) (current : SyncPayload) (accountId entityId : JsString) : Bool :=
  if !isExplicit current || stateKind current = .FINISHED then false
  else if accountId ≠ [] ∧ marker.accountId ≠ none ∧ marker.accountId ≠ some accountId then false
  else if entityId ≠ [] ∧ marker.entityId ≠ none ∧ marker.entityId ≠ some entityId then false
  else
    marker.conversationKeyDigest = some current.conversationKeyDigest &&
      marker.bindingId = current.bindingId && marker.bindingRevision = current.bindingRevision &&
      marker.storeId = current.storeId && marker.marketplace = current.marketplace &&
      orNull marker.workGeneration.join = orNull current.workGeneration.join

/-- `provenance`, from the fields it reads; the declared provenance never decides. -/
def provenance (aiOrderId : Nullish JsString) (clientDeliveredAtMs : Nullish Int)
    (clientSequence : Nullish Nat) : OrderProvenance :=
  if truthy aiOrderId.join then .AI_ORDERED
  else if clientDeliveredAtMs.join.isSome || clientSequence.join.isSome then .CLIENT_APPROXIMATE
  else .SERVER_RECEIVE_FALLBACK

def Marker.provenance (marker : Marker) : OrderProvenance :=
  Sync.provenance marker.aiOrderId marker.clientDeliveredAtMs marker.clientSequence

/-- `marker.clientDeliveredAtMs ?? Number.NEGATIVE_INFINITY`: none is below every number. -/
def deliveredAt (marker : Marker) : Option Int := marker.clientDeliveredAtMs.join

/-- `marker.clientSequence ?? -1`. -/
def sequenceOf (marker : Marker) : Int := (marker.clientSequence.join.map Int.ofNat).getD (-1)

section Compare

-- `left.localeCompare(right, "en", { numeric: true })`.
variable (localeCompare : JsString → JsString → Ordering)

def compareText (left right : Option JsString) : Ordering :=
  localeCompare (left.getD []) (right.getD [])

def compareDeliveryMarkers (left right : Marker) : Ordering :=
  let tie := (localeCompare left.installationId right.installationId).then
    (localeCompare left.deliveryMarkerId right.deliveryMarkerId)
  if left.provenance = .AI_ORDERED then
    if right.provenance = .AI_ORDERED then
      (compareText localeCompare left.aiOrderId.join right.aiOrderId.join).then tie
    else .gt
  else if right.provenance = .AI_ORDERED then .lt
  else
    (compare (deliveredAt left) (deliveredAt right)).then
      ((compare (sequenceOf left) (sequenceOf right)).then
        ((compare left.serverReceiveAtMs right.serverReceiveAtMs).then tie))

/-- `left` does not come after `right`. -/
def MarkerLe (left right : Marker) : Prop := (compareDeliveryMarkers localeCompare left right).isLE

instance : DecidableRel (MarkerLe localeCompare) :=
  fun _ _ => inferInstanceAs (Decidable (_ = true))

end Compare

def markersOf (state : SyncPayload) : List Marker :=
  (state.reconciliation.map Reconciliation.markers).getD []

def preferredOf (state : SyncPayload) : Preferred :=
  (state.reconciliation.map Reconciliation.preferred).getD ⟨.UNSET, none, none⟩

section Reconcile

variable (localeCompare : JsString → JsString → Ordering)

def preferredDecision (state : SyncPayload) (candidates : List Marker)
    (actingInstallationId : JsString) (revokedInstallationIds : List JsString) : Preferred :=
  let prior := preferredOf state
  if truthy prior.installationId && prior.state = .VALID_CURRENT &&
      !prior.installationId.any (revokedInstallationIds.contains ·) then
    ⟨.VALID_CURRENT, prior.installationId, some (some (units "VALID_CURRENT"))⟩
  else
    let eligible := candidates.filter fun marker =>
      marker.revoked ≠ some true && markerEligible marker state [] state.conversationKeyDigest
    match (eligible.insertionSort (MarkerLe localeCompare)).getLast? with
    | some selected =>
      ⟨.VALID_CURRENT, some selected.installationId,
        some (some (units (if truthy prior.installationId then "REPLACEMENT_REQUIRED"
          else "INITIALIZE_UNSET")))⟩
    | none =>
      ⟨.VALID_CURRENT, orNull (orElse (some actingInstallationId) prior.installationId),
        some (some (units (if truthy prior.installationId then "NO_ELIGIBLE_REPLACEMENT"
          else "EXPLICIT_ACTOR")))⟩

/-- What is stored of a marker. -/
def Marker.projected (marker : Marker) : Marker where
  installationId := marker.installationId
  entityId := none
  accountId := none
  deliveryMarkerId := marker.deliveryMarkerId
  conversationKeyDigest := none
  bindingId := marker.bindingId
  bindingRevision := marker.bindingRevision
  storeId := marker.storeId
  marketplace := marker.marketplace
  workGeneration := some (orNull marker.workGeneration.join)
  aiOrderId := some (orNull marker.aiOrderId.join)
  clientDeliveredAtMs := some marker.clientDeliveredAtMs.join
  clientSequence := some marker.clientSequence.join
  orderProvenance := marker.provenance
  serverReceiveAtMs := marker.serverReceiveAtMs
  revoked := marker.revoked

/-- `[...new Set([...prior, acting].filter(Boolean))].sort().slice(-16)`. -/
def observed (prior : List JsString) (actingInstallationId : JsString) : List JsString :=
  takeLast 16 ((((prior ++ [actingInstallationId]).filter (· ≠ [])).eraseDups).insertionSort (· ≤ ·))

/-- `reconciliation`, with the preferred executor the caller hands over. -/
def reconciled (state : SyncPayload) (classification : ReconciliationClass)
    (markers : List Marker) (actingInstallationId : JsString) (receiveAtMs : Int)
    (preferred : Preferred) : SyncPayload :=
  { state with
    reconciliation := some
      { classification := classification
        preferred := preferred
        markers := (takeLast 4 markers).map Marker.projected
        observedInstallationIds :=
          observed ((state.reconciliation.map Reconciliation.observedInstallationIds).getD [])
            actingInstallationId
        serverReceiveAtMs := some (some receiveAtMs) } }

def sanitizeExplicit (entry : SyncEntry) : SyncPayload :=
  { entry.payload with
    kind := entry.kind
    bindingState := some (if entry.kind = .FINISH then .FINISHED else .BOUND)
    deliveryMarkerId := none
    deliveryOrder := none
    reconciliation := none }

def markerFrom (entry : SyncEntry) (principal : Principal) (receiveAtMs : Int) : Marker :=
  let order := entry.payload.deliveryOrder.getD {}
  { installationId := principal.deviceId
    entityId := some entry.entityId
    accountId := some principal.accountId
    deliveryMarkerId :=
      (orElse entry.payload.deliveryMarkerId.join (some entry.mutationId)).getD []
    conversationKeyDigest := some entry.payload.conversationKeyDigest
    bindingId := entry.payload.bindingId
    bindingRevision := entry.payload.bindingRevision
    storeId := entry.payload.storeId
    marketplace := entry.payload.marketplace
    workGeneration := some (orNull entry.payload.workGeneration.join)
    aiOrderId := order.aiOrderId
    clientDeliveredAtMs := order.clientDeliveredAtMs
    clientSequence := order.clientSequence
    orderProvenance := provenance order.aiOrderId order.clientDeliveredAtMs order.clientSequence
    serverReceiveAtMs := receiveAtMs
    revoked := none }

/-- `storeStateFromEntry`; a missing revision is `NaN` there and none here. -/
def storeStateFromEntry (entry : SyncEntry) : SyncPayload :=
  let confirmed := entry.payload.providerIdentityState = some .CONFIRMED
  { kind := entry.kind
    conversationKeyDigest := entry.payload.conversationKeyDigest
    bindingId := none
    bindingRevision := 0
    storeId := entry.payload.storeId
    marketplace := entry.payload.marketplace
    credentialRevision := orNull entry.payload.credentialRevision
    name := entry.payload.name
    providerAccountId :=
      some (if confirmed then orNull entry.payload.providerAccountId.join else none)
    providerIdentityState := some (if confirmed then .CONFIRMED else .UNCONFIRMED)
    metadataRevision := entry.payload.metadataRevision
    lifecycleState := some (if entry.kind = .STORE_TOMBSTONE then .TOMBSTONED else .ACTIVE) }

def sameStoreState (left right : SyncPayload) : Bool :=
  left.kind = right.kind && left.storeId = right.storeId && left.marketplace = right.marketplace &&
    left.name = right.name && left.providerAccountId = right.providerAccountId &&
    left.providerIdentityState = right.providerIdentityState &&
    left.credentialRevision = right.credentialRevision &&
    left.metadataRevision = right.metadataRevision && left.lifecycleState = right.lifecycleState

def applyStoreMetadataEntry (current : Option SyncPayload) (serverRevision : Nat)
    (entry : SyncEntry) : SyncResult :=
  let desired := storeStateFromEntry entry
  if !truthy desired.storeId ||
      some entry.entityId ≠ desired.storeId.map (units "store:" ++ ·) ||
      desired.marketplace.isNone || !truthy desired.name ||
      !desired.metadataRevision.any safeNat then
    ⟨.CONFLICT, serverRevision, current, some .STORE_METADATA_INVALID⟩
  else
    match current with
    | none => ⟨.ACK, serverRevision + 1, some desired, none⟩
    | some current =>
      if !current.kind.isStore || current.storeId ≠ desired.storeId ||
          current.marketplace ≠ desired.marketplace then
        ⟨.CONFLICT, serverRevision, some current, some .STORE_METADATA_INVALID⟩
      else if current.lifecycleState = some .TOMBSTONED then
        if desired.lifecycleState = some .TOMBSTONED then
          ⟨.ACK, serverRevision, some current, some .IN_SYNC⟩
        else ⟨.CONFLICT, serverRevision, some current, some .STORE_TOMBSTONE_DOMINATES⟩
      else if entry.baseRevision ≠ serverRevision then
        if sameStoreState desired current then
          ⟨.ACK, serverRevision, some current, some .IN_SYNC⟩
        else ⟨.CONFLICT, serverRevision, some current, some .SYNC_CONFLICT⟩
      else if current.providerIdentityState = some .CONFIRMED &&
          desired.providerIdentityState = some .CONFIRMED &&
          current.providerAccountId ≠ desired.providerAccountId then
        ⟨.CONFLICT, serverRevision, some current, some .STORE_PROVIDER_IDENTITY_MISMATCH⟩
      else if desired.metadataRevision.getD 0 < current.metadataRevision.getD 0 then
        ⟨.CONFLICT, serverRevision, some current, some .STORE_STALE_REVISION⟩
      else if current.providerIdentityState = some .CONFIRMED then
        ⟨.ACK, serverRevision + 1,
          some { desired with
            providerIdentityState := some .CONFIRMED
            providerAccountId := some (orNull current.providerAccountId.join) }, none⟩
      else ⟨.ACK, serverRevision + 1, some desired, none⟩

/-- The `DELIVERY_MARKER` branch of `applyReconciliationEntry` on a current state. -/
def applyDeliveryMarker (current : SyncPayload) (serverRevision : Nat) (entry : SyncEntry)
    (principal : Principal) (receiveAtMs : Int) (revokedInstallationIds : List JsString) :
    SyncResult :=
  let marker := markerFrom entry principal receiveAtMs
  if !markerEligible marker current principal.accountId entry.entityId then
    let classified : ReconciliationClass :=
      if stateKind current = .FINISHED then .SERVER_FINISH_WINS_OVER_LATE_DELIVERY
      else .STALE_DELIVERY_OBSOLETE
    ⟨.ACK, serverRevision,
      some (reconciled current classified (markersOf current) principal.deviceId receiveAtMs
        (preferredOf current)),
      some (.reconciliation classified)⟩
  else
    let markers := keepGreatest (MarkerLe localeCompare) Marker.installationId 4
      (markersOf current) marker
    ⟨.ACK, serverRevision,
      some (reconciled current .IN_SYNC markers principal.deviceId receiveAtMs
        (preferredDecision localeCompare current markers principal.deviceId
          revokedInstallationIds)),
      none⟩

/-- The last branches of `applyReconciliationEntry`, for an explicit binding entry. -/
def applyExplicitEntry (current : Option SyncPayload) (serverRevision : Nat) (entry : SyncEntry)
    (principal : Principal) (receiveAtMs : Int) : SyncResult :=
  let desired := sanitizeExplicit entry
  let kept (state : SyncPayload) (classification : ReconciliationClass) : SyncPayload :=
    reconciled state classification (markersOf state) principal.deviceId receiveAtMs
      (preferredOf state)
  let accepted : SyncResult :=
    ⟨.ACK, serverRevision + 1,
      some (reconciled desired .IN_SYNC [] principal.deviceId receiveAtMs
        ⟨.VALID_CURRENT, some principal.deviceId,
          some (some (units "EXPLICIT_ACCEPTED_BINDING_ACTION"))⟩),
      none⟩
  match current with
  | none => accepted
  | some current =>
    if entry.baseRevision ≠ serverRevision then
      if sameEffectiveBinding desired current principal.accountId entry.entityId then
        ⟨.ACK, serverRevision, some (kept current .SAME_BINDING_MERGEABLE),
          some (.reconciliation .SAME_BINDING_MERGEABLE)⟩
      else
        ⟨.CONFLICT, serverRevision, some (kept current .EXPLICIT_BINDING_CONFLICT),
          some (.reconciliation .EXPLICIT_BINDING_CONFLICT)⟩
    else if sameEffectiveBinding desired current principal.accountId entry.entityId then
      ⟨.ACK, serverRevision, some (kept current .IN_SYNC), none⟩
    else if desired.bindingRevision ≤ current.bindingRevision then
      ⟨.CONFLICT, serverRevision, some (kept current .EXPLICIT_BINDING_CONFLICT),
        some (.reconciliation .EXPLICIT_BINDING_CONFLICT)⟩
    else accepted

def applyReconciliationEntry (current : Option SyncPayload) (serverRevision : Nat)
    (entry : SyncEntry) (principal : Principal) (receiveAtMs : Int)
    (revokedInstallationIds : List JsString) : SyncResult :=
  match entry.kind with
  | .STORE_UPSERT | .STORE_TOMBSTONE => applyStoreMetadataEntry current serverRevision entry
  | .DELIVERY_MARKER =>
    match current with
    | none => ⟨.ACK, serverRevision, none,
        some (.reconciliation .UNKNOWN_REMOTE_INSTALLATION_STATE)⟩
    | some current =>
      applyDeliveryMarker localeCompare current serverRevision entry principal receiveAtMs
        revokedInstallationIds
  | .BINDING_UPSERT | .FINISH =>
    applyExplicitEntry current serverRevision entry principal receiveAtMs

end Reconcile

end SellerAgents.Sync
