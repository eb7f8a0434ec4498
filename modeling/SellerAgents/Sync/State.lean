import SellerAgents.Js.Text

open SellerAgents.Js

namespace SellerAgents.Sync

/-- A field that may be absent or null. -/
abbrev Nullish (α : Type) : Type := Option (Option α)

/-- What an entry of the synchronization is about. -/
inductive SyncKind where
  | BINDING_UPSERT
  | FINISH
  | DELIVERY_MARKER
  | STORE_UPSERT
  | STORE_TOMBSTONE
deriving DecidableEq

inductive Marketplace where
  | ozon
  | wildberries
deriving DecidableEq

inductive BindingState where
  | BOUND
  | FINISHED
deriving DecidableEq

inductive OrderProvenance where
  | AI_ORDERED
  | CLIENT_APPROXIMATE
  | SERVER_RECEIVE_FALLBACK
deriving DecidableEq

inductive ProviderIdentityState where
  | CONFIRMED
  | UNCONFIRMED
deriving DecidableEq

inductive LifecycleState where
  | ACTIVE
  | TOMBSTONED
deriving DecidableEq

inductive PreferredState where
  | UNSET
  | VALID_CURRENT
  | REPLACEMENT_REQUIRED
deriving DecidableEq

/-- `RECONCILIATION_CLASSES`. -/
inductive ReconciliationClass where
  | IN_SYNC
  | SERVER_AHEAD_COMPATIBLE
  | LOCAL_PENDING
  | SAME_BINDING_MERGEABLE
  | EXPLICIT_BINDING_CONFLICT
  | LOCAL_FINISH_SUPERSEDED_BY_NEWER_EXPLICIT_BINDING
  | SERVER_FINISH_WINS_OVER_LATE_DELIVERY
  | STALE_DELIVERY_OBSOLETE
  | REQUIRES_EXPLICIT_USER_REBIND_RESOLUTION
  | UNKNOWN_REMOTE_INSTALLATION_STATE
deriving DecidableEq

/-- `SyncDeliveryOrderSchema`. -/
structure DeliveryOrder where
  aiOrderId : Nullish JsString := none
  clientDeliveredAtMs : Nullish Int := none
  clientSequence : Nullish Nat := none
  orderProvenance : Option OrderProvenance := none
  serverReceiveAtMs : Nullish Int := none
deriving DecidableEq

/-- A delivery marker. The stored ones have no entity, account and conversation. -/
structure Marker where
  installationId : JsString
  entityId : Option JsString
  accountId : Option JsString
  deliveryMarkerId : JsString
  conversationKeyDigest : Option JsString
  bindingId : Option JsString
  bindingRevision : Nat
  storeId : Option JsString
  marketplace : Option Marketplace
  workGeneration : Nullish JsString
  aiOrderId : Nullish JsString
  clientDeliveredAtMs : Nullish Int
  clientSequence : Nullish Nat
  orderProvenance : OrderProvenance
  serverReceiveAtMs : Int
  revoked : Option Bool
deriving DecidableEq

/-- `SyncPreferredSchema`. -/
structure Preferred where
  state : PreferredState
  installationId : Option JsString
  reason : Nullish JsString
deriving DecidableEq

/-- `SyncReconciliationSchema`. -/
structure Reconciliation where
  classification : ReconciliationClass
  preferred : Preferred
  markers : List Marker
  observedInstallationIds : List JsString
  serverReceiveAtMs : Nullish Int
deriving DecidableEq

/-- `SyncStateV1Schema`: the payload of an entry and the state of an entity. -/
structure SyncPayload where
  kind : SyncKind
  conversationKeyDigest : JsString
  bindingId : Option JsString
  bindingRevision : Nat
  storeId : Option JsString
  marketplace : Option Marketplace
  credentialRevision : Option JsString
  deliveryMarkerId : Nullish JsString := none
  bindingState : Option BindingState := none
  workGeneration : Nullish JsString := none
  deliveryOrder : Option DeliveryOrder := none
  reconciliation : Option Reconciliation := none
  name : Option JsString := none
  providerAccountId : Nullish JsString := none
  providerIdentityState : Option ProviderIdentityState := none
  metadataRevision : Option Nat := none
  lifecycleState : Option LifecycleState := none
deriving DecidableEq

/-- `SellerAgentsSyncEntryV1`. -/
structure SyncEntry where
  requestId : JsString
  mutationId : JsString
  entityId : JsString
  baseRevision : Nat
  localSequence : Nat
  mutationGeneration : JsString
  kind : SyncKind
  payload : SyncPayload
deriving DecidableEq

/-- `ExtensionPrincipal`. -/
structure Principal where
  accountId : JsString
  deviceId : JsString
  sessionId : JsString
deriving DecidableEq

/-! The entry schema. -/

def isHexDigit (u : UInt16) : Bool :=
  (48 ≤ u && u ≤ 57) || (97 ≤ u && u ≤ 102) || (65 ≤ u && u ≤ 70)

/-- The 36 units of a UUID text with their class: a dash, the version, the variant or a digit. -/
def isUuidShape (s : JsString) : Bool :=
  s.length = 36 && s.zipIdx.all fun (u, i) =>
    if i = 8 ∨ i = 13 ∨ i = 18 ∨ i = 23 then u = 45
    else if i = 14 then 49 ≤ u && u ≤ 56
    else if i = 19 then u = 56 || u = 57 || u = 97 || u = 98 || u = 65 || u = 66
    else isHexDigit u

/-- `z.uuid()`. -/
def isUuid (s : JsString) : Bool :=
  isUuidShape s || s = units "00000000-0000-0000-0000-000000000000" ||
    s = units "ffffffff-ffff-ffff-ffff-ffffffffffff"

/-- `SyncDigest`. -/
def isSyncDigest (s : JsString) : Bool :=
  s.length = 64 && s.all fun u => (48 ≤ u && u ≤ 57) || (97 ≤ u && u ≤ 102)

/-- `z.string().min(1).max(max)`. -/
def bounded (max : Nat) (s : JsString) : Bool := 1 ≤ s.length && s.length ≤ max

/-- `SyncNullableString(max)`. -/
def nullableString (max : Nat) (s : Option JsString) : Bool := s.all (bounded max)

/-- `SyncNullableString(max).optional()`. -/
def optionalString (max : Nat) (s : Nullish JsString) : Bool := s.all (nullableString max)

/-- `z.number().safe()` on a natural number. -/
def safeNat (n : Nat) : Bool := n ≤ 9007199254740991

/-- `z.number().int().safe()`. -/
def safeInt (n : Int) : Bool := -9007199254740991 ≤ n && n ≤ 9007199254740991

def DeliveryOrder.valid (order : DeliveryOrder) : Bool :=
  optionalString 240 order.aiOrderId && order.clientDeliveredAtMs.all (·.all safeInt) &&
    order.clientSequence.all (·.all safeNat) && order.serverReceiveAtMs.all (·.all safeInt)

/-- `SyncMarkerSchema`. -/
def Marker.valid (marker : Marker) : Bool :=
  isUuid marker.installationId && marker.entityId = none && marker.accountId = none &&
    bounded 128 marker.deliveryMarkerId && marker.conversationKeyDigest = none &&
    nullableString 128 marker.bindingId && safeNat marker.bindingRevision &&
    nullableString 128 marker.storeId && optionalString 160 marker.workGeneration &&
    optionalString 240 marker.aiOrderId && marker.clientDeliveredAtMs.all (·.all safeInt) &&
    marker.clientSequence.all (·.all safeNat) && safeInt marker.serverReceiveAtMs

/-- `/^[A-Z][A-Z0-9_]{0,63}$/`. -/
def isCode (s : JsString) : Bool :=
  s.head?.any (fun u => 65 ≤ u && u ≤ 90) && s.length ≤ 64 &&
    s.all fun u => (65 ≤ u && u ≤ 90) || (48 ≤ u && u ≤ 57) || u = 95

def Reconciliation.valid (reconciliation : Reconciliation) : Bool :=
  reconciliation.preferred.installationId.all isUuid &&
    reconciliation.preferred.reason.all (·.all isCode) &&
    reconciliation.markers.all Marker.valid && reconciliation.markers.length ≤ 8 &&
    reconciliation.observedInstallationIds.all isUuid &&
    reconciliation.observedInstallationIds.length ≤ 16 &&
    reconciliation.serverReceiveAtMs.all (·.all safeInt)

def SyncPayload.valid (payload : SyncPayload) : Bool :=
  isSyncDigest payload.conversationKeyDigest && nullableString 128 payload.bindingId &&
    safeNat payload.bindingRevision && nullableString 128 payload.storeId &&
    nullableString 128 payload.credentialRevision &&
    optionalString 128 payload.deliveryMarkerId && optionalString 160 payload.workGeneration &&
    payload.deliveryOrder.all DeliveryOrder.valid &&
    payload.reconciliation.all Reconciliation.valid && payload.name.all (bounded 80) &&
    optionalString 128 payload.providerAccountId && payload.metadataRevision.all safeNat

def SyncKind.isStore : SyncKind → Bool
  | .STORE_UPSERT | .STORE_TOMBSTONE => true
  | _ => false

/-- `SellerAgentsSyncEntryV1Schema`. -/
def SyncEntry.valid (entry : SyncEntry) : Bool :=
  isUuid entry.requestId && bounded 320 entry.mutationId && bounded 128 entry.entityId &&
    safeNat entry.baseRevision && 1 ≤ entry.localSequence && safeNat entry.localSequence &&
    bounded 320 entry.mutationGeneration && entry.payload.valid &&
    entry.kind = entry.payload.kind &&
    (if entry.kind = .DELIVERY_MARKER then entry.payload.deliveryMarkerId.join.isSome
      else entry.payload.deliveryMarkerId = none) &&
    (if entry.kind.isStore then
      entry.payload.storeId.isSome && entry.payload.name.isSome &&
        entry.payload.providerIdentityState.isSome && entry.payload.metadataRevision.isSome &&
        entry.payload.lifecycleState =
          some (if entry.kind = .STORE_TOMBSTONE then .TOMBSTONED else .ACTIVE) &&
        entry.payload.deliveryOrder = none
    else
      entry.payload.name = none && entry.payload.providerIdentityState = none &&
        entry.payload.metadataRevision = none && entry.payload.lifecycleState = none)

end SellerAgents.Sync
