import SellerAgents.Js.Value
import SellerAgents.Sync.MarkerRetention

open SellerAgents.Js Ranking

namespace SellerAgents.Sync

/-! UTF-8 lengths of JSON texts. `gap` is the length of the space after a colon and a comma:
none in `JSON.stringify`, one in the text of a `jsonb` value. -/

def decimalBytes (n : Nat) : Nat := Nat.log 10 n + 1

def intBytes (n : Int) : Nat := (if n < 0 then 1 else 0) + decimalBytes n.natAbs

def nameBytes (name : String) : Nat := quotedBytes (units name)

/-- The length of a value or of `null`. -/
def orNullBytes {α : Type} (bytes : α → Nat) : Option α → Nat
  | some value => bytes value
  | none => 4

/-- The length of a field with the comma before it; a field without a value is left out. -/
def fieldBytes (gap : Nat) (field : String × Option Nat) : Nat :=
  match field.2 with
  | some value => field.1.length + 4 + 2 * gap + value
  | none => 0

/-- The length of an object with at least one field. -/
def objectBytes (gap : Nat) (fields : List (String × Option Nat)) : Nat :=
  (fields.map (fieldBytes gap)).sum + 1 - gap

def arrayBytes (gap : Nat) : List Nat → Nat
  | [] => 2
  | first :: rest => 2 + first + (rest.map (1 + gap + ·)).sum

def SyncKind.bytes : SyncKind → Nat
  | .BINDING_UPSERT => nameBytes "BINDING_UPSERT"
  | .FINISH => nameBytes "FINISH"
  | .DELIVERY_MARKER => nameBytes "DELIVERY_MARKER"
  | .STORE_UPSERT => nameBytes "STORE_UPSERT"
  | .STORE_TOMBSTONE => nameBytes "STORE_TOMBSTONE"

def Marketplace.bytes (marketplace : Marketplace) : Nat := quotedBytes (marketplaceName marketplace)

def BindingState.bytes (state : BindingState) : Nat := quotedBytes (bindingStateName state)

def OrderProvenance.bytes : OrderProvenance → Nat
  | .AI_ORDERED => nameBytes "AI_ORDERED"
  | .CLIENT_APPROXIMATE => nameBytes "CLIENT_APPROXIMATE"
  | .SERVER_RECEIVE_FALLBACK => nameBytes "SERVER_RECEIVE_FALLBACK"

def ProviderIdentityState.bytes : ProviderIdentityState → Nat
  | .CONFIRMED => nameBytes "CONFIRMED"
  | .UNCONFIRMED => nameBytes "UNCONFIRMED"

def LifecycleState.bytes : LifecycleState → Nat
  | .ACTIVE => nameBytes "ACTIVE"
  | .TOMBSTONED => nameBytes "TOMBSTONED"

def PreferredState.bytes : PreferredState → Nat
  | .UNSET => nameBytes "UNSET"
  | .VALID_CURRENT => nameBytes "VALID_CURRENT"
  | .REPLACEMENT_REQUIRED => nameBytes "REPLACEMENT_REQUIRED"

def ReconciliationClass.bytes : ReconciliationClass → Nat
  | .IN_SYNC => nameBytes "IN_SYNC"
  | .SERVER_AHEAD_COMPATIBLE => nameBytes "SERVER_AHEAD_COMPATIBLE"
  | .LOCAL_PENDING => nameBytes "LOCAL_PENDING"
  | .SAME_BINDING_MERGEABLE => nameBytes "SAME_BINDING_MERGEABLE"
  | .EXPLICIT_BINDING_CONFLICT => nameBytes "EXPLICIT_BINDING_CONFLICT"
  | .LOCAL_FINISH_SUPERSEDED_BY_NEWER_EXPLICIT_BINDING =>
    nameBytes "LOCAL_FINISH_SUPERSEDED_BY_NEWER_EXPLICIT_BINDING"
  | .SERVER_FINISH_WINS_OVER_LATE_DELIVERY => nameBytes "SERVER_FINISH_WINS_OVER_LATE_DELIVERY"
  | .STALE_DELIVERY_OBSOLETE => nameBytes "STALE_DELIVERY_OBSOLETE"
  | .REQUIRES_EXPLICIT_USER_REBIND_RESOLUTION =>
    nameBytes "REQUIRES_EXPLICIT_USER_REBIND_RESOLUTION"
  | .UNKNOWN_REMOTE_INSTALLATION_STATE => nameBytes "UNKNOWN_REMOTE_INSTALLATION_STATE"

def DeliveryOrder.bytes (gap : Nat) (order : DeliveryOrder) : Nat :=
  let fields :=
    [("aiOrderId", order.aiOrderId.map (orNullBytes quotedBytes)),
      ("clientDeliveredAtMs", order.clientDeliveredAtMs.map (orNullBytes intBytes)),
      ("clientSequence", order.clientSequence.map (orNullBytes decimalBytes)),
      ("orderProvenance", order.orderProvenance.map OrderProvenance.bytes),
      ("serverReceiveAtMs", order.serverReceiveAtMs.map (orNullBytes intBytes))]
  if fields.all (·.2.isNone) then 2 else objectBytes gap fields

def Marker.fields (marker : Marker) : List (String × Option Nat) :=
  [("installationId", some (quotedBytes marker.installationId)),
    ("entityId", marker.entityId.map quotedBytes),
    ("accountId", marker.accountId.map quotedBytes),
    ("deliveryMarkerId", some (quotedBytes marker.deliveryMarkerId)),
    ("conversationKeyDigest", marker.conversationKeyDigest.map quotedBytes),
    ("bindingId", some (orNullBytes quotedBytes marker.bindingId)),
    ("bindingRevision", some (decimalBytes marker.bindingRevision)),
    ("storeId", some (orNullBytes quotedBytes marker.storeId)),
    ("marketplace", some (orNullBytes Marketplace.bytes marker.marketplace)),
    ("workGeneration", marker.workGeneration.map (orNullBytes quotedBytes)),
    ("aiOrderId", marker.aiOrderId.map (orNullBytes quotedBytes)),
    ("clientDeliveredAtMs", marker.clientDeliveredAtMs.map (orNullBytes intBytes)),
    ("clientSequence", marker.clientSequence.map (orNullBytes decimalBytes)),
    ("orderProvenance", some marker.orderProvenance.bytes),
    ("serverReceiveAtMs", some (intBytes marker.serverReceiveAtMs)),
    ("revoked", marker.revoked.map fun revoked => if revoked then 4 else 5)]

def Marker.bytes (gap : Nat) (marker : Marker) : Nat := objectBytes gap marker.fields

def Preferred.bytes (gap : Nat) (preferred : Preferred) : Nat :=
  objectBytes gap
    [("state", some preferred.state.bytes),
      ("installationId", some (orNullBytes quotedBytes preferred.installationId)),
      ("reason", preferred.reason.map (orNullBytes quotedBytes))]

def Reconciliation.fields (gap : Nat) (reconciliation : Reconciliation) :
    List (String × Option Nat) :=
  [("classification", some reconciliation.classification.bytes),
    ("preferred", some (reconciliation.preferred.bytes gap)),
    ("markers", some (arrayBytes gap (reconciliation.markers.map (Marker.bytes gap)))),
    ("observedInstallationIds",
      some (arrayBytes gap (reconciliation.observedInstallationIds.map quotedBytes))),
    ("serverReceiveAtMs", reconciliation.serverReceiveAtMs.map (orNullBytes intBytes))]

def Reconciliation.bytes (gap : Nat) (reconciliation : Reconciliation) : Nat :=
  objectBytes gap (reconciliation.fields gap)

def SyncPayload.explicitFields (gap : Nat) (state : SyncPayload) : List (String × Option Nat) :=
  [("kind", some state.kind.bytes),
    ("conversationKeyDigest", some (quotedBytes state.conversationKeyDigest)),
    ("bindingId", some (orNullBytes quotedBytes state.bindingId)),
    ("bindingRevision", some (decimalBytes state.bindingRevision)),
    ("storeId", some (orNullBytes quotedBytes state.storeId)),
    ("marketplace", some (orNullBytes Marketplace.bytes state.marketplace)),
    ("credentialRevision", some (orNullBytes quotedBytes state.credentialRevision)),
    ("deliveryMarkerId", state.deliveryMarkerId.map (orNullBytes quotedBytes)),
    ("bindingState", state.bindingState.map BindingState.bytes),
    ("workGeneration", state.workGeneration.map (orNullBytes quotedBytes)),
    ("deliveryOrder", state.deliveryOrder.map (DeliveryOrder.bytes gap)),
    ("name", state.name.map quotedBytes),
    ("providerAccountId", state.providerAccountId.map (orNullBytes quotedBytes)),
    ("providerIdentityState", state.providerIdentityState.map ProviderIdentityState.bytes),
    ("metadataRevision", state.metadataRevision.map decimalBytes),
    ("lifecycleState", state.lifecycleState.map LifecycleState.bytes)]

/-- The UTF-8 length of the JSON text of a state; the order of its fields does not matter. -/
def SyncPayload.jsonBytes (gap : Nat) (state : SyncPayload) : Nat :=
  objectBytes gap (state.explicitFields gap ++
    [("reconciliation", state.reconciliation.map (Reconciliation.bytes gap))])

/-! Limits of the parts. -/

theorem unitBytes_le (pairedHigh : Bool) (u : UInt16) (next : Option UInt16) :
    unitBytes pairedHigh u next ≤ 6 := by
  unfold unitBytes
  simp only []
  split_ifs <;> omega

theorem quotedBytes_le (s : JsString) : quotedBytes s ≤ 6 * s.length + 2 := by
  have hstring : ∀ (pairedHigh : Bool) (s : JsString), stringBytes pairedHigh s ≤ 6 * s.length := by
    intro pairedHigh s
    induction s generalizing pairedHigh with
    | nil => simp [stringBytes]
    | cons u rest ih =>
      rw [stringBytes, List.length_cons]
      have hunit := unitBytes_le pairedHigh u rest.head?
      have hrest := ih (0xD800 ≤ u.toNat && u.toNat ≤ 0xDBFF)
      omega
  have hs := hstring false s
  unfold quotedBytes
  omega

/-- A unit that a JSON text holds as it is. -/
def isPlain (u : UInt16) : Bool := 0x20 ≤ u.toNat && u.toNat < 0x80 && u.toNat ≠ 34 && u.toNat ≠ 92

theorem quotedBytes_plain {s : JsString} (h : s.all isPlain = true) :
    quotedBytes s = s.length + 2 := by
  have hstring : ∀ (pairedHigh : Bool) (s : JsString), s.all isPlain = true →
      stringBytes pairedHigh s = s.length := by
    intro pairedHigh s
    induction s generalizing pairedHigh with
    | nil => exact fun _ => rfl
    | cons u rest ih =>
      intro hall
      rw [List.all_cons, Bool.and_eq_true] at hall
      have hu := hall.1
      simp only [isPlain, Bool.and_eq_true, decide_eq_true_eq] at hu
      have hunit : unitBytes pairedHigh u rest.head? = 1 := by
        unfold unitBytes
        simp only []
        rw [if_neg (by omega), if_neg (by omega), if_neg (by omega), if_pos (by omega)]
      rw [stringBytes, hunit, ih _ hall.2, List.length_cons, Nat.add_comm]
  unfold quotedBytes
  rw [hstring false s h, Nat.add_comm]

theorem isPlain_of_hex {u : UInt16} (h : isHexDigit u = true) : isPlain u = true := by
  simp only [isHexDigit, isPlain, Bool.or_eq_true, Bool.and_eq_true, decide_eq_true_eq,
    UInt16.le_iff_toNat_le] at h ⊢
  simp at h
  omega

end SellerAgents.Sync
