import SellerAgents.Js.Map
import SellerAgents.Pruning.Greatest

namespace SellerAgents.CommandLedger
open Js (JsMap)

/-- A field of an execution context. -/
inductive Scalar where
  | text (value : String)
  | number (value : Int)
deriving DecidableEq

/-- An execution context. `others` are its other fields as `canonicalJson` writes them, so that
contexts are equal when their texts are. -/
structure Context where
  accountId : Option Scalar
  principalEpoch : Option Scalar
  conversationKey : Option Scalar
  bindingId : Option Scalar
  bindingRevision : Option Scalar
  workSessionId : Option Scalar
  workGeneration : Option Scalar
  storeId : Option Scalar
  marketplace : Option Scalar
  aiFamily : Option Scalar
  others : String
deriving DecidableEq

/-- `nonempty(value)` of a field. -/
def nonempty : Option Scalar → Bool
  | some (.text value) => value ≠ ""
  | _ => false

/-- Whether two contexts have the same Work and binding. -/
def Context.stable (left right : Context) : Bool :=
  left.accountId = right.accountId && left.principalEpoch = right.principalEpoch &&
    left.conversationKey = right.conversationKey && left.bindingId = right.bindingId &&
    left.bindingRevision = right.bindingRevision && left.workSessionId = right.workSessionId &&
    left.workGeneration = right.workGeneration && left.storeId = right.storeId &&
    left.marketplace = right.marketplace && left.aiFamily = right.aiFamily

inductive ItemState where
  | RESERVED
  | PROVIDER_INTENT
  | RESULT
  | UNKNOWN
deriving DecidableEq

/-- An item of a receipt; `itemId` is `commandKey + ":" + ordinal`. -/
structure Item (κ : Type) where
  ordinal : Nat
  inputHash : String
  itemId : κ × Nat
  state : ItemState := .RESERVED
  providerAttemptId : Option String := none
  intentAt : Option Int := none
  bufferDigest : Option String := none

inductive MessageKind where
  | providerMessage
  | documentLocal
deriving DecidableEq

structure Source where
  messageAnchorKey : String
  documentKey : String
  messageKind : MessageKind

/-- An execution of a block with the states of its items. -/
structure Receipt (κ : Type) where
  executionId : String
  commandKey : κ
  blockOriginKey : String
  blockVersion : String
  approvalRevision : Nat
  context : Context
  items : List (Item κ)
  createdAt : Int
  payloadExpiresAt : Int
  predecessor : Option String
  source : Option Source
  deliveryBufferDigest : Option String := none
  deliveryRevision : Nat := 0

structure Selected where
  ordinal : Nat
  inputHash : String
deriving DecidableEq

structure RetryApproval where
  confirmationId : String
  predecessor : String
  blockOriginKey : String
  blockVersion : String
  approvalRevision : Nat
  selection : List Selected
  parserContract : String
  credentialRevision : String
  context : Context
  expiresAt : Int
  consumedBy : Option String := none
deriving DecidableEq

structure CopyApproval where
  confirmationId : String
  executionId : String
  deliveryRevision : Nat
  bufferDigest : String
  expiresAt : Int
  context : Context
  consumedBy : Option String := none

/-- A seller's approval of a retry or of a copy. -/
inductive Approval where
  | retry (approval : RetryApproval)
  | copy (approval : CopyApproval)

inductive DeliveryState where
  | COPY_RESERVED
  | DELIVERY_INTENT
  | CONFIRMED
  | UNKNOWN
deriving DecidableEq

/-- A delivery; an `original` one was made before its command was copied. -/
structure Delivery where
  deliveryId : String
  executionId : String
  state : DeliveryState
  confirmationId : Option String
  bufferDigest : String
  expiresAt : Int
  context : Context
  deliveryRevision : Option Nat
  original : Bool := false
  intentAt : Option Int := none

/-- `r3_commands`; an origin has its approval revision. -/
structure Ledger (κ : Type) where
  origins : JsMap String Nat
  receipts : JsMap String (Receipt κ)
  approvals : JsMap String Approval
  deliveries : JsMap String Delivery

def maxSafeInteger : Nat := 9007199254740991

variable {κ : Type}

def Item.isUnknown (item : Item κ) : Bool := item.state = .PROVIDER_INTENT || item.state = .UNKNOWN

/-- `unknown(receipt)`. -/
def Receipt.unknown (receipt : Receipt κ) : Bool := receipt.items.any Item.isUnknown

namespace Ledger

def empty : Ledger κ := ⟨JsMap.empty, JsMap.empty, JsMap.empty, JsMap.empty⟩

section Compaction

variable (data : Ledger κ)

/-- The receipts of a completed earlier Work of the account. -/
def completed (context : Context) : List String :=
  (data.receipts.entries.filter fun entry =>
    entry.2.context.accountId = context.accountId && nonempty entry.2.context.workSessionId &&
      entry.2.context.workSessionId ≠ context.workSessionId && entry.2.items ≠ [] &&
      entry.2.items.all fun item => item.state = .RESULT).map Prod.fst

def confirmedDelivery (id : String) (delivery : Delivery) : Bool :=
  match data.receipts.get delivery.executionId with
  | none => false
  | some receipt =>
    delivery.state = .CONFIRMED && delivery.deliveryId = id && delivery.context = receipt.context &&
      delivery.expiresAt = receipt.payloadExpiresAt && delivery.bufferDigest ≠ "" &&
      (receipt.deliveryBufferDigest = some delivery.bufferDigest || receipt.items.any fun item =>
        item.state = .RESULT && item.bufferDigest = some delivery.bufferDigest)

def completedCopy (id : String) (approval : CopyApproval) : Bool :=
  match approval.consumedBy.bind fun deliveryId => (data.deliveries.get deliveryId).map (deliveryId, ·),
    data.receipts.get approval.executionId with
  | some (deliveryId, delivery), some receipt =>
    approval.confirmationId = id && data.confirmedDelivery deliveryId delivery &&
      delivery.executionId = approval.executionId && delivery.confirmationId = some id &&
      approval.context = receipt.context && approval.bufferDigest = delivery.bufferDigest &&
      approval.expiresAt = delivery.expiresAt && approval.deliveryRevision ≤ maxSafeInteger &&
      delivery.deliveryRevision = some (approval.deliveryRevision + 1)
  | _, _ => false

/-- Whether a delivery does not keep its receipt. -/
def finishedDelivery (id : String) (delivery : Delivery) : Bool :=
  data.confirmedDelivery id delivery && (delivery.original ||
    match delivery.confirmationId.bind fun confirmationId =>
      (data.approvals.get confirmationId).map (confirmationId, ·) with
    | some (confirmationId, .copy approval) => data.completedCopy confirmationId approval
    | _ => false)

/-- The receipts that no delivery keeps. -/
def candidates (context : Context) : List String :=
  (data.completed context).filter fun executionId => data.deliveries.entries.all fun entry =>
    entry.2.executionId ≠ executionId || data.finishedDelivery entry.1 entry.2

/-- A receipt that stays keeps its predecessor. -/
def receiptRule (id : String) (receipt : Receipt κ) : Pruning.Rule String := fun removable target =>
  id ∉ removable && receipt.predecessor = some target

/-- A COPY consumes a delivery, a RETRY an execution. -/
def approvalRule (id : String) : Approval → Pruning.Rule String
  | .copy approval => fun removable target =>
    target = approval.executionId && (approval.executionId ∉ removable ||
      approval.consumedBy.isSome && !data.completedCopy id approval)
  | .retry approval => fun removable target =>
    (approval.predecessor ∉ removable || approval.consumedBy.any (· ∉ removable)) &&
      (target = approval.predecessor || approval.consumedBy = some target)

def rules : List (Pruning.Rule String) :=
  data.receipts.entries.map (fun entry => receiptRule entry.1 entry.2) ++
    data.approvals.entries.map fun entry => data.approvalRule entry.1 entry.2

def removable (context : Context) : List String :=
  Pruning.prune data.rules (data.candidates context)

/-- Whether an approval goes with the receipts that go. -/
def retiredApproval (removable : List String) (id : String) : Approval → Bool
  | .copy approval => approval.executionId ∈ removable &&
      (approval.consumedBy.isNone || data.completedCopy id approval)
  | .retry approval => approval.predecessor ∈ removable && approval.consumedBy.all (· ∈ removable)

/-- Whether a block is still named. -/
def named (receipts : JsMap String (Receipt κ)) (approvals : JsMap String Approval) (origin : String) :
    Bool :=
  receipts.entries.any (fun entry => entry.2.blockOriginKey = origin) ||
    approvals.entries.any fun entry =>
      match entry.2 with
      | .retry approval => approval.blockOriginKey = origin
      | .copy _ => false

/-- What is left when a set of receipts goes. -/
def without (removable : List String) : Ledger κ :=
  let receipts := data.receipts.filter fun id _ => id ∉ removable
  let approvals := data.approvals.filter fun id approval => !data.retiredApproval removable id approval
  { receipts := receipts
    approvals := approvals
    deliveries := data.deliveries.filter fun _ delivery =>
      !(delivery.state = .CONFIRMED && delivery.executionId ∈ removable)
    origins := data.origins.filter fun id _ => named receipts approvals id }

/-- `compactCompletedWork(data, context)`. -/
def compactCompletedWork (context : Context) : Ledger κ :=
  if !nonempty context.accountId || !nonempty context.workSessionId then data
  else data.without (data.removable context)

end Compaction

def maxMarkers : Nat := 2000

/-- `capacity(data)`; whether it throws. -/
def full (data : Ledger κ) : Bool :=
  maxMarkers ≤ data.receipts.size + data.deliveries.size + data.approvals.size

end Ledger

end SellerAgents.CommandLedger
