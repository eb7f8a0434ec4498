import SellerAgents.CredentialTransfer.Relay

namespace SellerAgents.CredentialTransfer

open Js
open Subscriptions (Date)

inductive TransferState where
  | REQUESTED | SOURCE_SEEN | PACKET_AVAILABLE_EPHEMERAL | DELIVERED_TO_RECIPIENT
  | COMPLETED | EXPIRED | CANCELLED
deriving DecidableEq

/-- The states that no transition leaves. -/
def TransferState.terminal : TransferState → Bool
  | .COMPLETED | .CANCELLED | .EXPIRED => true
  | _ => false

/-- The durable row of a request. -/
structure TransferRequestV1 where
  requestId : String
  accountId : String
  recipientDeviceId : String
  sourceDeviceId : Option String
  recipientPublicKeySpki : String
  createdAt : Date
  expiresAt : Date
  state : TransferState
  selectedStores : List String
  revision : Nat
deriving DecidableEq

structure TransferCreateRequestV1 where
  requestId : String
  recipientDeviceId : String
  recipientPublicKeySpki : String
  sourceDeviceId : Option String
  selectedStores : List String
  expiresInSeconds : Nat

inductive ImportDecision where
  | IMPORTED | CONFLICT | REJECTED

structure TransferAckV1 where
  requestId : String
  packetId : String
  importDecision : ImportDecision

structure ExtensionPrincipal where
  accountId : String
  deviceId : String

/-- The durable rows by their request ids. -/
abbrev Rows : Type := JsMap String TransferRequestV1

namespace Repository

variable (principal : ExtensionPrincipal) (now : Date) (rows : Rows)

def find (id : String) : Option TransferRequestV1 × Rows :=
  match rows.get id with
  | none => (none, rows)
  | some row =>
    if row.accountId ≠ principal.accountId ∨ (row.recipientDeviceId ≠ principal.deviceId ∧
        row.sourceDeviceId ≠ some principal.deviceId ∧ row.sourceDeviceId ≠ none) then
      (none, rows)
    else if row.expiresAt ≤ now ∧ row.state.terminal = false then
      let row := { row with state := .EXPIRED }
      (some row, rows.set id row)
    else (some row, rows)

/-- A call on the row that `find` gives. What it writes to the row stays, even if it throws. -/
def onRow {α : Type} (id : String) (missing : Except TransferFailure α)
    (f : TransferRequestV1 → Except TransferFailure α × TransferRequestV1) :
    Except TransferFailure α × Rows :=
  let found := find principal now rows id
  match found.1 with
  | none => (missing, found.2)
  | some row => ((f row).1, found.2.set id (f row).2)

def transition (states : List TransferState) (state : TransferState) (row : TransferRequestV1) :
    Except TransferFailure TransferRequestV1 × TransferRequestV1 :=
  if row.state = .EXPIRED then (.error .TRANSFER_EXPIRED, row)
  else if row.state = .COMPLETED ∨ row.state = .CANCELLED then (.error .TRANSFER_REPLAY, row)
  else if row.state ∉ states then (.error .TRANSFER_CONFLICT, row)
  else
    let row := { row with state := state, revision := row.revision + 1 }
    (.ok row, row)

def create (request : TransferCreateRequestV1) : Except TransferFailure TransferRequestV1 × Rows :=
  if request.recipientDeviceId ≠ principal.deviceId then (.error .TRANSFER_ACCOUNT_MISMATCH, rows)
  else match rows.get request.requestId with
    | some current =>
      if current.accountId ≠ principal.accountId ∨
          current.recipientPublicKeySpki ≠ request.recipientPublicKeySpki ∨
          current.sourceDeviceId ≠ request.sourceDeviceId ∨
          current.selectedStores ≠ request.selectedStores then
        (.error .TRANSFER_CONFLICT, rows)
      else (.ok current, rows)
    | none =>
      let row : TransferRequestV1 :=
        { requestId := request.requestId
          accountId := principal.accountId
          recipientDeviceId := principal.deviceId
          sourceDeviceId := request.sourceDeviceId
          recipientPublicKeySpki := request.recipientPublicKeySpki
          createdAt := now
          expiresAt := now + request.expiresInSeconds * 1000
          state := .REQUESTED
          selectedStores := request.selectedStores
          revision := 1 }
      (.ok row, rows.set row.requestId row)

def read (requestId : String) : Except TransferFailure (Option TransferRequestV1) × Rows :=
  onRow principal now rows requestId (.ok none) fun row =>
    if row.recipientDeviceId ≠ principal.deviceId ∧ row.sourceDeviceId ≠ some principal.deviceId then
      (.ok none, row)
    else (.ok (some row), row)

/-- Source eligibility view, including an account-bound unassigned request. -/
def readForSource (requestId : String) : Except TransferFailure (Option TransferRequestV1) × Rows :=
  onRow principal now rows requestId (.ok none) fun row =>
    if row.recipientDeviceId = principal.deviceId ∨
        row.sourceDeviceId.any (· ≠ principal.deviceId) then
      (.ok none, row)
    else (.ok (some row), row)

def listForSource : List TransferRequestV1 :=
  (rows.entries.map Prod.snd).filter fun row =>
    row.accountId = principal.accountId && row.recipientDeviceId ≠ principal.deviceId &&
      row.sourceDeviceId.all (· = principal.deviceId) && now < row.expiresAt && !row.state.terminal

def markSourceSeen (requestId : String) : Except TransferFailure TransferRequestV1 × Rows :=
  onRow principal now rows requestId (.error .TRANSFER_ACCOUNT_MISMATCH) fun row =>
    if row.recipientDeviceId = principal.deviceId ∨
        row.sourceDeviceId.any (· ≠ principal.deviceId) then
      (.error .TRANSFER_ACCOUNT_MISMATCH, row)
    else
      let row := { row with sourceDeviceId := some (row.sourceDeviceId.getD principal.deviceId) }
      transition [.REQUESTED, .SOURCE_SEEN, .PACKET_AVAILABLE_EPHEMERAL, .DELIVERED_TO_RECIPIENT]
        .SOURCE_SEEN row

def markPacketAvailable (requestId : String) : Except TransferFailure TransferRequestV1 × Rows :=
  onRow principal now rows requestId (.error .TRANSFER_ACCOUNT_MISMATCH) fun row =>
    if row.sourceDeviceId ≠ some principal.deviceId then (.error .TRANSFER_ACCOUNT_MISMATCH, row)
    else
      transition [.SOURCE_SEEN, .PACKET_AVAILABLE_EPHEMERAL, .DELIVERED_TO_RECIPIENT]
        .PACKET_AVAILABLE_EPHEMERAL row

/-- The transitions of the recipient. -/
def recipientTransition (requestId : String) (states : List TransferState) (state : TransferState) :
    Except TransferFailure TransferRequestV1 × Rows :=
  onRow principal now rows requestId (.error .TRANSFER_ACCOUNT_MISMATCH) fun row =>
    if row.recipientDeviceId ≠ principal.deviceId then (.error .TRANSFER_ACCOUNT_MISMATCH, row)
    else transition states state row

def markDelivered (requestId : String) : Except TransferFailure TransferRequestV1 × Rows :=
  recipientTransition principal now rows requestId
    [.PACKET_AVAILABLE_EPHEMERAL, .DELIVERED_TO_RECIPIENT] .DELIVERED_TO_RECIPIENT

def acknowledge (ack : TransferAckV1) : Except TransferFailure TransferRequestV1 × Rows :=
  recipientTransition principal now rows ack.requestId [.DELIVERED_TO_RECIPIENT] .COMPLETED

def cancel (requestId : String) : Except TransferFailure TransferRequestV1 × Rows :=
  recipientTransition principal now rows requestId [.REQUESTED, .SOURCE_SEEN] .CANCELLED

/-- Whether a row is due to expire. -/
def due (row : TransferRequestV1) : Bool := row.expiresAt ≤ now && !row.state.terminal

def expireDue : Nat × Rows :=
  (rows.entries.countP fun entry => due now entry.2,
    rows.mapValues fun row =>
      if due now row then { row with state := .EXPIRED, revision := row.revision + 1 } else row)

end Repository

/-- The calls of a repository. -/
inductive RepositoryCall where
  | create (principal : ExtensionPrincipal) (request : TransferCreateRequestV1)
  | read (principal : ExtensionPrincipal) (requestId : String)
  | readForSource (principal : ExtensionPrincipal) (requestId : String)
  | listForSource (principal : ExtensionPrincipal)
  | markSourceSeen (principal : ExtensionPrincipal) (requestId : String)
  | markPacketAvailable (principal : ExtensionPrincipal) (requestId : String)
  | markDelivered (principal : ExtensionPrincipal) (requestId : String)
  | acknowledge (principal : ExtensionPrincipal) (ack : TransferAckV1)
  | cancel (principal : ExtensionPrincipal) (requestId : String)
  | expireDue

namespace RepositoryCall

@[reducible] def Answer : RepositoryCall → Type
  | .read _ _ | .readForSource _ _ => Option TransferRequestV1
  | .listForSource _ => List TransferRequestV1
  | .expireDue => Nat
  | _ => TransferRequestV1

def perform : (call : RepositoryCall) → Date → Rows → Except TransferFailure call.Answer × Rows
  | .create principal request, now, rows => Repository.create principal now rows request
  | .read principal requestId, now, rows => Repository.read principal now rows requestId
  | .readForSource principal requestId, now, rows =>
    Repository.readForSource principal now rows requestId
  | .listForSource principal, now, rows => (.ok (Repository.listForSource principal now rows), rows)
  | .markSourceSeen principal requestId, now, rows =>
    Repository.markSourceSeen principal now rows requestId
  | .markPacketAvailable principal requestId, now, rows =>
    Repository.markPacketAvailable principal now rows requestId
  | .markDelivered principal requestId, now, rows =>
    Repository.markDelivered principal now rows requestId
  | .acknowledge principal ack, now, rows => Repository.acknowledge principal now rows ack
  | .cancel principal requestId, now, rows => Repository.cancel principal now rows requestId
  | .expireDue, now, rows => (.ok (Repository.expireDue now rows).1, (Repository.expireDue now rows).2)

end RepositoryCall

end SellerAgents.CredentialTransfer
