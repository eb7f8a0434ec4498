import Mathlib.Data.List.Sort
import SellerAgents.CommandLedger.Records

namespace SellerAgents.CommandLedger
open Js (JsMap objectPrototypeMembers)

/-- The command key of an approval of a block, a hash without collisions. -/
structure Hash (κ : Type) where
  commandKey : String → String → Nat → κ
  injective : ∀ {blockOriginKey blockVersion approvalRevision blockOriginKey' blockVersion' approvalRevision'},
    commandKey blockOriginKey blockVersion approvalRevision =
      commandKey blockOriginKey' blockVersion' approvalRevision' →
    blockOriginKey = blockOriginKey' ∧ blockVersion = blockVersion' ∧ approvalRevision = approvalRevision'

/-- An item as a caller supplies it, with what `classifyReadOnly` says of it. -/
structure SuppliedItem where
  ordinal : Int
  inputHash : String
  readOnly : Bool

/-- The outcome a caller reports. -/
inductive SuppliedOutcome where
  | RESULT
  | UNKNOWN
  | PROVEN_NOT_DISPATCHED
  | other

structure SuppliedSource where
  messageAnchorKey : String
  documentKey : String
  messageKind : Option MessageKind

/-- A delivery that was made before; none for a state other than these two. -/
structure PreviousDelivery where
  deliveryId : String
  confirmed : Option Bool

/-- A buffer as `readBuffer` gives it, with whether its digest is that of its payload. -/
structure Buffer where
  digest : String
  expiresAt : Int
  context : Context
  verified : Bool

/-- What a command answers. -/
inductive Answer (κ : Type) where
  | reserved (executionId : String) (payloadExpiresAt : Int)
  | duplicate (executionId : String) (unknown : Bool) (payloadExpiresAt : Int)
  | dispatch (providerAttemptId : String) (itemId : κ × Nat)
  | attempted (state : ItemState) (providerAttemptId : Option String)
  | outcome (state : ItemState)
  | retryPreview (confirmationId : String) (approvalRevision : Nat) (selection : List Selected)
  | retryConfirmed (executionId : String) (commandKey : κ) (payloadExpiresAt : Int) (predecessor : String)
    (approvalRevision : Nat)
  | retryDuplicate (executionId : String)
  | bufferRecorded
  | copyPreview (confirmationId : String) (deliveryRevision : Nat) (bufferDigest : String) (expiresAt : Int)
  | copyConfirmed (deliveryId : String)
  | copyDuplicate (deliveryId : String)
  | send (deliveryId bufferDigest : String) (expiresAt : Int)
  | notSent (state : DeliveryState)
  | copyOutcome (confirmed : Bool)

def bufferTtlMs : Int := 3600000

variable {κ : Type} [DecidableEq κ]

abbrev Written (κ : Type) : Type := Except String (Ledger κ × Answer κ)

/-- The items of a command or of a retry, each checked before the next is looked at. -/
def capture (invalid : String) (readOnly : Bool) : List Nat → List SuppliedItem → Except String (List Selected)
  | _, [] => .ok []
  | seen, item :: rest =>
    if item.ordinal < 0 || (maxSafeInteger : Int) < item.ordinal || item.ordinal.toNat ∈ seen ||
        item.inputHash = "" then .error invalid
    else if readOnly && !item.readOnly then .error "RETRY_READ_ONLY_REQUIRED"
    else (capture invalid readOnly (item.ordinal.toNat :: seen) rest).map fun selected =>
      ⟨item.ordinal.toNat, item.inputHash⟩ :: selected

/-- `normalizeSelection(items)`. -/
def normalizeSelection (items : List SuppliedItem) : Except String (List Selected) :=
  if items = [] then .error "RETRY_SELECTION_REQUIRED"
  else (capture "RETRY_SELECTION_INVALID" true [] items).map fun selected =>
    selected.mergeSort fun a b => a.ordinal ≤ b.ordinal

/-- The first item with an ordinal is changed. -/
def updateItem (ordinal : Nat) (f : Item κ → Item κ) : List (Item κ) → List (Item κ)
  | [] => []
  | item :: rest => if item.ordinal = ordinal then f item :: rest else item :: updateItem ordinal f rest

def Receipt.item (receipt : Receipt κ) (ordinal : Nat) : Option (Item κ) :=
  receipt.items.find? fun item => item.ordinal = ordinal

def Receipt.updateItem (receipt : Receipt κ) (ordinal : Nat) (f : Item κ → Item κ) : Receipt κ :=
  { receipt with items := CommandLedger.updateItem ordinal f receipt.items }

/-- The items of a new receipt. -/
def newItems (commandKey : κ) (selection : List Selected) : List (Item κ) :=
  selection.map fun item =>
    { ordinal := item.ordinal, inputHash := item.inputHash, itemId := (commandKey, item.ordinal) }

namespace Ledger

variable (data : Ledger κ)

/-- `receiptFor(data, id, context)`. -/
def receiptFor (id : String) (context : Context) : Except String (Receipt κ) :=
  match data.receipts.get id with
  | some receipt => if receipt.context = context then .ok receipt else .error "COMMAND_CONTEXT_MISMATCH"
  | none => .error "COMMAND_CONTEXT_MISMATCH"

/-- `predecessorFor(data, id, context)`. -/
def predecessorFor (id : String) (context : Context) : Except String (Receipt κ) :=
  match data.receipts.get id with
  | some receipt =>
    if receipt.context.stable context then .ok receipt else .error "COMMAND_CONTEXT_MISMATCH"
  | none => .error "COMMAND_CONTEXT_MISMATCH"

def setReceipt (id : String) (receipt : Receipt κ) : Ledger κ :=
  { data with receipts := data.receipts.set id receipt }

def setApproval (id : String) (approval : Approval) : Ledger κ :=
  { data with approvals := data.approvals.set id approval }

def setDelivery (id : String) (delivery : Delivery) : Ledger κ :=
  { data with deliveries := data.deliveries.set id delivery }

/-- Why the source of a command is refused. -/
def sourceRefusal (context : Context) : Option SuppliedSource → Option String
  | none => none
  | some source =>
    let sameWork := data.receipts.entries.filter fun entry =>
      entry.2.context.workSessionId = context.workSessionId
    if source.messageAnchorKey = "" || source.documentKey = "" || source.messageKind.isNone then
      some "BLOCK_IDENTITY_REQUIRED"
    else if sameWork.any fun entry => entry.2.source.any fun other =>
        other.messageKind = .documentLocal && (other.documentKey ≠ source.documentKey || entry.2.unknown) then
      some "COMMAND_LOCAL_IDENTITY_UNCERTAIN_START_REQUIRED"
    else if sameWork.any fun entry => entry.2.unknown && entry.2.source.any fun other =>
        other.messageAnchorKey = source.messageAnchorKey then
      some "COMMAND_OUTCOME_UNKNOWN_EXPLICIT_RETRY_REQUIRED"
    else none

/-- A checked source. -/
def SuppliedSource.stored (source : SuppliedSource) : Option Source :=
  source.messageKind.map fun kind => ⟨source.messageAnchorKey, source.documentKey, kind⟩

/-- The writer of `reserveCommand`. -/
def reserve (commandKey : κ) (blockOriginKey blockVersion : String) (captured : List Selected)
    (source : Option SuppliedSource) (context : Context) (now : Int) (id : String) : Written κ :=
  match data.receipts.entries.find? fun entry => entry.2.commandKey = commandKey with
  | some (_, existing) =>
    .ok (data, .duplicate existing.executionId existing.unknown existing.payloadExpiresAt)
  | none =>
    match data.sourceRefusal context source with
    | some error => .error error
    | none =>
      if (data.origins.get blockOriginKey).isSome && data.receipts.entries.any fun entry =>
          entry.2.blockOriginKey = blockOriginKey && entry.2.unknown then
        .error "COMMAND_OUTCOME_UNKNOWN_EXPLICIT_RETRY_REQUIRED"
      else if data.full then .error "WORK_MARKER_CAPACITY_START_REQUIRED"
      else
        let receipt : Receipt κ :=
          { executionId := id
            commandKey := commandKey
            blockOriginKey := blockOriginKey
            blockVersion := blockVersion
            approvalRevision := 0
            context := context
            items := newItems commandKey captured
            createdAt := now
            payloadExpiresAt := now + bufferTtlMs
            predecessor := none
            source := source.bind SuppliedSource.stored }
        let opened : Ledger κ :=
          { data with origins := data.origins.set blockOriginKey ((data.origins.get blockOriginKey).getD 0) }
        .ok (opened.setReceipt id receipt, .reserved id receipt.payloadExpiresAt)

/-- The writer of `beginProviderAttempt`. -/
def begin (executionId : String) (ordinal : Nat) (context : Context) (now : Int) (id : String) : Written κ :=
  (data.receiptFor executionId context).bind fun receipt =>
    match receipt.item ordinal with
    | none => .error "COMMAND_ITEM_MISSING"
    | some item =>
      if item.state ≠ .RESERVED then .ok (data, .attempted item.state item.providerAttemptId)
      else if receipt.payloadExpiresAt ≤ now then .error "COMMAND_EXPIRED"
      else
        let intended := receipt.updateItem ordinal fun item =>
          { item with state := .PROVIDER_INTENT, providerAttemptId := some id, intentAt := some now }
        .ok (data.setReceipt executionId intended, .dispatch id item.itemId)

/-- The state and the digest that a reported outcome leaves. -/
def accepted (bufferDigest : Option String) : SuppliedOutcome → Except String ItemState
  | .RESULT => if bufferDigest.all (· = "") then .error "RESULT_DIGEST_REQUIRED" else .ok .RESULT
  | .UNKNOWN => .ok .UNKNOWN
  | .PROVEN_NOT_DISPATCHED => .error "PROVIDER_ABSENCE_REQUIRES_SEPARATE_PROOF"
  | .other => .error "PROVIDER_OUTCOME_INVALID"

/-- The writer of `recordProviderOutcome`. -/
def recordOutcome (executionId : String) (ordinal : Nat) (providerAttemptId : String)
    (outcome : SuppliedOutcome) (bufferDigest : Option String) (context : Context) : Written κ :=
  (data.receiptFor executionId context).bind fun receipt =>
    match receipt.item ordinal with
    | none => .error "PROVIDER_OUTCOME_OBSOLETE"
    | some item =>
      if item.providerAttemptId ≠ some providerAttemptId || item.state ≠ .PROVIDER_INTENT then
        .error "PROVIDER_OUTCOME_OBSOLETE"
      else (accepted bufferDigest outcome).map fun state =>
        let recorded := receipt.updateItem ordinal fun item =>
          { item with state := state, bufferDigest := bufferDigest }
        (data.setReceipt executionId recorded, .outcome state)

/-- Whether a selection still names the items of a receipt. -/
def selectionUnchanged (old : Receipt κ) (blockVersion : String) (selection : List Selected) : Bool :=
  selection.all fun item => (old.item item.ordinal).any fun original =>
    blockVersion ≠ old.blockVersion || original.inputHash = item.inputHash

/-- The writer of `previewRetry`. -/
def retryPreview (executionId blockVersion : String) (selection : List Selected)
    (parserContract credentialRevision : String) (context : Context) (now : Int) (id : String) : Written κ :=
  (data.predecessorFor executionId context).bind fun old =>
    if !old.unknown then .error "RETRY_UNKNOWN_REQUIRED"
    else if !selectionUnchanged old blockVersion selection then .error "RETRY_SELECTION_CHANGED"
    else if data.full then .error "WORK_MARKER_CAPACITY_START_REQUIRED"
    else
      match data.origins.get old.blockOriginKey with
      | none => .error "TypeError"
      | some approvalRevision =>
        let approval : RetryApproval :=
          { confirmationId := id
            predecessor := executionId
            blockOriginKey := old.blockOriginKey
            blockVersion := blockVersion
            approvalRevision := approvalRevision
            selection := selection
            parserContract := parserContract
            credentialRevision := credentialRevision
            context := context
            expiresAt := now + bufferTtlMs }
        .ok (data.setApproval id (.retry approval), .retryPreview id approvalRevision selection)

/-- The writer of `confirmRetry`; `commandKey` is of the preview read before. -/
def retryConfirm (commandKey : κ) (confirmationId : String) (selection : List Selected)
    (blockVersion parserContract credentialRevision : String) (context : Context) (now : Int) (id : String) :
    Written κ :=
  match data.approvals.get confirmationId with
  | some (.retry approval) =>
    if approval.context ≠ context then .error "RETRY_PREVIEW_MISSING"
    else if selection ≠ approval.selection || blockVersion ≠ approval.blockVersion ||
        parserContract ≠ approval.parserContract || credentialRevision ≠ approval.credentialRevision then
      .error "RETRY_PREVIEW_CHANGED"
    else
      match approval.consumedBy with
      | some executionId => .ok (data, .retryDuplicate executionId)
      | none =>
        if approval.expiresAt ≤ now then .error "RETRY_CONFIRMATION_EXPIRED"
        else
          match data.origins.get approval.blockOriginKey with
          | none => .error "TypeError"
          | some approvalRevision =>
            if approvalRevision ≠ approval.approvalRevision then .error "RETRY_APPROVAL_STALE"
            else (data.predecessorFor approval.predecessor context).bind fun old =>
              if data.full then .error "WORK_MARKER_CAPACITY_START_REQUIRED"
              else
                let receipt : Receipt κ :=
                  { executionId := id
                    commandKey := commandKey
                    blockOriginKey := approval.blockOriginKey
                    blockVersion := approval.blockVersion
                    approvalRevision := approvalRevision + 1
                    predecessor := some approval.predecessor
                    context := context
                    createdAt := now
                    payloadExpiresAt := now + bufferTtlMs
                    source := old.source
                    items := newItems commandKey selection }
                let raised : Ledger κ :=
                  { data with origins := data.origins.set approval.blockOriginKey (approvalRevision + 1) }
                let consumed := raised.setApproval confirmationId (.retry { approval with consumedBy := some id })
                .ok (consumed.setReceipt id receipt, .retryConfirmed id commandKey receipt.payloadExpiresAt
                  approval.predecessor (approvalRevision + 1))
  | _ => .error "RETRY_PREVIEW_MISSING"

/-- The delivery that was made before a command was copied, unless one is found under its id: a
recorded one, or a member of `Object.prototype`. -/
def recordPrevious (executionId bufferDigest : String) (expiresAt : Int) (context : Context) :
    Option PreviousDelivery → Except String (Ledger κ)
  | none => .ok data
  | some previous =>
    match previous.confirmed with
    | none => .error "COPY_PREVIOUS_DELIVERY_REQUIRED"
    | some confirmed =>
      if previous.deliveryId = "" then .error "COPY_PREVIOUS_DELIVERY_REQUIRED"
      else if (data.deliveries.get previous.deliveryId).isSome ||
          previous.deliveryId ∈ objectPrototypeMembers then .ok data
      else if data.full then .error "WORK_MARKER_CAPACITY_START_REQUIRED"
      else .ok <| data.setDelivery previous.deliveryId
        { deliveryId := previous.deliveryId
          state := if confirmed then .CONFIRMED else .UNKNOWN
          executionId := executionId
          bufferDigest := bufferDigest
          expiresAt := expiresAt
          context := context
          original := true
          confirmationId := none
          deliveryRevision := none }

/-- The writer of `recordDeliveryBuffer`. -/
def recordBuffer (executionId bufferDigest : String) (expiresAt : Int) (previous : Option PreviousDelivery)
    (context : Context) (now : Int) : Written κ :=
  (data.receiptFor executionId context).bind fun receipt =>
    if expiresAt ≠ receipt.payloadExpiresAt || expiresAt ≤ now then .error "COPY_BUFFER_MISMATCH"
    else (data.recordPrevious executionId bufferDigest expiresAt context previous).map fun recorded =>
      (recorded.setReceipt executionId { receipt with deliveryBufferDigest := some bufferDigest },
        .bufferRecorded)

/-- The writer of `previewCopy`. -/
def copyPreview (executionId : String) (buffer : Buffer) (context : Context) (id : String) : Written κ :=
  (data.receiptFor executionId context).bind fun receipt =>
    if buffer.expiresAt ≠ receipt.payloadExpiresAt ||
        !(receipt.deliveryBufferDigest = some buffer.digest || receipt.items.any fun item =>
          item.state = .RESULT && item.bufferDigest = some buffer.digest) then .error "COPY_BUFFER_MISMATCH"
    else if data.full then .error "WORK_MARKER_CAPACITY_START_REQUIRED"
    else
      let approval : CopyApproval :=
        { confirmationId := id
          executionId := executionId
          deliveryRevision := receipt.deliveryRevision
          bufferDigest := buffer.digest
          expiresAt := buffer.expiresAt
          context := context }
      .ok (data.setApproval id (.copy approval),
        .copyPreview id receipt.deliveryRevision buffer.digest buffer.expiresAt)

/-- The writer of `confirmCopy`. -/
def copyConfirm (confirmationId : String) (buffer : Buffer) (context : Context) (now : Int) (id : String) :
    Written κ :=
  match data.approvals.get confirmationId with
  | some (.copy approval) =>
    if approval.context ≠ context then .error "COPY_PREVIEW_MISSING"
    else (data.receiptFor approval.executionId context).bind fun receipt =>
      if approval.expiresAt ≤ now || buffer.digest ≠ approval.bufferDigest ||
          buffer.expiresAt ≠ approval.expiresAt then .error "COPY_BUFFER_UNAVAILABLE"
      else
        match approval.consumedBy with
        | some deliveryId => .ok (data, .copyDuplicate deliveryId)
        | none =>
          if receipt.deliveryRevision ≠ approval.deliveryRevision then .error "COPY_CONFIRMATION_STALE"
          else if data.full then .error "WORK_MARKER_CAPACITY_START_REQUIRED"
          else
            let delivery : Delivery :=
              { deliveryId := id
                executionId := receipt.executionId
                state := .COPY_RESERVED
                confirmationId := some confirmationId
                bufferDigest := buffer.digest
                expiresAt := buffer.expiresAt
                context := context
                deliveryRevision := some (approval.deliveryRevision + 1) }
            let raised := data.setReceipt approval.executionId
              { receipt with deliveryRevision := approval.deliveryRevision + 1 }
            let consumed := raised.setApproval confirmationId (.copy { approval with consumedBy := some id })
            .ok (consumed.setDelivery id delivery, .copyConfirmed id)
  | _ => .error "COPY_PREVIEW_MISSING"

/-- The writer of `beginCopyDelivery`. -/
def beginDelivery (deliveryId : String) (buffer : Buffer) (context : Context) (now : Int) : Written κ :=
  match data.deliveries.get deliveryId with
  | none => .error "COPY_DELIVERY_MISSING"
  | some delivery =>
    if delivery.context ≠ context then .error "COPY_DELIVERY_MISSING"
    else if delivery.expiresAt ≤ now || buffer.digest ≠ delivery.bufferDigest ||
        buffer.expiresAt ≠ delivery.expiresAt then .error "COPY_BUFFER_UNAVAILABLE"
    else if delivery.state ≠ .COPY_RESERVED then .ok (data, .notSent delivery.state)
    else .ok (data.setDelivery deliveryId { delivery with state := .DELIVERY_INTENT, intentAt := some now },
      .send deliveryId delivery.bufferDigest delivery.expiresAt)

/-- The writer of `recordCopyOutcome`. -/
def recordCopy (deliveryId : String) (confirmed : Bool) (context : Context) : Written κ :=
  match data.deliveries.get deliveryId with
  | none => .error "COPY_OUTCOME_OBSOLETE"
  | some delivery =>
    if delivery.context ≠ context || delivery.state ≠ .DELIVERY_INTENT then .error "COPY_OUTCOME_OBSOLETE"
    else .ok (data.setDelivery deliveryId
      { delivery with state := if confirmed then .CONFIRMED else .UNKNOWN }, .copyOutcome confirmed)

end Ledger

/-- `verifiedBuffer(executionId, context)`, given what was read and when. -/
def verifiedBuffer (context : Context) (readAt : Int) : Option Buffer → Except String Buffer
  | none => .error "COPY_BUFFER_UNAVAILABLE"
  | some buffer =>
    if buffer.digest = "" || buffer.expiresAt ≤ readAt || buffer.context ≠ context || !buffer.verified then
      .error "COPY_BUFFER_UNAVAILABLE"
    else .ok buffer

/-- The buffer that a call has read, and when. -/
structure BufferRead where
  buffer : Option Buffer
  readAt : Int

/-- A call of the ledger. A `confirmRetry` comes with the preview that it has read. -/
inductive Command where
  | reserveCommand (blockOriginKey blockVersion : String) (items : List SuppliedItem)
    (source : Option SuppliedSource)
  | beginProviderAttempt (executionId : String) (ordinal : Nat)
  | recordProviderOutcome (executionId : String) (ordinal : Nat) (providerAttemptId : String)
    (outcome : SuppliedOutcome) (bufferDigest : Option String)
  | previewRetry (executionId blockVersion : String) (selection : List SuppliedItem)
    (parserContract credentialRevision : String)
  | confirmRetry (preview : RetryApproval) (confirmed : Bool) (selection : List SuppliedItem)
    (blockVersion parserContract credentialRevision : String)
  | recordDeliveryBuffer (executionId bufferDigest : String) (expiresAt : Int)
    (previous : Option PreviousDelivery) (read : BufferRead)
  | previewCopy (executionId : String) (read : BufferRead)
  | confirmCopy (confirmationId : String) (confirmed : Bool) (read : BufferRead)
  | beginCopyDelivery (deliveryId : String) (read : BufferRead)
  | recordCopyOutcome (deliveryId : String) (confirmed : Option Bool)

/-- What the ports do during a call: whether the context is confirmed before and after the write,
and whether the store confirms the write or stores it all the same. -/
structure Surroundings where
  now : Int
  id : String
  authorized : Bool
  confirmed : Bool
  landed : Bool
  stillAuthorized : Bool

section Call

variable (hash : Hash κ) (context : Context) (env : Surroundings)

/-- What a call checks before it enters the writer, and the writer that it enters. -/
def Command.writer : Command → Except String (Ledger κ → Written κ)
  | .reserveCommand blockOriginKey blockVersion items source =>
    if blockOriginKey = "" || blockVersion = "" || items.isEmpty then .error "COMMAND_INPUT_INVALID"
    else (capture "COMMAND_INPUT_INVALID" false [] items).map fun captured data =>
      data.reserve (hash.commandKey blockOriginKey blockVersion 0) blockOriginKey blockVersion captured source
        context env.now env.id
  | .beginProviderAttempt executionId ordinal => .ok fun data =>
    data.begin executionId ordinal context env.now env.id
  | .recordProviderOutcome executionId ordinal providerAttemptId outcome bufferDigest => .ok fun data =>
    data.recordOutcome executionId ordinal providerAttemptId outcome bufferDigest context
  | .previewRetry executionId blockVersion selection parserContract credentialRevision =>
    (normalizeSelection selection).bind fun selected =>
      if blockVersion = "" || parserContract = "" || credentialRevision = "" then
        .error "RETRY_PREVIEW_INVALID"
      else .ok fun data =>
        data.retryPreview executionId blockVersion selected parserContract credentialRevision context env.now env.id
  | .confirmRetry preview confirmed selection blockVersion parserContract credentialRevision =>
    if !confirmed then .error "RETRY_EXPLICIT_CONFIRMATION_REQUIRED"
    else (normalizeSelection selection).map fun selected data =>
      data.retryConfirm
        (hash.commandKey preview.blockOriginKey preview.blockVersion (preview.approvalRevision + 1))
        preview.confirmationId selected blockVersion parserContract credentialRevision context env.now env.id
  | .recordDeliveryBuffer executionId bufferDigest expiresAt previous read =>
    if bufferDigest = "" then .error "RESULT_DIGEST_REQUIRED"
    else (verifiedBuffer context read.readAt read.buffer).bind fun buffer =>
      if buffer.digest ≠ bufferDigest || buffer.expiresAt ≠ expiresAt then .error "COPY_BUFFER_MISMATCH"
      else .ok fun data => data.recordBuffer executionId bufferDigest expiresAt previous context env.now
  | .previewCopy executionId read =>
    (verifiedBuffer context read.readAt read.buffer).map fun buffer data =>
      data.copyPreview executionId buffer context env.id
  | .confirmCopy confirmationId confirmed read =>
    if !confirmed then .error "COPY_EXPLICIT_CONFIRMATION_REQUIRED"
    else (verifiedBuffer context read.readAt read.buffer).map fun buffer data =>
      data.copyConfirm confirmationId buffer context env.now env.id
  | .beginCopyDelivery deliveryId read =>
    (verifiedBuffer context read.readAt read.buffer).map fun buffer data =>
      data.beginDelivery deliveryId buffer context env.now
  | .recordCopyOutcome deliveryId confirmed =>
    match confirmed with
    | none => .error "COPY_OUTCOME_INVALID"
    | some confirmed => .ok fun data => data.recordCopy deliveryId confirmed context

/-- `mutate(conversationKey, context, fn)`: what is stored then, and the answer. -/
def mutate (stored : Ledger κ) (fn : Ledger κ → Written κ) : Ledger κ × Except String (Answer κ) :=
  if !env.authorized then (stored, .error "EXECUTION_CONTEXT_CHANGED")
  else
    match fn (stored.compactCompletedWork context) with
    | .error code => (stored, .error code)
    | .ok (data, answer) =>
      (if env.confirmed || env.landed then data else stored,
        if !env.confirmed then .error "RECORD_STORE_COMMIT_UNCONFIRMED"
        else if !env.stillAuthorized then .error "EXECUTION_CONTEXT_CHANGED"
        else .ok answer)

def Command.perform (command : Command) (stored : Ledger κ) : Ledger κ × Except String (Answer κ) :=
  match command.writer hash context env with
  | .error code => (stored, .error code)
  | .ok fn => mutate context env stored fn

end Call

/-- The ledger of a conversation and what was done through it: the ids that were drawn or supplied,
the previews that were read, the items that a call was told to dispatch and the deliveries that a
call was told to send, latest first. -/
structure World (κ : Type) where
  stored : Ledger κ
  seen : List String
  previews : List RetryApproval
  dispatches : List (String × Nat)
  sends : List String

inductive Event where
  | readPreview (confirmationId : String)
  | call (context : Context) (env : Surroundings) (command : Command)

/-- The ids that a command brings in from outside. -/
def Command.supplied : Command → List String
  | .recordDeliveryBuffer _ _ _ (some previous) _ => [previous.deliveryId]
  | _ => []

/-- The item that a call may dispatch, if it is told to. -/
def Command.dispatched : Command → Except String (Answer κ) → List (String × Nat)
  | .beginProviderAttempt executionId ordinal, .ok (.dispatch _ _) => [(executionId, ordinal)]
  | _, _ => []

/-- The delivery that a call may send, if it is told to. -/
def Command.sent : Command → Except String (Answer κ) → List String
  | .beginCopyDelivery deliveryId _, .ok (.send _ _ _) => [deliveryId]
  | _, _ => []

namespace World

def empty : World κ := ⟨Ledger.empty, [], [], [], []⟩

/-- `makeId` gives an id that was not seen, the block keys are digests of `blockKeys`, which name no
member of `Object.prototype`, and a retry is confirmed by a preview that was read. -/
def admits (w : World κ) (env : Surroundings) (command : Command) : Bool :=
  env.id ∉ w.seen && env.id ∉ objectPrototypeMembers &&
    match command with
    | .reserveCommand blockOriginKey .. => blockOriginKey ∉ objectPrototypeMembers
    | .confirmRetry preview .. => preview ∈ w.previews
    | _ => true

/-- One event; one that cannot happen changes nothing. -/
def step (hash : Hash κ) (w : World κ) : Event → World κ
  | .readPreview confirmationId =>
    match w.stored.approvals.get confirmationId with
    | some (.retry approval) => { w with previews := approval :: w.previews }
    | _ => w
  | .call context env command =>
    if w.admits env command then
      let performed := command.perform hash context env w.stored
      { w with
        stored := performed.1
        seen := env.id :: (command.supplied ++ w.seen)
        dispatches := command.dispatched performed.2 ++ w.dispatches
        sends := command.sent performed.2 ++ w.sends }
    else w

def run (hash : Hash κ) (w : World κ) (events : List Event) : World κ := events.foldl (step hash) w

end World

end SellerAgents.CommandLedger
