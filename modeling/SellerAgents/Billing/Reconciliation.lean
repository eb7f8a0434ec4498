import Mathlib.Data.List.Sort
import SellerAgents.Billing.Events

open Relational SellerAgents.Subscriptions

namespace SellerAgents.Billing

inductive BillingPaymentStatusState where
  | PENDING
  | SUCCEEDED
  | FAILED
  | CANCELED
deriving DecidableEq

/-- `BillingPaymentStatusFound`. -/
structure BillingPaymentStatus where
  state : BillingPaymentStatusState
  amountMinor : Nat
  currency : String
  statusAt : Date

/-- `BillingReconciliationRetryCode`. -/
inductive BillingReconciliationRetryCode where
  | PROVIDER_PENDING
  | PROVIDER_UNAVAILABLE
  | PROVIDER_NOT_FOUND
  | CURRENT_SUBSCRIPTION_CONFLICT
  | PAYMENT_STATE_CONFLICT
  | PAYMENT_SUBSCRIPTION_CORRUPTED

/-- A leased job with the payment it is about. -/
structure BillingReconciliationClaim where
  paymentId : String
  provider : String
  providerPaymentId : String
  accountId : String
  priceRevisionId : String
  amountMinor : Nat
  currency : String
  paymentState : PaymentState
  createdAt : Date
  attemptCount : Nat
  leaseToken : String
deriving DecidableEq

inductive BillingReconciliationProcessResult where
  | RESCHEDULED (code : BillingReconciliationRetryCode)
  | APPLIED (paymentId billingEventId : String)
  | IGNORED (paymentId billingEventId : String)
  | BLOCKED (paymentId code : String)
  | FAILED (paymentId : String) (code : Option BillingEventFailureCode) (billingEventId : String)
  | STALE_LEASE (paymentId : String)

/-- The state a terminal status gives to a payment. -/
def BillingPaymentStatusState.paymentState : BillingPaymentStatusState → PaymentState
  | .PENDING => .PENDING
  | .SUCCEEDED => .SUCCEEDED
  | .FAILED => .FAILED
  | .CANCELED => .CANCELED

/-- `eventType`. -/
def BillingPaymentStatusState.eventType : BillingPaymentStatusState → BillingEventType
  | .SUCCEEDED => .succeeded
  | .FAILED => .failed
  | _ => .canceled

def BillingPaymentStatusState.text : BillingPaymentStatusState → String
  | .PENDING => "PENDING"
  | .SUCCEEDED => "SUCCEEDED"
  | .FAILED => "FAILED"
  | .CANCELED => "CANCELED"

/-- The runtime's digest of a text and its text of a date. -/
structure Hashing where
  sha256 : String → String
  toISOString : Date → String

section Identity

variable (hashing : Hashing)

def reconciliationPayloadSha256 (claim : BillingReconciliationClaim)
    (status : BillingPaymentStatus) : String :=
  hashing.sha256 (String.intercalate "\n"
    ["product-control-plane/billing-reconciliation/payload/v1",
      "paymentId=" ++ claim.paymentId,
      "provider=" ++ claim.provider,
      "providerPaymentId=" ++ claim.providerPaymentId,
      "state=" ++ status.state.text,
      "amountMinor=" ++ toString status.amountMinor,
      "currency=" ++ status.currency,
      "statusAt=" ++ hashing.toISOString status.statusAt])

def reconciliationEventIdentity (claim : BillingReconciliationClaim)
    (status : BillingPaymentStatus) : String :=
  "recon_v1_" ++ hashing.sha256 (String.intercalate "\n"
    ["product-control-plane/billing-reconciliation/event-identity/v1",
      "paymentId=" ++ claim.paymentId,
      "attempt=" ++ toString claim.attemptCount,
      "state=" ++ status.state.text,
      "statusAt=" ++ hashing.toISOString status.statusAt,
      "payloadSha256=" ++ reconciliationPayloadSha256 hashing claim status])

end Identity

/-- Whether a claim run at `now` may take the job. -/
def BillingReconciliationJob.isDue (job : BillingReconciliationJob) (now : Date) : Bool :=
  (job.state = .READY && job.nextAttemptAt.any (· ≤ now)) ||
    (job.state = .LEASED && job.leaseUntil.any (· ≤ now))

/-- `ORDER BY next_attempt_at NULLS FIRST, created_at, payment_id`. -/
def BillingReconciliationJob.dueOrder (job other : BillingReconciliationJob) : Ordering :=
  (compare job.nextAttemptAt other.nextAttemptAt).then
    ((compare job.createdAt other.createdAt).then (compare job.paymentId other.paymentId))

/-- The jobs of one claim run; `locked` holds the jobs that other transactions hold. -/
def dueJobs (db : Database) (now : Date) (batchSize : Nat) (locked : List String) :
    List (BillingReconciliationJob × Payment) :=
  ((((db.jobs.filter fun job => job.isDue now && !locked.contains job.paymentId).insertionSort
      fun job other => (job.dueOrder other).isLE).filterMap fun job =>
        (db.payments.find? (·.id = job.paymentId)).map fun payment => (job, payment))).take batchSize

/-- What a claim run hands out for a job. -/
def claimOf (job : BillingReconciliationJob) (payment : Payment) (leaseToken : String) :
    BillingReconciliationClaim where
  paymentId := payment.id
  provider := payment.provider
  providerPaymentId := payment.providerPaymentId
  accountId := payment.accountId
  priceRevisionId := payment.priceRevisionId
  amountMinor := payment.amountMinor
  currency := payment.currency
  paymentState := payment.state
  createdAt := payment.createdAt
  attemptCount := job.attemptCount + 1
  leaseToken := leaseToken

/-- The loop of `claimDue` over its jobs; each takes the next token. -/
def claimJobs (draws : Draws) (now : Date) (leaseMs : Nat) :
    Nat → List (BillingReconciliationJob × Payment) → Tx Database (List BillingReconciliationClaim)
  | _, [] => return []
  | next, (job, payment) :: rest => do
    let token := draws.uuid next
    let updated ← updateReconciliationJobs
      (fun row => row.paymentId = payment.id ∧
        (row.state = .READY ∨ (row.state = .LEASED ∧ row.leaseUntil.any (· ≤ now))))
      fun row =>
        { row with
          state := .LEASED
          nextAttemptAt := none
          leaseToken := some token
          leaseUntil := some (now + leaseMs)
          attemptCount := row.attemptCount + 1 }
    let claims ← claimJobs draws now leaseMs (next + 1) rest
    return if updated then claimOf job payment token :: claims else claims

def claimDue (draws : Draws) (now : Date) (leaseMs batchSize : Nat) (locked : List String) :
    Tx Database (List BillingReconciliationClaim) := do
  if leaseMs = 0 then throw "INVALID_LEASE"
  else
    let db ← get
    claimJobs draws now leaseMs 0 (dueJobs db now batchSize locked)

def finishJob (paymentId leaseToken : String) (state : BillingReconciliationJobState)
    (nextAttemptAt : Option Date) : Tx Database Bool :=
  updateReconciliationJobs
    (fun job => job.paymentId = paymentId ∧ job.state = .LEASED ∧ job.leaseToken = some leaseToken)
    fun job =>
      { job with
        state := state
        nextAttemptAt := nextAttemptAt
        leaseToken := none
        leaseUntil := none }

def reschedule (paymentId leaseToken : String) (nextAttemptAt : Date)
    (code : BillingReconciliationRetryCode) : Tx Database BillingReconciliationProcessResult := do
  let ok ← finishJob paymentId leaseToken .READY (some nextAttemptAt)
  return if ok then .RESCHEDULED code else .STALE_LEASE paymentId

def blockUnsupported (claim : BillingReconciliationClaim) (code : String) :
    Tx Database BillingReconciliationProcessResult := do
  let ok ← finishJob claim.paymentId claim.leaseToken .BLOCKED none
  return if ok then .BLOCKED claim.paymentId code else .STALE_LEASE claim.paymentId

def terminalResult (row : BillingEvent) (paymentId : String) :
    BillingReconciliationProcessResult :=
  match row.processingState with
  | .APPLIED => .APPLIED paymentId row.id
  | .IGNORED => .IGNORED paymentId row.id
  | _ => .FAILED paymentId row.failureCode row.id

/-- The end of an observed status: the event, and the job under its lease. `terminalize` of this
repository leaves the job to `finishJob`. -/
def settle (claim : BillingReconciliationClaim) (eventId : String) (state : ProcessingState)
    (processedAt : Date) (refs : EventRefs) (job : BillingReconciliationJobState)
    (nextAttemptAt : Option Date) : Tx Database BillingReconciliationProcessResult := do
  let updated ← updateBillingEvent eventId fun row =>
    row.ended state processedAt { refs with paymentId := some claim.paymentId }
  match updated with
  | none => throw "BILLING_EVENT_CLAIM_LOST"
  | some row =>
    let _ ← finishJob claim.paymentId claim.leaseToken job nextAttemptAt
    return terminalResult row claim.paymentId

/-- The checkout is the one of the claimed payment. -/
def CheckoutIntent.coherentWith (checkout : CheckoutIntent) (claim : BillingReconciliationClaim) :
    Bool :=
  checkout.state = .READY && checkout.accountId = claim.accountId &&
    checkout.provider = claim.provider &&
    checkout.providerPaymentId = some claim.providerPaymentId &&
    checkout.paymentId = some claim.paymentId &&
    checkout.priceRevisionId = claim.priceRevisionId &&
    checkout.amountMinor = claim.amountMinor && checkout.currency = claim.currency

/-- The update of a payment that a status activates. -/
def Payment.repaired (statusAt : Date) (subscriptionId : String) (updatedAt : Date)
    (row : Payment) : Payment :=
  { row with
    state := .SUCCEEDED
    confirmedAt := if row.state = .SUCCEEDED then row.confirmedAt else some statusAt
    subscriptionId := some subscriptionId
    updatedAt := updatedAt }

/-- The success branch of `applyStatus`, once the account has no current subscription. -/
def activateFromStatus (draws : Draws) (claim : BillingReconciliationClaim)
    (status : BillingPaymentStatus) (eventId : String) (checkout : CheckoutIntent) :
    Tx Database BillingReconciliationProcessResult := do
  let classifiedAt := draws.now 2
  match addUtcCalendarInterval status.statusAt checkout.billingIntervalUnit
      checkout.billingIntervalCount with
  | none => throw "INVALID_DATE"
  | some periodEnd =>
    let subscription := activatedSubscription (draws.uuid 2) claim.accountId
      checkout.planRevisionId claim.priceRevisionId status.statusAt periodEnd classifiedAt
    insertActivated subscription (draws.uuid 3)
    let _ ← updatePayment claim.paymentId
      (Payment.repaired status.statusAt subscription.id classifiedAt)
    materializeActivated draws claim.accountId
    settle claim eventId .APPLIED (draws.now 4)
      { subscriptionId := some subscription.id, subscriptionTransitionId := some (draws.uuid 3) }
      .SETTLED none

/-- `BILLING_RECONCILIATION_RETRY_DELAY_MS`, also written out in the repository. -/
def retryDelayMs : Int := 60000

/-- The success branch of `applyStatus`. -/
def applySucceededStatus (draws : Draws) (claim : BillingReconciliationClaim)
    (status : BillingPaymentStatus) (eventId : String) (payment : Payment) :
    Tx Database BillingReconciliationProcessResult := do
  let classifiedAt := draws.now 0
  let db ← get
  match db.findCheckout claim.paymentId with
  | none =>
    settle claim eventId .FAILED classifiedAt { failureCode := some .CHECKOUT_NOT_FOUND }
      .BLOCKED none
  | some checkout =>
    if !checkout.coherentWith claim then
      settle claim eventId .FAILED classifiedAt { failureCode := some .CHECKOUT_CORRUPTED }
        .BLOCKED none
    else
      match payment.subscriptionId with
      | some subscriptionId =>
        if (db.subscriptions.find? (·.id = subscriptionId)).any
            (·.accountId = claim.accountId) then
          settle claim eventId .IGNORED classifiedAt { subscriptionId := some subscriptionId }
            .SETTLED none
        else
          settle claim eventId .FAILED classifiedAt
            { failureCode := some .PAYMENT_SUBSCRIPTION_CORRUPTED } .READY
            (some (classifiedAt + retryDelayMs))
      | none =>
        let current ← materializeDueCurrentSubscriptionLocked (draws.uuid 1) claim.accountId
          (draws.now 1)
        match current with
        | .CORRUPTED _ =>
          settle claim eventId .FAILED (draws.now 2)
            { failureCode := some .PAYMENT_SUBSCRIPTION_CORRUPTED } .READY
            (some (draws.now 2 + retryDelayMs))
        | .CURRENT _ _ =>
          settle claim eventId .FAILED (draws.now 2)
            { failureCode := some .CURRENT_SUBSCRIPTION_CONFLICT } .READY
            (some (draws.now 2 + retryDelayMs))
        | .NONE => activateFromStatus draws claim status eventId checkout

/-- A status on the payment of a claim, under the lock of the account. -/
def applyStatusToPayment (draws : Draws) (claim : BillingReconciliationClaim)
    (status : BillingPaymentStatus) (eventId : String) (payment : Payment) :
    Tx Database BillingReconciliationProcessResult := do
  let classifiedAt := draws.now 0
  if payment.state = .REFUNDED ∨ payment.state = .CHARGEBACK ∨
      (payment.state = .SUCCEEDED ∧ status.state ≠ .SUCCEEDED) then
    settle claim eventId .FAILED classifiedAt { failureCode := some .PAYMENT_STATE_CONFLICT }
      .BLOCKED none
  else if payment.state = status.state.paymentState ∧ status.state ≠ .SUCCEEDED then
    settle claim eventId .IGNORED classifiedAt {} .SETTLED none
  else if status.state ≠ .SUCCEEDED then
    let _ ← updatePayment claim.paymentId (Payment.moved status.state.paymentState classifiedAt)
    settle claim eventId .APPLIED classifiedAt {} .SETTLED none
  else applySucceededStatus draws claim status eventId payment

/-- The row that claims the event of an observed status. -/
def reconciliationEvent (hashing : Hashing) (id : String) (claim : BillingReconciliationClaim)
    (status : BillingPaymentStatus) (processedAt : Date) : BillingEvent where
  id := id
  provider := claim.provider
  source := .RECONCILIATION
  eventIdentity := reconciliationEventIdentity hashing claim status
  eventType := status.state.eventType
  payloadSha256 := reconciliationPayloadSha256 hashing claim status
  processingState := .VERIFIED
  receivedAt := processedAt
  verifiedAt := processedAt
  processedAt := none
  paymentId := none
  subscriptionId := none
  subscriptionTransitionId := none
  failureCode := none

/-- A terminal status, under a lease that is the claim's. -/
def applyTerminalStatus (hashing : Hashing) (draws : Draws) (claim : BillingReconciliationClaim)
    (status : BillingPaymentStatus) (processedAt : Date) :
    Tx Database BillingReconciliationProcessResult := do
  let _ ← insertBillingEvent
    (reconciliationEvent hashing (draws.uuid 0) claim status processedAt)
  let db ← get
  match db.findEvent claim.provider (reconciliationEventIdentity hashing claim status) with
  | none => throw "BILLING_EVENT_CLAIM_LOST"
  | some event =>
    if event.processingState ≠ .VERIFIED then
      let _ ← finishJob claim.paymentId claim.leaseToken .SETTLED none
      return terminalResult event claim.paymentId
    else if status.amountMinor ≠ claim.amountMinor ∨ status.currency ≠ claim.currency then
      settle claim event.id .FAILED processedAt { failureCode := some .PAYMENT_TERMS_MISMATCH }
        .BLOCKED none
    else if status.statusAt < claim.createdAt ∨ processedAt < status.statusAt then
      settle claim event.id .FAILED processedAt { failureCode := some .EVENT_TIME_INVALID }
        .BLOCKED none
    else if !db.accounts.any (·.id = claim.accountId) then throw "ACCOUNT_NOT_FOUND"
    else
      match db.payments.find? (·.id = claim.paymentId) with
      | none => throw "PAYMENT_NOT_FOUND"
      | some payment => applyStatusToPayment draws claim status event.id payment

def applyStatus (hashing : Hashing) (draws : Draws) (claim : BillingReconciliationClaim)
    (status : BillingPaymentStatus) (processedAt : Date) :
    Tx Database BillingReconciliationProcessResult := do
  let db ← get
  if !(db.jobs.find? (·.paymentId = claim.paymentId)).any (fun job =>
      job.state = .LEASED ∧ job.leaseToken = some claim.leaseToken) then
    return .STALE_LEASE claim.paymentId
  else if status.state = .PENDING then
    let ok ← finishJob claim.paymentId claim.leaseToken .READY (some (draws.now 0 + retryDelayMs))
    return if ok then .RESCHEDULED .PROVIDER_PENDING else .STALE_LEASE claim.paymentId
  else applyTerminalStatus hashing draws claim status processedAt

end SellerAgents.Billing
