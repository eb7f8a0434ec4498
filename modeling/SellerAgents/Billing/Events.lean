import SellerAgents.Billing.Calendar
import SellerAgents.Billing.Materializer

open Relational SellerAgents.Subscriptions

namespace SellerAgents.Billing

structure VerifiedBillingEvent where
  provider : String
  eventIdentity : String
  eventType : BillingEventType
  providerPaymentId : String
  amountMinor : Nat
  currency : String
  occurredAt : Date
  payloadSha256 : String

/-- The input of `applyVerifiedBillingEvent`; its context only goes to the audit. -/
structure BillingEventInput where
  event : VerifiedBillingEvent
  receivedAt : Date
  verifiedAt : Date

inductive BillingEventProcessingResult where
  | APPLIED (replay : Bool) (billingEventId : String)
      (paymentId subscriptionId subscriptionTransitionId : Option String)
  | IGNORED (replay : Bool) (billingEventId : String) (paymentId subscriptionId : Option String)
  | FAILED (replay : Bool) (billingEventId : String) (code : BillingEventFailureCode)
      (paymentId subscriptionId : Option String)

def resultFromTerminal (row : BillingEvent) (replay : Bool) : BillingEventProcessingResult :=
  match row.processingState with
  | .APPLIED => .APPLIED replay row.id row.paymentId row.subscriptionId row.subscriptionTransitionId
  | .IGNORED => .IGNORED replay row.id row.paymentId row.subscriptionId
  | _ => .FAILED replay row.id (row.failureCode.getD .CHECKOUT_CORRUPTED) row.paymentId
      row.subscriptionId

/-- What the end of an event refers to. -/
structure EventRefs where
  paymentId : Option String := none
  subscriptionId : Option String := none
  subscriptionTransitionId : Option String := none
  failureCode : Option BillingEventFailureCode := none

/-- The update of an event row that ends its processing. -/
def BillingEvent.ended (row : BillingEvent) (state : ProcessingState) (processedAt : Date)
    (refs : EventRefs) : BillingEvent :=
  { row with
    processingState := state
    processedAt := some processedAt
    paymentId := refs.paymentId
    subscriptionId := refs.subscriptionId
    subscriptionTransitionId := refs.subscriptionTransitionId
    failureCode := refs.failureCode }

/-- The codes after which a payment is to be reconciled again. -/
def BillingEventFailureCode.retryable : BillingEventFailureCode → Bool
  | .CURRENT_SUBSCRIPTION_CONFLICT => true
  | .PAYMENT_STATE_CONFLICT => true
  | .PAYMENT_SUBSCRIPTION_CORRUPTED => true
  | _ => false

def BillingReconciliationJob.isOpen (job : BillingReconciliationJob) : Bool :=
  job.state = .READY || job.state = .LEASED

/-- The update of a payment's job by the end of one of its events. -/
def BillingReconciliationJob.afterEvent (timestamp : Date) (state : ProcessingState)
    (failureCode : Option BillingEventFailureCode) (job : BillingReconciliationJob) :
    BillingReconciliationJob :=
  if state = .FAILED ∧ failureCode.any BillingEventFailureCode.retryable then
    { job with
      state := .READY
      nextAttemptAt := some (max timestamp job.createdAt)
      leaseToken := none
      leaseUntil := none }
  else
    { job with
      state := if state = .FAILED then .BLOCKED else .SETTLED
      nextAttemptAt := none
      leaseToken := none
      leaseUntil := none }

/-- `terminalize` of the webhook repository. -/
def terminalize (draws : Draws) (eventId : String) (state : ProcessingState) (processedAt : Date)
    (refs : EventRefs) : Tx Database BillingEvent := do
  let updated ← updateBillingEvent eventId fun row => row.ended state processedAt refs
  match updated with
  | none => throw "BILLING_EVENT_CLAIM_LOST"
  | some row =>
    match refs.paymentId with
    | none => return row
    | some paymentId =>
      let _ ← updateReconciliationJobs (fun job => job.paymentId = paymentId ∧ job.isOpen)
        (BillingReconciliationJob.afterEvent draws.timestamp state refs.failureCode)
      return row

/-- `findPayment`. -/
def Database.findPayment (db : Database) (event : VerifiedBillingEvent) : Option Payment :=
  db.payments.find? fun payment =>
    payment.provider = event.provider ∧ payment.providerPaymentId = event.providerPaymentId

/-- `findCheckout`. -/
def Database.findCheckout (db : Database) (paymentId : String) : Option CheckoutIntent :=
  db.intents.find? (·.paymentId = some paymentId)

def BillingEventType.eventState : BillingEventType → PaymentState
  | .succeeded => .SUCCEEDED
  | .failed => .FAILED
  | .canceled => .CANCELED

/-- The checkout is the one of this payment, on the terms of its event. -/
def CheckoutIntent.coherent (checkout : CheckoutIntent) (payment : Payment)
    (event : VerifiedBillingEvent) : Bool :=
  checkout.state = .READY && checkout.accountId = payment.accountId &&
    checkout.provider = event.provider &&
    checkout.providerPaymentId = some event.providerPaymentId &&
    checkout.paymentId = some payment.id && checkout.priceRevisionId = payment.priceRevisionId &&
    checkout.amountMinor = event.amountMinor && checkout.currency = event.currency

/-- The row that a paid checkout activates. -/
def activatedSubscription (id accountId planRevisionId priceRevisionId : String)
    (startedAt periodEnd processedAt : Date) : SubscriptionSnapshot where
  id := id
  accountId := accountId
  state := .ACTIVE
  stateRevision := 1
  currentPlanRevisionId := planRevisionId
  boundPriceRevisionId := some priceRevisionId
  startedAt := startedAt
  currentPeriodStart := startedAt
  currentPeriodEnd := periodEnd
  graceUntil := none
  cancelAtPeriodEnd := false
  canceledAt := none
  suspendedAt := none
  createdAt := processedAt
  updatedAt := processedAt

/-- The inserts of an activation, here and in the reconciliation. -/
def insertActivated (subscription : SubscriptionSnapshot) (transitionId : String) :
    Tx Database Unit := do
  insertSubscription subscription
  insertSubscriptionTransition
    { id := transitionId
      subscriptionId := subscription.id
      transitionRevision := 1
      fromState := none
      toState := .ACTIVE }

/-! The updates of a payment by its events. -/

def Payment.moved (state : PaymentState) (updatedAt : Date) (row : Payment) : Payment :=
  { row with state := state, updatedAt := updatedAt }

def Payment.succeeded (confirmedAt updatedAt : Date) (row : Payment) : Payment :=
  { row with state := .SUCCEEDED, confirmedAt := some confirmedAt, updatedAt := updatedAt }

def Payment.linkedTo (subscriptionId : String) (updatedAt : Date) (row : Payment) : Payment :=
  { row with subscriptionId := some subscriptionId, updatedAt := updatedAt }

/-- `UPDATE payments SET subscription_id=… WHERE id=… AND subscription_id IS NULL`. -/
def linkPayment (id subscriptionId : String) (updatedAt : Date) : Tx Database Unit := do
  let db ← get
  if db.payments.any fun row => row.id = id ∧ row.subscriptionId = none then
    let _ ← updatePayment id (Payment.linkedTo subscriptionId updatedAt)

/-- The end of an event that failed on a payment. -/
def failEvent (draws : Draws) (eventId : String) (processedAt : Date) (payment : Payment)
    (code : BillingEventFailureCode) : Tx Database BillingEventProcessingResult := do
  let failed ← terminalize draws eventId .FAILED processedAt
    { paymentId := some payment.id, failureCode := some code }
  return resultFromTerminal failed false

/-- The branch for a payment that is no longer `PENDING`. -/
def applyToTerminalPayment (draws : Draws) (eventId : String) (desiredState : PaymentState)
    (payment : Payment) : Tx Database BillingEventProcessingResult := do
  let processedAt := draws.now 0
  if payment.state = desiredState ∧ desiredState ≠ .SUCCEEDED then
    let ignored ← terminalize draws eventId .IGNORED processedAt { paymentId := some payment.id }
    return resultFromTerminal ignored false
  else if payment.state = .SUCCEEDED ∧ desiredState = .SUCCEEDED then
    match payment.subscriptionId with
    | none => failEvent draws eventId processedAt payment .PAYMENT_SUBSCRIPTION_CORRUPTED
    | some subscriptionId =>
      let db ← get
      if db.subscriptions.any fun row =>
          row.id = subscriptionId ∧ row.accountId = payment.accountId then
        let ignored ← terminalize draws eventId .IGNORED processedAt
          { paymentId := some payment.id, subscriptionId := some subscriptionId }
        return resultFromTerminal ignored false
      else failEvent draws eventId processedAt payment .PAYMENT_SUBSCRIPTION_CORRUPTED
  else failEvent draws eventId processedAt payment .PAYMENT_STATE_CONFLICT

/-- The materialization after an activation, here and in the reconciliation. -/
def materializeActivated (draws : Draws) (accountId : String) : Tx Database Unit := do
  let activatedLifecycle ← materializeDueCurrentSubscriptionLocked (draws.uuid 4) accountId
    (draws.now 3)
  match activatedLifecycle with
  | .CORRUPTED _ => throw "SUBSCRIPTION_CORRUPTED"
  | _ => return ()

/-- The success branch, once the account has no current subscription. -/
def activateFromEvent (draws : Draws) (eventId : String) (event : VerifiedBillingEvent)
    (payment : Payment) (checkout : CheckoutIntent) :
    Tx Database BillingEventProcessingResult := do
  let processedAt := draws.now 2
  match addUtcCalendarInterval event.occurredAt checkout.billingIntervalUnit
      checkout.billingIntervalCount with
  | none => throw "INVALID_DATE"
  | some periodEnd =>
    let subscription := activatedSubscription (draws.uuid 2) payment.accountId
      checkout.planRevisionId payment.priceRevisionId event.occurredAt periodEnd processedAt
    insertActivated subscription (draws.uuid 3)
    linkPayment payment.id subscription.id processedAt
    materializeActivated draws payment.accountId
    let applied ← terminalize draws eventId .APPLIED (draws.now 4)
      { paymentId := some payment.id
        subscriptionId := some subscription.id
        subscriptionTransitionId := some (draws.uuid 3) }
    return resultFromTerminal applied false

/-- The branch for a `PENDING` payment that succeeded. -/
def applySuccess (draws : Draws) (eventId : String) (event : VerifiedBillingEvent)
    (payment : Payment) : Tx Database BillingEventProcessingResult := do
  let _ ← updatePayment payment.id (Payment.succeeded event.occurredAt (draws.now 0))
  let db ← get
  match db.findCheckout payment.id with
  | none => failEvent draws eventId (draws.now 0) payment .CHECKOUT_NOT_FOUND
  | some checkout =>
    if !checkout.coherent payment event then
      failEvent draws eventId (draws.now 0) payment .CHECKOUT_CORRUPTED
    else
      let current ← materializeDueCurrentSubscriptionLocked (draws.uuid 1) payment.accountId
        (draws.now 1)
      match current with
      | .CORRUPTED _ =>
        failEvent draws eventId (draws.now 2) payment .PAYMENT_SUBSCRIPTION_CORRUPTED
      | .CURRENT _ _ =>
        failEvent draws eventId (draws.now 2) payment .CURRENT_SUBSCRIPTION_CONFLICT
      | .NONE => activateFromEvent draws eventId event payment checkout

/-- An event on a payment it agrees with, under the lock of the account. -/
def applyToPayment (draws : Draws) (eventId : String) (event : VerifiedBillingEvent)
    (payment : Payment) : Tx Database BillingEventProcessingResult := do
  let desiredState := event.eventType.eventState
  if payment.state ≠ .PENDING then applyToTerminalPayment draws eventId desiredState payment
  else if desiredState ≠ .SUCCEEDED then
    let updated ← updatePayment payment.id (Payment.moved desiredState (draws.now 0))
    if updated.isNone then throw "PAYMENT_NOT_FOUND"
    let applied ← terminalize draws eventId .APPLIED (draws.now 0)
      { paymentId := some payment.id }
    return resultFromTerminal applied false
  else applySuccess draws eventId event payment

/-- A claimed event: its payment, and the checks of amount, currency and time. -/
def applyClaimed (draws : Draws) (input : BillingEventInput) (eventId : String) :
    Tx Database BillingEventProcessingResult := do
  let event := input.event
  let db ← get
  match db.findPayment event with
  | none =>
    let failed ← terminalize draws eventId .FAILED input.receivedAt
      { failureCode := some .PAYMENT_NOT_FOUND }
    return resultFromTerminal failed false
  | some payment =>
    if payment.amountMinor ≠ event.amountMinor ∨ payment.currency ≠ event.currency then
      failEvent draws eventId input.receivedAt payment .PAYMENT_TERMS_MISMATCH
    else if event.occurredAt < payment.createdAt ∨ input.receivedAt < event.occurredAt then
      failEvent draws eventId input.receivedAt payment .EVENT_TIME_INVALID
    else if !db.accounts.any (·.id = payment.accountId) then throw "ACCOUNT_NOT_FOUND"
    else applyToPayment draws eventId event payment

def Database.findEvent (db : Database) (provider eventIdentity : String) : Option BillingEvent :=
  db.events.find? fun row => row.provider = provider ∧ row.eventIdentity = eventIdentity

/-- The row that claims an event. -/
def BillingEventInput.claim (input : BillingEventInput) (id : String) : BillingEvent where
  id := id
  provider := input.event.provider
  source := .WEBHOOK
  eventIdentity := input.event.eventIdentity
  eventType := input.event.eventType
  payloadSha256 := input.event.payloadSha256
  processingState := .VERIFIED
  receivedAt := input.receivedAt
  verifiedAt := input.verifiedAt
  processedAt := none
  paymentId := none
  subscriptionId := none
  subscriptionTransitionId := none
  failureCode := none

def applyVerifiedBillingEvent (draws : Draws) (input : BillingEventInput) :
    Tx Database BillingEventProcessingResult := do
  let event := input.event
  let claimed ← insertBillingEvent (input.claim (draws.uuid 0))
  let db ← get
  match db.findEvent event.provider event.eventIdentity with
  | none => throw "BILLING_EVENT_CLAIM_LOST"
  | some ledger =>
    if ledger.eventType ≠ event.eventType ∨ ledger.payloadSha256 ≠ event.payloadSha256 then
      return .FAILED true ledger.id .EVENT_IDENTITY_CONFLICT ledger.paymentId ledger.subscriptionId
    else if ledger.processingState ≠ .VERIFIED then return resultFromTerminal ledger !claimed
    else applyClaimed draws input ledger.id

end SellerAgents.Billing
