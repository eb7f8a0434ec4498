import SellerAgents.Relational.Table
import SellerAgents.Relational.Transaction
import SellerAgents.Subscriptions.Lifecycle

open Relational SellerAgents.Subscriptions

namespace SellerAgents.Billing

inductive PaymentState where
  | PENDING
  | SUCCEEDED
  | FAILED
  | CANCELED
  | REFUNDED
  | CHARGEBACK
deriving DecidableEq

inductive BillingEventSource where
  | WEBHOOK
  | RECONCILIATION
deriving DecidableEq

inductive BillingEventType where
  | succeeded
  | failed
  | canceled
deriving DecidableEq

inductive ProcessingState where
  | VERIFIED
  | APPLIED
  | IGNORED
  | FAILED
deriving DecidableEq

/-- `BillingEventFailureCodeSchema`. -/
inductive BillingEventFailureCode where
  | MALFORMED_EVENT
  | INVALID_EVENT_PROOF
  | EVENT_IDENTITY_CONFLICT
  | PAYMENT_NOT_FOUND
  | PAYMENT_TERMS_MISMATCH
  | PAYMENT_STATE_CONFLICT
  | CHECKOUT_NOT_FOUND
  | CHECKOUT_CORRUPTED
  | EVENT_TIME_INVALID
  | CURRENT_SUBSCRIPTION_CONFLICT
  | PAYMENT_SUBSCRIPTION_CORRUPTED
  | SERVICE_UNAVAILABLE
deriving DecidableEq

inductive CheckoutIntentState where
  | CREATING
  | READY
  | FAILED
deriving DecidableEq

/-- `CheckoutFailureCodeSchema`; the codes of the offer resolver are one constructor. -/
inductive CheckoutFailureCode where
  | ACCOUNT_NOT_FOUND
  | FORBIDDEN
  | ACCOUNT_SUSPENDED
  | CURRENT_SUBSCRIPTION_EXISTS
  | CHECKOUT_IN_PROGRESS
  | IDEMPOTENCY_KEY_REUSED
  | CHECKOUT_PROVIDER_MISMATCH
  | PROVIDER_REJECTED
  | PROVIDER_UNAVAILABLE
  | CHECKOUT_CORRUPTED
  | PAYMENT_FAILED
  | PAYMENT_CANCELED
  | SERVICE_UNAVAILABLE
  | offer (code : String)
deriving DecidableEq

inductive BillingReconciliationJobState where
  | READY
  | LEASED
  | SETTLED
  | BLOCKED
deriving DecidableEq

inductive BillingIntervalUnit where
  | DAY
  | MONTH
  | YEAR
deriving DecidableEq

structure Account where
  id : String
  status : AccountStatus
deriving DecidableEq

/-- An `account_memberships` row of role `OWNER`. -/
structure OwnerMembership where
  accountId : String
  userId : String
deriving DecidableEq

/-- A `plan_revisions` row in state `PUBLISHED`. -/
structure PublishedPlan where
  id : String
  planId : String
deriving DecidableEq

/-- A `price_revisions` row in state `PUBLISHED`, with the `plan_id` of its price. -/
structure PublishedPrice where
  id : String
  planId : String
  planRevisionId : String
  amountMinor : Nat
  currency : String
  billingIntervalUnit : BillingIntervalUnit
  billingIntervalCount : Nat
  effectiveFrom : Date
  effectiveTo : Option Date
deriving DecidableEq

/-- A `subscription_transitions` row. -/
structure SubscriptionTransition where
  id : String
  subscriptionId : String
  transitionRevision : Nat
  fromState : Option SubscriptionState
  toState : SubscriptionState
deriving DecidableEq

/-- A payment of a checkout at its provider. -/
structure Payment where
  id : String
  accountId : String
  subscriptionId : Option String
  provider : String
  providerPaymentId : String
  priceRevisionId : String
  amountMinor : Nat
  currency : String
  state : PaymentState
  idempotencyKeyHash : String
  requestFingerprintSha256 : String
  createdAt : Date
  updatedAt : Date
  confirmedAt : Option Date
deriving DecidableEq

/-- A webhook or a status of a payment. -/
structure BillingEvent where
  id : String
  provider : String
  source : BillingEventSource
  eventIdentity : String
  eventType : BillingEventType
  payloadSha256 : String
  processingState : ProcessingState
  receivedAt : Date
  verifiedAt : Date
  processedAt : Option Date
  paymentId : Option String
  subscriptionId : Option String
  subscriptionTransitionId : Option String
  failureCode : Option BillingEventFailureCode
deriving DecidableEq

/-- An owner's wish to buy, under its idempotency key. -/
structure CheckoutIntent where
  id : String
  accountId : String
  priceRevisionId : String
  planRevisionId : String
  provider : String
  state : CheckoutIntentState
  idempotencyKeyHash : String
  requestFingerprintSha256 : String
  admittedAt : Date
  amountMinor : Nat
  currency : String
  billingIntervalUnit : BillingIntervalUnit
  billingIntervalCount : Nat
  providerCheckoutId : Option String
  providerPaymentId : Option String
  checkoutReference : Option String
  paymentId : Option String
  failureCode : Option CheckoutFailureCode
  createdAt : Date
  updatedAt : Date
  completedAt : Option Date
deriving DecidableEq

structure BillingReconciliationJob where
  paymentId : String
  state : BillingReconciliationJobState
  nextAttemptAt : Option Date
  leaseToken : Option String
  leaseUntil : Option Date
  attemptCount : Nat
  createdAt : Date
deriving DecidableEq

/-- The tables that the transactions read and write. -/
structure Database where
  accounts : List Account
  owners : List OwnerMembership
  plans : List PublishedPlan
  prices : List PublishedPrice
  subscriptions : List SubscriptionSnapshot
  transitions : List SubscriptionTransition
  payments : List Payment
  events : List BillingEvent
  intents : List CheckoutIntent
  jobs : List BillingReconciliationJob
deriving DecidableEq

/-- What the surroundings answer to one transaction: the ids `gen_random_uuid()` and `randomUUID()`
give at its call sites, the readings of the injected clock, and `CURRENT_TIMESTAMP`. -/
structure Draws where
  uuid : Nat → String
  now : Nat → Date
  timestamp : Date

/-! The unique indexes. -/

/-- `subscriptions_one_current_per_account`. -/
def currentKey (row : SubscriptionSnapshot) : Option String :=
  if row.state = .EXPIRED then none else some row.accountId

/-- `subscription_transitions_subscription_revision_unique`. -/
def transitionKey (row : SubscriptionTransition) : Option (String × Nat) :=
  some (row.subscriptionId, row.transitionRevision)

/-- `payments_provider_payment_unique`. -/
def providerPaymentKey (row : Payment) : Option (String × String) :=
  some (row.provider, row.providerPaymentId)

/-- `payments_account_idempotency_unique`. -/
def paymentIdempotencyKey (row : Payment) : Option (String × String) :=
  some (row.accountId, row.idempotencyKeyHash)

/-- `billing_events_provider_identity_unique`. -/
def eventKey (row : BillingEvent) : Option (String × String) :=
  some (row.provider, row.eventIdentity)

/-- `checkout_intents_account_idempotency_unique`. -/
def intentIdempotencyKey (row : CheckoutIntent) : Option (String × String) :=
  some (row.accountId, row.idempotencyKeyHash)

/-- `checkout_intents_one_creating_per_account_unique`. -/
def creatingKey (row : CheckoutIntent) : Option String :=
  if row.state = .CREATING then some row.accountId else none

/-- `checkout_intents_provider_checkout_unique`. -/
def intentProviderCheckoutKey (row : CheckoutIntent) : Option (String × String) :=
  row.providerCheckoutId.map fun id => (row.provider, id)

/-- `checkout_intents_provider_payment_unique`. -/
def intentProviderPaymentKey (row : CheckoutIntent) : Option (String × String) :=
  row.providerPaymentId.map fun id => (row.provider, id)

/-! The row checks and guard triggers. -/

/-- The checks of `subscriptions` and `p5_1_subscription_guard`. -/
def SubscriptionGuard (db : Database) (row : SubscriptionSnapshot) : Prop :=
  (0 < row.stateRevision ∧ row.currentPeriodStart < row.currentPeriodEnd ∧
    row.startedAt ≤ row.currentPeriodStart ∧ (∀ t ∈ row.graceUntil, row.currentPeriodEnd < t) ∧
    (∀ t ∈ row.canceledAt, row.startedAt ≤ t) ∧ (∀ t ∈ row.suspendedAt, row.startedAt ≤ t) ∧
    row.createdAt ≤ row.updatedAt) ∧
  ∃ plan ∈ db.plans, plan.id = row.currentPlanRevisionId ∧
    ∀ priceId ∈ row.boundPriceRevisionId,
      ∃ price ∈ db.prices, price.id = priceId ∧ price.planId = plan.planId

instance (db : Database) (row : SubscriptionSnapshot) : Decidable (SubscriptionGuard db row) :=
  inferInstanceAs (Decidable ((_ ∧ _ ∧ _ ∧ _ ∧ _ ∧ _ ∧ _) ∧ _))

/-- The checks of `subscription_transitions`. -/
def TransitionGuard (db : Database) (row : SubscriptionTransition) : Prop :=
  0 < row.transitionRevision ∧ (row.transitionRevision = 1 ↔ row.fromState = none) ∧
    row.fromState ≠ some row.toState ∧ ∃ owner ∈ db.subscriptions, owner.id = row.subscriptionId

instance (db : Database) (row : SubscriptionTransition) : Decidable (TransitionGuard db row) :=
  inferInstanceAs (Decidable (_ ∧ _ ∧ _ ∧ _))

/-- The checks of `payments` and the part of `p5_1_payment_guard` about the new row. -/
def PaymentGuard (db : Database) (row : Payment) : Prop :=
  (row.createdAt ≤ row.updatedAt ∧ (∀ t ∈ row.confirmedAt, row.createdAt ≤ t)) ∧
  (∃ price ∈ db.prices, price.id = row.priceRevisionId ∧ price.amountMinor = row.amountMinor ∧
    price.currency = row.currency) ∧
  ∀ id ∈ row.subscriptionId, ∃ subscription ∈ db.subscriptions,
    subscription.id = id ∧ subscription.accountId = row.accountId

instance (db : Database) (row : Payment) : Decidable (PaymentGuard db row) :=
  inferInstanceAs (Decidable (_ ∧ _ ∧ _))

/-- The checks of `billing_events` and the part of `p5_1_billing_event_guard` about a terminal row.
-/
def TerminalEventGuard (db : Database) (row : BillingEvent) : Prop :=
  (∀ t ∈ row.processedAt, row.verifiedAt ≤ t) ∧ row.processedAt ≠ none ∧
  (row.processingState = .FAILED ↔ row.failureCode ≠ none) ∧
  (∀ id ∈ row.subscriptionTransitionId, row.subscriptionId ≠ none ∧
    ∃ transition ∈ db.transitions, transition.id = id ∧
      some transition.subscriptionId = row.subscriptionId) ∧
  ∀ paymentId ∈ row.paymentId, (∃ payment ∈ db.payments, payment.id = paymentId) ∧
    ∀ id ∈ row.subscriptionId, ∃ payment ∈ db.payments, payment.id = paymentId ∧
      ∃ subscription ∈ db.subscriptions, subscription.id = id ∧
        subscription.accountId = payment.accountId

instance (db : Database) (row : BillingEvent) : Decidable (TerminalEventGuard db row) :=
  inferInstanceAs (Decidable (_ ∧ _ ∧ _ ∧ _ ∧ _))

/-- The part of `p5_3_checkout_intent_guard` about the price revision. -/
def IntentGuard (db : Database) (row : CheckoutIntent) : Prop :=
  row.createdAt ≤ row.updatedAt ∧ (∀ t ∈ row.completedAt, row.admittedAt ≤ t) ∧
  (∃ account ∈ db.accounts, account.id = row.accountId) ∧
  (∃ plan ∈ db.plans, plan.id = row.planRevisionId) ∧
  ∃ price ∈ db.prices, price.id = row.priceRevisionId ∧
    price.planRevisionId = row.planRevisionId ∧ price.amountMinor = row.amountMinor ∧
    price.currency = row.currency ∧ price.billingIntervalUnit = row.billingIntervalUnit ∧
    price.billingIntervalCount = row.billingIntervalCount ∧
    price.effectiveFrom ≤ row.admittedAt ∧ ∀ t ∈ price.effectiveTo, row.admittedAt < t

instance (db : Database) (row : CheckoutIntent) : Decidable (IntentGuard db row) :=
  inferInstanceAs (Decidable (_ ∧ _ ∧ _ ∧ _ ∧ _))

/-- The part of `p5_3_checkout_intent_guard` about a `READY` row and its payment. -/
def ReadyIntentGuard (db : Database) (row : CheckoutIntent) : Prop :=
  row.providerCheckoutId ≠ none ∧ row.checkoutReference ≠ none ∧ row.completedAt ≠ none ∧
  row.failureCode = none ∧
  ∃ payment ∈ db.payments, row.paymentId = some payment.id ∧ payment.state = .PENDING ∧
    payment.accountId = row.accountId ∧ payment.provider = row.provider ∧
    row.providerPaymentId = some payment.providerPaymentId ∧
    payment.priceRevisionId = row.priceRevisionId ∧ payment.amountMinor = row.amountMinor ∧
    payment.currency = row.currency ∧ payment.idempotencyKeyHash = row.idempotencyKeyHash ∧
    payment.requestFingerprintSha256 = row.requestFingerprintSha256

instance (db : Database) (row : CheckoutIntent) : Decidable (ReadyIntentGuard db row) :=
  inferInstanceAs (Decidable (_ ∧ _ ∧ _ ∧ _ ∧ _))

/-! The statements that write a table. -/

def insertSubscription (row : SubscriptionSnapshot) : Tx Database Unit := do
  let db ← get
  ensure (∃ account ∈ db.accounts, account.id = row.accountId) "subscriptions_account_id_fk"
  ensure (Fresh (fun r => some r.id) row db.subscriptions) "subscriptions_pkey"
  ensure (Fresh currentKey row db.subscriptions) "subscriptions_one_current_per_account"
  ensure (SubscriptionGuard db row) "p5_1_subscription_guard"
  modify fun db => { db with subscriptions := db.subscriptions ++ [row] }

/-- An update of one subscription by id, which keeps its identity. -/
def updateSubscription (id : String) (set : SubscriptionSnapshot → SubscriptionSnapshot) :
    Tx Database (Option SubscriptionSnapshot) := do
  let db ← get
  match db.subscriptions.find? (·.id = id) with
  | none => return none
  | some row =>
    ensure (SubscriptionGuard db (set row)) "p5_1_subscription_guard"
    ensure (UniqueBy currentKey (updateWhere (·.id = id) set db.subscriptions))
      "subscriptions_one_current_per_account"
    modify fun db => { db with subscriptions := updateWhere (·.id = id) set db.subscriptions }
    return some (set row)

def insertSubscriptionTransition (row : SubscriptionTransition) : Tx Database Unit := do
  let db ← get
  ensure (Fresh (fun r => some r.id) row db.transitions) "subscription_transitions_pkey"
  ensure (Fresh transitionKey row db.transitions)
    "subscription_transitions_subscription_revision_unique"
  ensure (TransitionGuard db row) "subscription_transitions"
  modify fun db => { db with transitions := db.transitions ++ [row] }

def insertPayment (row : Payment) : Tx Database Unit := do
  let db ← get
  ensure (∃ account ∈ db.accounts, account.id = row.accountId) "payments_account_id_fk"
  ensure (Fresh (fun r => some r.id) row db.payments) "payments_pkey"
  ensure (Fresh providerPaymentKey row db.payments) "payments_provider_payment_unique"
  ensure (Fresh paymentIdempotencyKey row db.payments) "payments_account_idempotency_unique"
  ensure (PaymentGuard db row) "p5_1_payment_guard"
  modify fun db => { db with payments := db.payments ++ [row] }

/-- An update of one payment by id, which keeps its commercial identity. -/
def updatePayment (id : String) (set : Payment → Payment) : Tx Database (Option Payment) := do
  let db ← get
  match db.payments.find? (·.id = id) with
  | none => return none
  | some row =>
    ensure (row.subscriptionId = none ∨ (set row).subscriptionId = row.subscriptionId)
      "p5_1_payment_guard"
    ensure (PaymentGuard db (set row)) "p5_1_payment_guard"
    modify fun db => { db with payments := updateWhere (·.id = id) set db.payments }
    return some (set row)

/-- `INSERT … ON CONFLICT(provider,event_identity) DO NOTHING`; whether a row came in. -/
def insertBillingEvent (row : BillingEvent) : Tx Database Bool := do
  let db ← get
  if Fresh eventKey row db.events then
    ensure (Fresh (fun r => some r.id) row db.events) "billing_events_pkey"
    ensure (row.receivedAt ≤ row.verifiedAt) "billing_events_verified_after_received"
    modify fun db => { db with events := db.events ++ [row] }
    return true
  else return false

/-- The update that ends the processing of an event. -/
def updateBillingEvent (id : String) (set : BillingEvent → BillingEvent) :
    Tx Database (Option BillingEvent) := do
  let db ← get
  match db.events.find? (·.id = id) with
  | none => return none
  | some row =>
    ensure (row.processingState = .VERIFIED) "p5_1_billing_event_guard"
    ensure (TerminalEventGuard db (set row)) "p5_1_billing_event_guard"
    modify fun db => { db with events := updateWhere (·.id = id) set db.events }
    return some (set row)

def insertCheckoutIntent (row : CheckoutIntent) : Tx Database Unit := do
  let db ← get
  ensure (Fresh (fun r => some r.id) row db.intents) "checkout_intents_pkey"
  ensure (Fresh intentIdempotencyKey row db.intents) "checkout_intents_account_idempotency_unique"
  ensure (Fresh creatingKey row db.intents) "checkout_intents_one_creating_per_account_unique"
  ensure (IntentGuard db row) "p5_3_checkout_intent_guard"
  modify fun db => { db with intents := db.intents ++ [row] }

/-- The update that ends a checkout intent, to `READY` or `FAILED`. -/
def updateCheckoutIntent (id : String) (set : CheckoutIntent → CheckoutIntent) :
    Tx Database (Option CheckoutIntent) := do
  let db ← get
  match db.intents.find? (·.id = id) with
  | none => return none
  | some row =>
    ensure (row.state = .CREATING) "p5_3_checkout_intent_guard"
    ensure (IntentGuard db (set row)) "p5_3_checkout_intent_guard"
    ensure ((set row).state = .READY → ReadyIntentGuard db (set row)) "p5_3_checkout_intent_guard"
    ensure (UniqueBy intentProviderCheckoutKey (updateWhere (·.id = id) set db.intents))
      "checkout_intents_provider_checkout_unique"
    ensure (UniqueBy intentProviderPaymentKey (updateWhere (·.id = id) set db.intents))
      "checkout_intents_provider_payment_unique"
    ensure (UniqueBy CheckoutIntent.paymentId (updateWhere (·.id = id) set db.intents))
      "checkout_intents_payment_unique"
    modify fun db => { db with intents := updateWhere (·.id = id) set db.intents }
    return some (set row)

def insertReconciliationJob (row : BillingReconciliationJob) : Tx Database Unit := do
  let db ← get
  ensure (Fresh (fun r => some r.paymentId) row db.jobs) "billing_reconciliation_jobs_pkey"
  ensure (∃ payment ∈ db.payments, payment.id = row.paymentId)
    "billing_reconciliation_jobs_payment_id_fk"
  modify fun db => { db with jobs := db.jobs ++ [row] }

/-- `UPDATE billing_reconciliation_jobs … WHERE …`, on rows that are not terminal; whether a row was
updated. -/
def updateReconciliationJobs (where' : BillingReconciliationJob → Bool)
    (set : BillingReconciliationJob → BillingReconciliationJob) : Tx Database Bool := do
  let db ← get
  ensure (∀ job ∈ db.jobs, where' job → job.state = .READY ∨ job.state = .LEASED)
    "p5_5_reconciliation_job_guard"
  modify fun db => { db with jobs := updateWhere where' set db.jobs }
  return db.jobs.any where'

end SellerAgents.Billing
