import SellerAgents.Billing.Materializer

open Relational SellerAgents.Subscriptions

namespace SellerAgents.Billing

/-- A checkout intent as the repository returns it, with the state of its payment. -/
structure CheckoutIntentSnapshot : Type extends CheckoutIntent where
  paymentState : Option PaymentState
deriving DecidableEq

structure CheckoutAccountObservation where
  accountExists : Bool
  owner : Bool
  accountStatus : Option AccountStatus
  hasCurrentSubscription : Bool

structure CheckoutInspection where
  account : CheckoutAccountObservation
  intent : Option CheckoutIntentSnapshot

/-- The part of a `PurchasableOffer` that a checkout takes over. -/
structure CheckoutOffer where
  planRevisionId : String
  priceRevisionId : String
  amountMinor : Nat
  currency : String
  billingIntervalUnit : BillingIntervalUnit
  billingIntervalCount : Nat

structure CheckoutPrepareInput where
  accountId : String
  actorId : String
  provider : String
  idempotencyKeyHash : String
  requestFingerprintSha256 : String
  admittedAt : Date
  offer : CheckoutOffer

inductive CheckoutPrepareResult where
  | CREATED (intent : CheckoutIntentSnapshot)
  | EXISTING (intent : CheckoutIntentSnapshot)
  | REJECTED (code : CheckoutFailureCode)
deriving DecidableEq

inductive CheckoutFinalizeResult where
  | READY (intent : CheckoutIntentSnapshot)
  | FAILED (intent : CheckoutIntentSnapshot) (code : CheckoutFailureCode)
  | REJECTED (code : CheckoutFailureCode)
  | SERVICE_UNAVAILABLE

/-- `ProviderCheckoutResult`. -/
inductive ProviderCheckoutResult where
  | CREATED (providerCheckoutId providerPaymentId checkoutReference : String)
  | REJECTED
  | UNAVAILABLE

/-- What `lockAccount` finds. -/
def Database.hasAccount (db : Database) (accountId : String) : Bool :=
  db.accounts.any (·.id = accountId)

def accountPolicy (db : Database) (accountId actorId : String) (now : Date) :
    CheckoutAccountObservation :=
  match db.accounts.find? (·.id = accountId) with
  | none => ⟨false, false, none, false⟩
  | some account =>
    ⟨true, db.owners.any fun member => member.accountId = accountId ∧ member.userId = actorId,
      some account.status, hasCurrentSubscriptionAt db accountId now⟩

/-- `checkout_intents i LEFT JOIN payments p ON p.id=i.payment_id`. -/
def Database.joined (db : Database) (row : CheckoutIntent) : CheckoutIntentSnapshot where
  toCheckoutIntent := row
  paymentState := row.paymentId.bind fun id => (db.payments.find? (·.id = id)).map Payment.state

def loadIntent (db : Database) (accountId hash : String) : Option CheckoutIntentSnapshot :=
  (db.intents.find? fun row => row.accountId = accountId ∧ row.idempotencyKeyHash = hash).map
    db.joined

/-- One row of the loop in `otherActionableIntent`. -/
def CheckoutIntentSnapshot.hinders (row : CheckoutIntentSnapshot) : Option CheckoutFailureCode :=
  if row.state = .CREATING then some .CHECKOUT_IN_PROGRESS
  else
    match row.paymentId, row.paymentState with
    | some _, some .PENDING => some .CHECKOUT_IN_PROGRESS
    | some _, some .FAILED => none
    | some _, some .CANCELED => none
    | _, _ => some .CHECKOUT_CORRUPTED

def otherActionableIntent (db : Database) (accountId idempotencyKeyHash : String) :
    Option CheckoutFailureCode :=
  (db.intents.filter fun row => row.accountId = accountId ∧
      row.idempotencyKeyHash ≠ idempotencyKeyHash ∧ (row.state = .CREATING ∨ row.state = .READY)
    ).findSome? fun row => (db.joined row).hinders

/-- What the repository answers for an intent that is no longer `CREATING`. -/
def CheckoutIntentSnapshot.ended (intent : CheckoutIntentSnapshot) : CheckoutFinalizeResult :=
  if intent.state = .READY then .READY intent
  else .FAILED intent (intent.failureCode.getD .CHECKOUT_CORRUPTED)

def terminalFailure (draws : Draws) (intent : CheckoutIntentSnapshot) (code : CheckoutFailureCode)
    (completedAt : Date) : Tx Database CheckoutFinalizeResult := do
  if intent.state ≠ .CREATING then return intent.ended
  else
    let updated ← updateCheckoutIntent intent.id fun row =>
      { row with
        state := .FAILED
        failureCode := some code
        updatedAt := max draws.timestamp completedAt
        completedAt := some (max draws.timestamp completedAt) }
    match updated with
    | none => throw "TypeError"
    | some next => return .FAILED ⟨next, none⟩ code

def inspectCheckout (draws : Draws) (accountId actorId idempotencyKeyHash : String) :
    Tx Database CheckoutInspection := do
  let db ← get
  let account := accountPolicy db accountId actorId (draws.now 0)
  return ⟨account,
    if account.accountExists && account.owner then loadIntent db accountId idempotencyKeyHash
    else none⟩

/-- The checks of an account, in their order; the service's `actionabilityFailure` too. -/
def CheckoutAccountObservation.blocked (account : CheckoutAccountObservation) :
    Option CheckoutFailureCode :=
  if !account.accountExists then some .ACCOUNT_NOT_FOUND
  else if !account.owner then some .FORBIDDEN
  else if account.accountStatus = some .SUSPENDED then some .ACCOUNT_SUSPENDED
  else if account.hasCurrentSubscription then some .CURRENT_SUBSCRIPTION_EXISTS
  else none

/-- The row that `prepareCheckout` inserts. -/
def CheckoutPrepareInput.intent (input : CheckoutPrepareInput) (id : String) (timestamp : Date) :
    CheckoutIntent where
  id := id
  accountId := input.accountId
  priceRevisionId := input.offer.priceRevisionId
  planRevisionId := input.offer.planRevisionId
  provider := input.provider
  state := .CREATING
  idempotencyKeyHash := input.idempotencyKeyHash
  requestFingerprintSha256 := input.requestFingerprintSha256
  admittedAt := input.admittedAt
  amountMinor := input.offer.amountMinor
  currency := input.offer.currency
  billingIntervalUnit := input.offer.billingIntervalUnit
  billingIntervalCount := input.offer.billingIntervalCount
  providerCheckoutId := none
  providerPaymentId := none
  checkoutReference := none
  paymentId := none
  failureCode := none
  createdAt := timestamp
  updatedAt := timestamp
  completedAt := none

/-- The branch of `prepareCheckout` for an intent under the same key. -/
def prepareExisting (draws : Draws) (input : CheckoutPrepareInput)
    (account : CheckoutAccountObservation) (existing : CheckoutIntentSnapshot) :
    Tx Database CheckoutPrepareResult := do
  if existing.requestFingerprintSha256 ≠ input.requestFingerprintSha256 then
    return .REJECTED .IDEMPOTENCY_KEY_REUSED
  else if existing.provider ≠ input.provider then return .REJECTED .CHECKOUT_PROVIDER_MISMATCH
  else
    match account.blocked with
    | none => return .EXISTING existing
    | some blocked =>
      if existing.state = .CREATING then
        let terminal ← terminalFailure draws existing blocked (draws.now 2)
        match terminal with
        | .FAILED intent _ => return .EXISTING intent
        | _ => return .EXISTING existing
      else return .EXISTING existing

/-- The part of `prepareCheckout` after the materialization. -/
def prepareMaterialized (draws : Draws) (input : CheckoutPrepareInput) :
    Tx Database CheckoutPrepareResult := do
  let db ← get
  let account := accountPolicy db input.accountId input.actorId (draws.now 1)
  match loadIntent db input.accountId input.idempotencyKeyHash with
  | some existing => prepareExisting draws input account existing
  | none =>
    match account.blocked with
    | some code => return .REJECTED code
    | none =>
      match otherActionableIntent db input.accountId input.idempotencyKeyHash with
      | some code => return .REJECTED code
      | none =>
        let intent := input.intent (draws.uuid 1) draws.timestamp
        insertCheckoutIntent intent
        return .CREATED ⟨intent, none⟩

def prepareCheckout (draws : Draws) (input : CheckoutPrepareInput) :
    Tx Database CheckoutPrepareResult := do
  let db ← get
  if !db.hasAccount input.accountId then return .REJECTED .ACCOUNT_NOT_FOUND
  else
    let materialized ←
      materializeDueCurrentSubscriptionLocked (draws.uuid 0) input.accountId (draws.now 0)
    match materialized with
    | .CORRUPTED _ => return .REJECTED .CHECKOUT_CORRUPTED
    | _ => prepareMaterialized draws input

/-- The payment of an intent that the provider accepted. -/
def CheckoutIntent.payment (intent : CheckoutIntent) (id providerPaymentId : String)
    (timestamp : Date) : Payment where
  id := id
  accountId := intent.accountId
  subscriptionId := none
  provider := intent.provider
  providerPaymentId := providerPaymentId
  priceRevisionId := intent.priceRevisionId
  amountMinor := intent.amountMinor
  currency := intent.currency
  state := .PENDING
  idempotencyKeyHash := intent.idempotencyKeyHash
  requestFingerprintSha256 := intent.requestFingerprintSha256
  createdAt := timestamp
  updatedAt := timestamp
  confirmedAt := none

/-- The end of `finalizeCheckout` for a checkout that the provider created. -/
def finalizeReady (draws : Draws) (locked : CheckoutIntentSnapshot)
    (providerCheckoutId providerPaymentId checkoutReference : String) :
    Tx Database CheckoutFinalizeResult := do
  insertPayment (locked.payment (draws.uuid 1) providerPaymentId draws.timestamp)
  insertReconciliationJob
    { paymentId := draws.uuid 1
      state := .READY
      nextAttemptAt := some (draws.now 1)
      leaseToken := none
      leaseUntil := none
      attemptCount := 0
      createdAt := draws.now 1 }
  let updated ← updateCheckoutIntent locked.id fun row =>
    { row with
      state := .READY
      providerCheckoutId := some providerCheckoutId
      providerPaymentId := some providerPaymentId
      checkoutReference := some checkoutReference
      paymentId := some (draws.uuid 1)
      updatedAt := max draws.timestamp (draws.now 2)
      completedAt := some (max draws.timestamp (draws.now 2)) }
  match updated with
  | none => throw "TypeError"
  | some ready => return .READY ⟨ready, none⟩

/-- `finalizeCheckout`; the service calls it with no `UNAVAILABLE` result. -/
def finalizeCheckout (draws : Draws) (intentId provider : String)
    (result : ProviderCheckoutResult) : Tx Database CheckoutFinalizeResult := do
  let db ← get
  match db.intents.find? (·.id = intentId) with
  | none => return .REJECTED .CHECKOUT_CORRUPTED
  | some row =>
    let locked := db.joined row
    match db.accounts.find? (·.id = locked.accountId) with
    | none => return .REJECTED .CHECKOUT_CORRUPTED
    | some account =>
      if locked.state ≠ .CREATING then return locked.ended
      else if locked.provider ≠ provider then return .REJECTED .CHECKOUT_PROVIDER_MISMATCH
      else
        match result with
        | .CREATED providerCheckoutId providerPaymentId checkoutReference =>
          if account.status = .SUSPENDED then
            terminalFailure draws locked .ACCOUNT_SUSPENDED (draws.now 0)
          else
            let materialized ← materializeDueCurrentSubscriptionLocked (draws.uuid 0)
              locked.accountId (draws.now 0)
            match materialized with
            | .CORRUPTED _ => terminalFailure draws locked .CHECKOUT_CORRUPTED (draws.now 1)
            | .CURRENT _ _ =>
              terminalFailure draws locked .CURRENT_SUBSCRIPTION_EXISTS (draws.now 1)
            | .NONE =>
              finalizeReady draws locked providerCheckoutId providerPaymentId checkoutReference
        | _ => terminalFailure draws locked .PROVIDER_REJECTED (draws.now 0)

def failCheckout (draws : Draws) (intentId provider : String) (code : CheckoutFailureCode) :
    Tx Database CheckoutFinalizeResult := do
  let db ← get
  match db.intents.find? (·.id = intentId) with
  | none => return .REJECTED .CHECKOUT_CORRUPTED
  | some row =>
    let locked := db.joined row
    if !db.hasAccount locked.accountId then return .REJECTED .CHECKOUT_CORRUPTED
    else if locked.provider ≠ provider then return .REJECTED .CHECKOUT_PROVIDER_MISMATCH
    else terminalFailure draws locked code (draws.now 0)

end SellerAgents.Billing
