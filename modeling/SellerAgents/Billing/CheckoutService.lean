import SellerAgents.Billing.Checkout
import SellerAgents.Billing.Reconciliation
import SellerAgents.Concurrent.Program

open Relational Concurrent SellerAgents.Subscriptions

namespace SellerAgents.Billing

/-- A parsed command of `createCheckout`, with the actor of its context. -/
structure CreateCheckoutCommand where
  accountId : String
  actorId : String
  priceRevisionId : String
  idempotencyKey : String

/-- `BillingProviderCheckoutInput`. -/
structure BillingProviderCheckoutInput where
  providerRequestId : String
  amountMinor : Nat
  currency : String
  billingIntervalUnit : BillingIntervalUnit
  billingIntervalCount : Nat

/-- `PurchasableOfferResolution`. -/
inductive PurchasableOfferResolution where
  | OK (value : CheckoutOffer)
  | REJECTED (code : String)

structure ReadyCheckout where
  checkoutIntentId : String
  paymentId : String
  planRevisionId : String
  priceRevisionId : String
  amountMinor : Nat
  currency : String
  billingIntervalUnit : BillingIntervalUnit
  billingIntervalCount : Nat
  provider : String
  checkoutReference : String
deriving DecidableEq

inductive RetryableCode where
  | PROVIDER_UNAVAILABLE
  | SERVICE_UNAVAILABLE
deriving DecidableEq

inductive CheckoutResult where
  | READY (replay : Bool) (checkout : ReadyCheckout)
  | REJECTED (code : CheckoutFailureCode) (replay : Bool)
  | RETRYABLE (code : RetryableCode) (checkoutIntentId : String)
deriving DecidableEq

section Hashes

variable (hashing : Hashing)

def hashCheckoutIdempotencyKey (idempotencyKey : String) : String :=
  hashing.sha256 ("product-control-plane/checkout-idempotency/v1\n" ++ idempotencyKey)

def fingerprintCheckoutRequest (accountId priceRevisionId : String) : String :=
  hashing.sha256 ("product-control-plane/checkout-request/v1\naccountId=" ++ accountId ++
    "\npriceRevisionId=" ++ priceRevisionId)

def CreateCheckoutCommand.keyHash (command : CreateCheckoutCommand) : String :=
  hashCheckoutIdempotencyKey hashing command.idempotencyKey

def CreateCheckoutCommand.fingerprint (command : CreateCheckoutCommand) : String :=
  fingerprintCheckoutRequest hashing command.accountId command.priceRevisionId

end Hashes

/-- `terminalReadyFailure`; the repository never leaves the state of a payment undefined. -/
def terminalReadyFailure (intent : CheckoutIntentSnapshot) (observation : CheckoutAccountObservation) :
    Option CheckoutFailureCode :=
  match intent.paymentState with
  | some .PENDING => none
  | some .FAILED => some .PAYMENT_FAILED
  | some .CANCELED => some .PAYMENT_CANCELED
  | some .SUCCEEDED =>
    some (if observation.hasCurrentSubscription then .CURRENT_SUBSCRIPTION_EXISTS
      else .CHECKOUT_CORRUPTED)
  | _ => some .CHECKOUT_CORRUPTED

/-- A text that is there and not empty. -/
def present (text : Option String) : Option String := text.filter (· ≠ "")

def readyResult (intent : CheckoutIntentSnapshot) (replay : Bool) : CheckoutResult :=
  match intent.state, present intent.paymentId, present intent.checkoutReference,
    present intent.providerCheckoutId, present intent.providerPaymentId with
  | .READY, some paymentId, some checkoutReference, some _, some _ =>
    .READY replay
      { checkoutIntentId := intent.id
        paymentId := paymentId
        planRevisionId := intent.planRevisionId
        priceRevisionId := intent.priceRevisionId
        amountMinor := intent.amountMinor
        currency := intent.currency
        billingIntervalUnit := intent.billingIntervalUnit
        billingIntervalCount := intent.billingIntervalCount
        provider := intent.provider
        checkoutReference := checkoutReference }
  | _, _, _, _, _ => .REJECTED .CHECKOUT_CORRUPTED replay

def finalizeToResult (result : CheckoutFinalizeResult) (replay : Bool) (fallbackIntentId : String) :
    CheckoutResult :=
  match result with
  | .READY intent => readyResult intent replay
  | .FAILED _ code => .REJECTED code replay
  | .REJECTED code => .REJECTED code replay
  | .SERVICE_UNAVAILABLE => .RETRYABLE .SERVICE_UNAVAILABLE fallbackIntentId

/-- What a call asks of its surroundings: the repository, the clock, the offer resolver and the
provider. -/
inductive CheckoutCmd where
  | inspectCheckout (accountId actorId idempotencyKeyHash : String)
  | now
  | resolvePurchasableOffer (priceRevisionId : String) (at_ : Date)
  | prepareCheckout (input : CheckoutPrepareInput)
  | providerCheckout (input : BillingProviderCheckoutInput)
  | finalizeCheckout (intentId provider : String) (result : ProviderCheckoutResult)
  | failCheckout (intentId provider : String) (code : CheckoutFailureCode)

/-- The answers; a call that throws answers with an error. -/
def CheckoutCmd.Answer : CheckoutCmd → Type
  | .inspectCheckout .. => Except String CheckoutInspection
  | .now => Date
  | .resolvePurchasableOffer .. => Except String PurchasableOfferResolution
  | .prepareCheckout _ => Except String CheckoutPrepareResult
  | .providerCheckout _ => Except String ProviderCheckoutResult
  | .finalizeCheckout .. => Except String CheckoutFinalizeResult
  | .failCheckout .. => Except String CheckoutFinalizeResult

abbrev CheckoutProg (α : Type) : Type := Prog CheckoutCmd CheckoutCmd.Answer String α

/-! The calls. -/

def inspectCall (accountId actorId idempotencyKeyHash : String) :
    CheckoutProg (Except String CheckoutInspection) :=
  Prog.perform (CheckoutCmd.inspectCheckout accountId actorId idempotencyKeyHash)

def nowCall : CheckoutProg Date := Prog.perform CheckoutCmd.now

def resolveCall (priceRevisionId : String) (at_ : Date) :
    CheckoutProg (Except String PurchasableOfferResolution) :=
  Prog.perform (CheckoutCmd.resolvePurchasableOffer priceRevisionId at_)

def prepareCall (input : CheckoutPrepareInput) :
    CheckoutProg (Except String CheckoutPrepareResult) :=
  Prog.perform (CheckoutCmd.prepareCheckout input)

def providerCall (input : BillingProviderCheckoutInput) :
    CheckoutProg (Except String ProviderCheckoutResult) :=
  Prog.perform (CheckoutCmd.providerCheckout input)

def finalizeCall (intentId provider : String) (result : ProviderCheckoutResult) :
    CheckoutProg (Except String CheckoutFinalizeResult) :=
  Prog.perform (CheckoutCmd.finalizeCheckout intentId provider result)

def failCall (intentId provider : String) (code : CheckoutFailureCode) :
    CheckoutProg (Except String CheckoutFinalizeResult) :=
  Prog.perform (CheckoutCmd.failCheckout intentId provider code)

section Service

variable (hashing : Hashing) (providerKey : String) (command : CreateCheckoutCommand)

def finishExisting (intent : CheckoutIntentSnapshot) (observation : CheckoutAccountObservation) :
    CheckoutProg (Option CheckoutResult) :=
  if intent.requestFingerprintSha256 ≠ command.fingerprint hashing then return none
  else if intent.provider ≠ providerKey then
    return some (.REJECTED .CHECKOUT_PROVIDER_MISMATCH true)
  else
    match intent.state with
    | .FAILED => return some (.REJECTED (intent.failureCode.getD .CHECKOUT_CORRUPTED) true)
    | .READY =>
      match terminalReadyFailure intent observation with
      | some terminalFailure => return some (.REJECTED terminalFailure true)
      | none =>
        match observation.blocked with
        | some blocked => return some (.REJECTED blocked true)
        | none => return some (readyResult intent true)
    | .CREATING =>
      match observation.blocked with
      | none => return none
      | some blocked => do
        match ← failCall intent.id providerKey blocked with
        | .ok failed => return some (finalizeToResult failed true intent.id)
        | .error _ => return some (.RETRYABLE .SERVICE_UNAVAILABLE intent.id)

/-- The terms of an intent, as the provider is asked for them. -/
def CheckoutIntent.providerInput (intent : CheckoutIntent) : BillingProviderCheckoutInput where
  providerRequestId := intent.id
  amountMinor := intent.amountMinor
  currency := intent.currency
  billingIntervalUnit := intent.billingIntervalUnit
  billingIntervalCount := intent.billingIntervalCount

/-- The end of `createCheckout`, with what the provider answered. -/
def settleCheckout (activeIntent : CheckoutIntentSnapshot) (replay : Bool)
    (providerResult : ProviderCheckoutResult) : CheckoutProg CheckoutResult := do
  match ← finalizeCall activeIntent.id providerKey providerResult with
  | .ok finalized => return finalizeToResult finalized replay activeIntent.id
  | .error _ => return .RETRYABLE .SERVICE_UNAVAILABLE activeIntent.id

/-- The part of `createCheckout` that calls the provider and finalizes. -/
def submitCheckout (activeIntent : CheckoutIntentSnapshot) (replay : Bool) :
    CheckoutProg CheckoutResult := do
  match ← providerCall activeIntent.providerInput with
  | .error _ => return .RETRYABLE .PROVIDER_UNAVAILABLE activeIntent.id
  | .ok .UNAVAILABLE => return .RETRYABLE .PROVIDER_UNAVAILABLE activeIntent.id
  | .ok providerResult => settleCheckout providerKey activeIntent replay providerResult

/-- What goes into `prepareCheckout`: the terms of the observed intent, or those of the offer that
is resolved now. -/
def admission (intent : Option CheckoutIntentSnapshot) :
    CheckoutProg (Except CheckoutResult (Date × CheckoutOffer)) :=
  match intent with
  | some intent =>
    return .ok (intent.admittedAt,
      { planRevisionId := intent.planRevisionId
        priceRevisionId := intent.priceRevisionId
        amountMinor := intent.amountMinor
        currency := intent.currency
        billingIntervalUnit := intent.billingIntervalUnit
        billingIntervalCount := intent.billingIntervalCount })
  | none => do
    let admittedAt ← nowCall
    match ← resolveCall command.priceRevisionId admittedAt with
    | .error _ => return .error (.REJECTED .SERVICE_UNAVAILABLE false)
    | .ok (.REJECTED code) => return .error (.REJECTED (.offer code) false)
    | .ok (.OK offer) => return .ok (admittedAt, offer)

/-- The input of `prepareCheckout` of a call. -/
def CreateCheckoutCommand.prepareInput (admittedAt : Date) (offer : CheckoutOffer) :
    CheckoutPrepareInput where
  accountId := command.accountId
  actorId := command.actorId
  provider := providerKey
  idempotencyKeyHash := command.keyHash hashing
  requestFingerprintSha256 := command.fingerprint hashing
  admittedAt := admittedAt
  offer := offer

/-- The part of `createCheckout` after an observed intent was not the end of it. -/
def continueCheckout (observation : CheckoutInspection) : CheckoutProg CheckoutResult := do
  match observation.account.blocked with
  | some blocked => return .REJECTED blocked observation.intent.isSome
  | none =>
    match ← admission command observation.intent with
    | .error result => return result
    | .ok (admittedAt, offer) =>
      match ← prepareCall (command.prepareInput hashing providerKey admittedAt offer) with
      | .error _ =>
        return .RETRYABLE .SERVICE_UNAVAILABLE ((observation.intent.map (·.id)).getD "")
      | .ok (.REJECTED code) => return .REJECTED code observation.intent.isSome
      | .ok (.CREATED intent) => submitCheckout providerKey intent false
      | .ok (.EXISTING intent) =>
        match ← finishExisting hashing providerKey command intent observation.account with
        | some resumed => return resumed
        | none => submitCheckout providerKey intent true

def createCheckout : CheckoutProg CheckoutResult := do
  match ← inspectCall command.accountId command.actorId (command.keyHash hashing) with
  | .error _ => return .RETRYABLE .SERVICE_UNAVAILABLE ""
  | .ok observation =>
    match observation.intent with
    | none => continueCheckout hashing providerKey command observation
    | some intent =>
      if intent.requestFingerprintSha256 ≠ command.fingerprint hashing then
        return .REJECTED .IDEMPOTENCY_KEY_REUSED true
      else
        match ← finishExisting hashing providerKey command intent observation.account with
        | some existing => return existing
        | none => continueCheckout hashing providerKey command observation

end Service

end SellerAgents.Billing
