import SellerAgents.Billing.Commands
import SellerAgents.Billing.Reconciliation

open Relational SellerAgents.Subscriptions

namespace SellerAgents.Billing

/-- The database, and the claims that were handed out to workers. -/
structure World where
  db : Database
  claims : List BillingReconciliationClaim

/-- One transaction of the commerce, with its inputs; or a change of the accounts, their owners and
the published catalogue. -/
inductive Step where
  | applyVerifiedBillingEvent (draws : Draws) (input : BillingEventInput)
  | claimDue (draws : Draws) (now : Date) (leaseMs batchSize : Nat) (locked : List String)
  | applyStatus (draws : Draws) (claim : BillingReconciliationClaim) (status : BillingPaymentStatus)
      (processedAt : Date)
  | reschedule (paymentId leaseToken : String) (nextAttemptAt : Date)
      (code : BillingReconciliationRetryCode)
  | blockUnsupported (claim : BillingReconciliationClaim) (code : String)
  | prepareCheckout (draws : Draws) (input : CheckoutPrepareInput)
  | finalizeCheckout (draws : Draws) (intentId provider : String) (result : ProviderCheckoutResult)
  | failCheckout (draws : Draws) (intentId provider : String) (code : CheckoutFailureCode)
  | lifecycle (run : LifecycleRun)
  | grantSubscription (draws : Draws) (accountId planRevisionId : String) (currentPeriodEnd : Date)
  | mutate (draws : Draws) (subscriptionId : String) (operation : SubscriptionMutation)
      (expectedStateRevision : Nat)
  | authority (accounts : List Account) (owners : List OwnerMembership)
      (plans : List PublishedPlan) (prices : List PublishedPrice)

/-- The transaction of a step, with the claims it hands out. -/
def Step.transaction (hashing : Hashing) : Step → Tx Database (List BillingReconciliationClaim)
  | .applyVerifiedBillingEvent draws input => do
    let _ ← Billing.applyVerifiedBillingEvent draws input
    return []
  | .claimDue draws now leaseMs batchSize locked =>
    Billing.claimDue draws now leaseMs batchSize locked
  | .applyStatus draws claim status processedAt => do
    let _ ← Billing.applyStatus hashing draws claim status processedAt
    return []
  | .reschedule paymentId leaseToken nextAttemptAt code => do
    let _ ← Billing.reschedule paymentId leaseToken nextAttemptAt code
    return []
  | .blockUnsupported claim code => do
    let _ ← Billing.blockUnsupported claim code
    return []
  | .prepareCheckout draws input => do
    let _ ← Billing.prepareCheckout draws input
    return []
  | .finalizeCheckout draws intentId provider result => do
    let _ ← Billing.finalizeCheckout draws intentId provider result
    return []
  | .failCheckout draws intentId provider code => do
    let _ ← Billing.failCheckout draws intentId provider code
    return []
  | .lifecycle run => do
    run.transaction
    return []
  | .grantSubscription draws accountId planRevisionId currentPeriodEnd => do
    let _ ← Billing.grantSubscription draws accountId planRevisionId currentPeriodEnd
    return []
  | .mutate draws subscriptionId operation expectedStateRevision => do
    let _ ← Billing.mutate draws subscriptionId operation expectedStateRevision
    return []
  | .authority accounts owners plans prices => do
    modify fun db =>
      { db with accounts := accounts, owners := owners, plans := plans, prices := prices }
    return []

/-- A worker only applies or blocks a claim that it was handed. -/
def Step.held (world : World) : Step → Bool
  | .applyStatus _ claim _ _ => world.claims.contains claim
  | .blockUnsupported claim _ => world.claims.contains claim
  | _ => true

/-- A step commits its transaction, or changes nothing. -/
def Step.next (hashing : Hashing) (world : World) (step : Step) : World :=
  if !step.held world then world
  else
    match step.transaction hashing world.db with
    | .ok (claims, db) => ⟨db, world.claims ++ claims⟩
    | .error _ => world

/-- No rows at all. -/
def emptyDatabase : Database where
  accounts := []
  owners := []
  plans := []
  prices := []
  subscriptions := []
  transitions := []
  payments := []
  events := []
  intents := []
  jobs := []

/-- A run from the empty database. -/
def runFrom (hashing : Hashing) (world : World) (steps : List Step) : World :=
  steps.foldl (Step.next hashing) world

/-- A run from the empty tables. -/
def run (hashing : Hashing) (steps : List Step) : World := runFrom hashing ⟨emptyDatabase, []⟩ steps

variable {hashing : Hashing}

theorem runFrom_append (world : World) (steps more : List Step) :
    runFrom hashing world (steps ++ more) = runFrom hashing (runFrom hashing world steps) more :=
  List.foldl_append

theorem run_append (steps more : List Step) :
    run hashing (steps ++ more) = runFrom hashing (run hashing steps) more :=
  runFrom_append _ steps more

theorem Step.next_cases (hashing : Hashing) (world : World) (step : Step) :
    step.next hashing world = world ∨
      step.held world = true ∧ ∃ claims db, step.transaction hashing world.db = .ok (claims, db) ∧
        step.next hashing world = ⟨db, world.claims ++ claims⟩ := by
  unfold Step.next
  split
  · exact .inl rfl
  · next hheld =>
    split
    · next claims db htransaction =>
      exact .inr ⟨by simpa using hheld, claims, db, htransaction, rfl⟩
    · exact .inl rfl

section

variable {R : Database → Database → Prop} [Std.Refl R]
  (h : ∀ step : Step, Keeps R (step.transaction hashing))
include h

/-- What every transaction keeps, a step keeps. -/
theorem Step.next_keeps (world : World) (step : Step) :
    R world.db (step.next hashing world).db := by
  rcases step.next_cases hashing world with hsame | ⟨-, claims, db, htransaction, hnext⟩
  · rw [hsame]
    exact refl world.db
  · rw [hnext]
    exact h step world.db claims db htransaction

/-- What every transaction keeps, a run keeps. -/
theorem runFrom_keeps [IsTrans Database R] (world : World) (steps : List Step) :
    R world.db (runFrom hashing world steps).db := by
  induction steps generalizing world with
  | nil => exact refl world.db
  | cons first rest ih => exact IsTrans.trans _ _ _ (Step.next_keeps h world first) (ih _)

end

/-! The steps of a small commerce: one account, and one price of a month. -/

/-- Ids of its own for each transaction, all at one time. -/
def sampleDraws (step : String) (now : Date) : Draws :=
  ⟨fun n => step ++ toString n, fun _ => now, now⟩

/-- A digest that keeps the text apart. -/
def sampleHashing : Hashing := ⟨fun text => text, fun date => toString date⟩

def sampleAuthority : Step :=
  .authority [⟨"account", .ACTIVE⟩] [⟨"account", "owner"⟩] [⟨"plan-1", "plan"⟩]
    [{ id := "price-1"
       planId := "plan"
       planRevisionId := "plan-1"
       amountMinor := 990
       currency := "EUR"
       billingIntervalUnit := .MONTH
       billingIntervalCount := 1
       effectiveFrom := 0
       effectiveTo := none }]

def samplePrepareInput (key : String) (now : Date) : CheckoutPrepareInput where
  accountId := "account"
  actorId := "owner"
  provider := "provider"
  idempotencyKeyHash := key
  requestFingerprintSha256 := "fingerprint"
  admittedAt := now
  offer :=
    { planRevisionId := "plan-1"
      priceRevisionId := "price-1"
      amountMinor := 990
      currency := "EUR"
      billingIntervalUnit := .MONTH
      billingIntervalCount := 1 }

/-- A checkout that the provider accepts at once; its payment is `<step>finalize1`. -/
def sampleCheckout (step key : String) (now : Date) : List Step :=
  [.prepareCheckout (sampleDraws (step ++ "prepare") now) (samplePrepareInput key now),
    .finalizeCheckout (sampleDraws (step ++ "finalize") now) (step ++ "prepare1") "provider"
      (.CREATED (step ++ "checkout") (step ++ "payment") (step ++ "reference"))]

/-- A webhook of the payment of a sample checkout. -/
def sampleWebhook (step identity : String) (eventType : BillingEventType) (now : Date) : Step :=
  .applyVerifiedBillingEvent (sampleDraws (step ++ identity) now)
    { event :=
        { provider := "provider"
          eventIdentity := step ++ identity
          eventType := eventType
          providerPaymentId := step ++ "payment"
          amountMinor := 990
          currency := "EUR"
          occurredAt := now
          payloadSha256 := "payload" }
      receivedAt := now
      verifiedAt := now }

end SellerAgents.Billing
