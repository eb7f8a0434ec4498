import SellerAgents.Billing.Integrity
import SellerAgents.Billing.Writes

open Relational SellerAgents.Subscriptions

namespace SellerAgents.Billing

/-! The transactions, from the writes upwards. -/

/-- The lifecycle touches the subscriptions and their history, and nothing else. -/
structure SameCommerce (db db' : Database) : Prop where
  payments : db'.payments = db.payments
  events : db'.events = db.events
  intents : db'.intents = db.intents
  jobs : db'.jobs = db.jobs
  accounts : db'.accounts = db.accounts
  owners : db'.owners = db.owners
  plans : db'.plans = db.plans
  prices : db'.prices = db.prices

theorem SameCommerce.rfl {db : Database} : SameCommerce db db := by
  constructor <;> exact Eq.refl _

theorem SameCommerce.trans {a b c : Database} (hab : SameCommerce a b) (hbc : SameCommerce b c) :
    SameCommerce a c where
  payments := hbc.payments.trans hab.payments
  events := hbc.events.trans hab.events
  intents := hbc.intents.trans hab.intents
  jobs := hbc.jobs.trans hab.jobs
  accounts := hbc.accounts.trans hab.accounts
  owners := hbc.owners.trans hab.owners
  plans := hbc.plans.trans hab.plans
  prices := hbc.prices.trans hab.prices

theorem sameCommerce_subscriptions (db : Database) (subscriptions : List SubscriptionSnapshot)
    (transitions : List SubscriptionTransition) :
    SameCommerce db { db with subscriptions := subscriptions, transitions := transitions } := by
  constructor <;> rfl

theorem sameCommerce_transitioned (db : Database) (transitionId : String)
    (row : SubscriptionSnapshot) (toState : SubscriptionState) (updatedAt : Date) :
    SameCommerce db (db.transitioned transitionId row toState updatedAt) :=
  sameCommerce_subscriptions db _ _

theorem grows_transitioned {db : Database} {transitionId : String} {row : SubscriptionSnapshot}
    {toState : SubscriptionState} {updatedAt : Date}
    (hunique : UniqueBy currentKey (db.transitioned transitionId row toState updatedAt).subscriptions) :
    Grows db (db.transitioned transitionId row toState updatedAt) :=
  grows_updateSubscription (fun _ => ⟨rfl, rfl, rfl⟩) hunique

/-- The subscriptions grow, and nothing else changes. -/
def OnlySubscriptions (db db' : Database) : Prop := Grows db db' ∧ SameCommerce db db'

instance : Std.Refl OnlySubscriptions := ⟨fun db => ⟨refl db, .rfl⟩⟩

instance : IsTrans Database OnlySubscriptions := ⟨fun _ _ _ hab hbc =>
  ⟨IsTrans.trans _ _ _ hab.1 hbc.1, hab.2.trans hbc.2⟩⟩

theorem materialize_grows (db : Database) (transitionId accountId : String) (now : Date) :
    Commits (materializeDueCurrentSubscriptionLocked transitionId accountId now) db fun _ db' =>
      Grows db db' ∧ SameCommerce db db' := by
  refine (materializeDueCurrentSubscriptionLocked_commits db transitionId accountId now).mono ?_
  rintro _ db' ⟨-, rfl | ⟨row, toState, updatedAt, rfl, hunique⟩⟩
  · exact ⟨refl db', .rfl⟩
  · exact ⟨grows_transitioned hunique, sameCommerce_transitioned db _ row toState updatedAt⟩

theorem materialize_keeps (transitionId accountId : String) (now : Date) :
    Keeps Grows (materializeDueCurrentSubscriptionLocked transitionId accountId now) :=
  fun db => (materialize_grows db transitionId accountId now).mono fun _ _ h => h.1

variable (hashing : Hashing) (draws : Draws) (claim : BillingReconciliationClaim) (eventId : String)
  (state : ProcessingState) (status : BillingPaymentStatus) (processedAt : Date) (refs : EventRefs)

theorem materializeActivated_keeps (accountId : String) :
    Keeps OnlySubscriptions (materializeActivated draws accountId) := by
  refine keeps_bind (fun db => materialize_grows db _ _ _) fun lifecycle => ?_
  cases lifecycle with
  | CORRUPTED id => exact keeps_throw _
  | NONE => exact keeps_pure _
  | CURRENT id state => exact keeps_pure _

theorem lifecycle_keeps (run : LifecycleRun) : Keeps Grows run.transaction := by
  intro db
  refine (run.commits db).mono ?_
  rintro _ db' (rfl | ⟨transitionId, updatedAt, row, -, -, toState, -, -, -, rfl, hunique⟩)
  · exact refl db'
  · exact grows_transitioned hunique

/-! The commands on subscriptions. -/

theorem insertTransition_keeps (id subscriptionId : String) (fromState : Option SubscriptionState)
    (toState : SubscriptionState) :
    Keeps OnlySubscriptions (insertTransition id subscriptionId fromState toState) := by
  refine keeps_bind keeps_get fun db db' => ?_
  refine (insertSubscriptionTransition_commits db' _).mono ?_
  rintro _ _ ⟨-, -, -, rfl⟩
  exact ⟨fun h => ⟨{ h with }, { Extends.rfl with }⟩, sameCommerce_subscriptions db' _ _⟩

theorem mutateRow_keeps (subscriptionId : String) {set : SubscriptionSnapshot → SubscriptionSnapshot}
    (hset : ∀ row, (set row).id = row.id ∧ (set row).accountId = row.accountId ∧
      (set row).boundPriceRevisionId = row.boundPriceRevisionId) :
    Keeps OnlySubscriptions (mutateRow subscriptionId set) := by
  refine keeps_bind (fun db => ?_) fun updated => ?_
  · refine (updateSubscription_commits db subscriptionId set).mono ?_
    rintro _ db' (⟨-, rfl⟩ | ⟨row, -, -, -, hunique, rfl⟩)
    · exact refl db'
    · exact ⟨grows_updateSubscription hset hunique, sameCommerce_subscriptions db _ _⟩
  · cases updated with
    | none => exact keeps_throw _
    | some next => exact keeps_pure _

theorem grantSubscription_keeps (accountId planRevisionId : String) (currentPeriodEnd : Date) :
    Keeps OnlySubscriptions (grantSubscription draws accountId planRevisionId currentPeriodEnd) := by
  refine keeps_ite (fun _ => keeps_pure _) fun _ => keeps_bind keeps_get fun db => ?_
  refine keeps_ite (fun _ => keeps_pure _) fun _ => keeps_ite (fun _ => keeps_pure _) fun _ => ?_
  refine keeps_bind (fun db => materialize_grows db _ _ _) fun current => ?_
  cases current with
  | CORRUPTED id => exact keeps_pure _
  | CURRENT id state => exact keeps_pure _
  | NONE =>
    refine keeps_ite (fun _ => keeps_pure _) fun _ => keeps_bind (fun db => ?_) fun _ =>
      keeps_bind (insertTransition_keeps _ _ _ _) fun _ => keeps_pure _
    refine (insertSubscription_commits db _).mono ?_
    rintro _ _ ⟨hid, hcurrent, rfl⟩
    exact ⟨grows_insertGranted rfl hid hcurrent, sameCommerce_subscriptions db _ _⟩

theorem extendRow_keeps (value : SubscriptionSnapshot) (newEnd : Date) :
    Keeps OnlySubscriptions (extendRow draws value newEnd) := by
  refine keeps_ite (fun _ => keeps_pure _) fun _ => keeps_ite (fun _ => keeps_pure _) fun _ => ?_
  refine keeps_ite (fun _ => keeps_pure _) fun _ => keeps_bind ?_ fun _ => keeps_pure _
  exact mutateRow_keeps value.id fun _ => ⟨rfl, rfl, rfl⟩

theorem suspendRow_keeps (value : SubscriptionSnapshot) :
    Keeps OnlySubscriptions (suspendRow draws value) := by
  refine keeps_ite (fun _ => keeps_pure _) fun _ => keeps_ite (fun _ => keeps_pure _) fun _ => ?_
  refine keeps_bind (mutateRow_keeps value.id fun _ => ⟨rfl, rfl, rfl⟩) fun next => ?_
  exact keeps_bind (insertTransition_keeps _ _ _ _) fun _ => keeps_pure _

theorem restoreRow_keeps (value : SubscriptionSnapshot) :
    Keeps OnlySubscriptions (restoreRow draws value) := by
  refine keeps_ite (fun _ => keeps_pure _) fun _ => keeps_bind keeps_get fun db => ?_
  simp only []
  split
  · exact keeps_pure _
  · split
    · exact keeps_pure _
    · refine keeps_bind (mutateRow_keeps value.id fun _ => ⟨rfl, rfl, rfl⟩) fun next => ?_
      exact keeps_bind (insertTransition_keeps _ _ _ _) fun _ => keeps_pure _

theorem mutate_keeps (subscriptionId : String) (operation : SubscriptionMutation)
    (expectedStateRevision : Nat) :
    Keeps OnlySubscriptions (mutate draws subscriptionId operation expectedStateRevision) := by
  refine keeps_bind keeps_get fun db => ?_
  split
  · exact keeps_pure _
  refine keeps_bind ?_ fun materialized => ?_
  · cases operation with
    | EXTEND newEnd => exact fun db => materialize_grows db _ _ _
    | SUSPEND => exact keeps_pure _
    | RESTORE => exact keeps_pure _
  split
  · exact keeps_pure _
  refine keeps_bind keeps_get fun db => ?_
  split
  · exact keeps_pure _
  refine keeps_ite (fun _ => keeps_pure _) fun _ => ?_
  cases operation with
  | EXTEND newEnd => exact extendRow_keeps draws _ newEnd
  | SUSPEND => exact suspendRow_keeps draws _
  | RESTORE => exact restoreRow_keeps draws _

theorem updateReconciliationJobs_keeps (where' : BillingReconciliationJob → Bool)
    {set : BillingReconciliationJob → BillingReconciliationJob}
    (hset : ∀ job, (set job).paymentId = job.paymentId) :
    Keeps Grows (updateReconciliationJobs where' set) := by
  intro db
  refine (updateReconciliationJobs_commits db where' set).mono ?_
  rintro _ _ ⟨-, rfl⟩
  exact grows_jobs fun hunique => hunique.updateWhere fun job _ _ => .inr (congrArg some (hset job))

theorem afterEvent_paymentId (timestamp : Date) (state : ProcessingState)
    (failureCode : Option BillingEventFailureCode) (job : BillingReconciliationJob) :
    (job.afterEvent timestamp state failureCode).paymentId = job.paymentId := by
  unfold BillingReconciliationJob.afterEvent
  split <;> rfl

theorem updateBillingEvent_keeps :
    Keeps Grows (updateBillingEvent eventId fun row => row.ended state processedAt refs) := by
  intro db
  refine (updateBillingEvent_commits db eventId _).mono ?_
  rintro _ db' (⟨-, rfl⟩ | ⟨row, hfind, hverified, -, rfl⟩)
  · exact refl db'
  · exact grows_updateBillingEvent hfind hverified fun _ => ⟨rfl, rfl⟩

theorem insertBillingEvent_keeps (row : BillingEvent) : Keeps Grows (insertBillingEvent row) := by
  intro db
  refine (insertBillingEvent_commits db row).mono ?_
  rintro _ db' (⟨-, -, rfl⟩ | ⟨-, hkey, hid, rfl⟩)
  · exact refl db'
  · exact grows_insertBillingEvent hid hkey

theorem terminalize_keeps :
    Keeps Grows (terminalize draws eventId state processedAt refs) := by
  refine keeps_bind (updateBillingEvent_keeps eventId state processedAt refs) fun updated => ?_
  cases updated with
  | none => exact keeps_throw _
  | some row =>
    cases hpayment : refs.paymentId with
    | none => exact keeps_pure row
    | some paymentId =>
      refine keeps_bind (updateReconciliationJobs_keeps _ ?_) fun _ => keeps_pure row
      exact afterEvent_paymentId draws.timestamp state refs.failureCode

theorem terminalize_result_keeps :
    Keeps Grows (do
      let ended ← terminalize draws eventId state processedAt refs
      return resultFromTerminal ended false) :=
  keeps_bind (terminalize_keeps draws eventId state processedAt refs) fun _ => keeps_pure _

theorem failEvent_keeps (payment : Payment) (code : BillingEventFailureCode) :
    Keeps Grows (failEvent draws eventId processedAt payment code) :=
  terminalize_result_keeps draws eventId .FAILED processedAt _

theorem finishJob_keeps (paymentId leaseToken : String) (state : BillingReconciliationJobState)
    (nextAttemptAt : Option Date) :
    Keeps Grows (finishJob paymentId leaseToken state nextAttemptAt) :=
  updateReconciliationJobs_keeps _ fun _ => rfl

theorem settle_keeps (job : BillingReconciliationJobState) (nextAttemptAt : Option Date) :
    Keeps Grows (settle claim eventId state processedAt refs job nextAttemptAt) := by
  refine keeps_bind (updateBillingEvent_keeps eventId state processedAt _) fun updated => ?_
  cases updated with
  | none => exact keeps_throw _
  | some row =>
    refine keeps_bind (finishJob_keeps claim.paymentId claim.leaseToken job nextAttemptAt) ?_
    exact fun _ => keeps_pure _

/-! The activation of a payment that is not linked yet. -/

variable {db : Database}

theorem insertActivated_commits (subscription : SubscriptionSnapshot) (transitionId : String) :
    Commits (insertActivated subscription transitionId) db fun _ db' =>
      Fresh (fun r => some r.id) subscription db.subscriptions ∧
        Fresh currentKey subscription db.subscriptions ∧
        ∃ transitions, db' = { db with
          subscriptions := db.subscriptions ++ [subscription], transitions := transitions } := by
  unfold insertActivated
  rw [commits_bind]
  refine (insertSubscription_commits db subscription).mono ?_
  rintro _ _ ⟨hid, hcurrent, rfl⟩
  refine (insertSubscriptionTransition_commits _ _).mono ?_
  rintro _ _ ⟨-, -, -, rfl⟩
  exact ⟨hid, hcurrent, _, rfl⟩

/-- The inserts of an activation, and an update that links the payment. -/
theorem activation_grows {id : String} {payment : Payment} {subscription : SubscriptionSnapshot}
    {transitionId : String} {set : Payment → Payment}
    (hfind : db.payments.find? (·.id = id) = some payment)
    (hunlinked : payment.subscriptionId = none)
    (hset : ∀ row, (set row).sale = row.sale ∧ (set row).subscriptionId = some subscription.id)
    (hstate : (set payment).state = .SUCCEEDED)
    (haccount : subscription.accountId = payment.accountId) :
    Commits (insertActivated subscription transitionId) db fun _ db₁ =>
      db₁.payments = db.payments ∧ Commits (updatePayment id set) db₁ fun _ db' => Grows db db' := by
  refine (insertActivated_commits subscription transitionId).mono ?_
  rintro _ _ ⟨hid, hcurrent, transitions, rfl⟩
  refine ⟨rfl, (updatePayment_commits _ id set).mono ?_⟩
  rintro _ _ (⟨hnone, -, -⟩ | ⟨row, hrow, -, -, rfl⟩)
  · exact absurd (hnone.symm.trans hfind) (by simp)
  · exact grows_activate hfind hunlinked hset hstate haccount hid hcurrent

theorem linkPayment_commits {id subscriptionId : String} {updatedAt : Date} {payment : Payment}
    {post : Unit → Database → Prop} (hfind : db.payments.find? (·.id = id) = some payment)
    (hunlinked : payment.subscriptionId = none)
    (h : Commits (updatePayment id (Payment.linkedTo subscriptionId updatedAt)) db
      fun _ db' => post () db') :
    Commits (linkPayment id subscriptionId updatedAt) db post := by
  have hany : (db.payments.any fun row => row.id = id ∧ row.subscriptionId = none) = true := by
    have hid := List.find?_some hfind
    rw [List.any_eq_true]
    exact ⟨payment, List.mem_of_find?_eq_some hfind, by simpa [hunlinked] using hid⟩
  unfold linkPayment
  simp only [commits_bind, commits_get, hany, if_true, commits_pure]
  exact h

theorem activateFromEvent_grows (event : VerifiedBillingEvent) (payment : Payment)
    (checkout : CheckoutIntent) {row : Payment}
    (hfind : db.payments.find? (·.id = payment.id) = some row)
    (hunlinked : row.subscriptionId = none) (hstate : row.state = .SUCCEEDED)
    (haccount : payment.accountId = row.accountId) :
    Commits (activateFromEvent draws eventId event payment checkout) db fun _ db' =>
      Grows db db' := by
  unfold activateFromEvent
  simp only []
  split
  · exact commits_throw
  · next periodEnd _ =>
    have hrest : Keeps Grows (do
        materializeActivated draws payment.accountId
        let applied ← terminalize draws eventId .APPLIED (draws.now 4)
          { paymentId := some payment.id
            subscriptionId := some (draws.uuid 2)
            subscriptionTransitionId := some (draws.uuid 3) }
        return resultFromTerminal applied false) := by
      refine keeps_bind (fun db => ?_) fun _ => terminalize_result_keeps draws eventId .APPLIED _ _
      exact (materializeActivated_keeps draws payment.accountId db).mono fun _ _ h => h.1
    have hactivated := @activation_grows db payment.id row
      (activatedSubscription (draws.uuid 2) payment.accountId checkout.planRevisionId
        payment.priceRevisionId event.occurredAt periodEnd (draws.now 2)) (draws.uuid 3)
      (Payment.linkedTo (draws.uuid 2) (draws.now 2))
      hfind hunlinked (fun _ => ⟨rfl, rfl⟩) hstate haccount
    rw [commits_bind]
    refine hactivated.mono fun _ db₁ hinserted => ?_
    rw [commits_bind]
    refine linkPayment_commits (hinserted.1 ▸ hfind) hunlinked (hinserted.2.mono ?_)
    exact fun _ db₂ hlinked => (hrest db₂).mono fun _ db' hdone => IsTrans.trans _ _ _ hlinked hdone

theorem applySuccess_grows (event : VerifiedBillingEvent) (payment : Payment)
    (hfind : db.payments.find? (·.id = payment.id) = some payment)
    (hpending : payment.state = .PENDING) :
    Commits (applySuccess draws eventId event payment) db fun _ db' => Grows db db' := by
  by_cases hintegrity : db.Integrity
  swap
  · exact fun _ _ _ h => absurd h hintegrity
  have hunlinked : payment.subscriptionId = none := by
    by_contra hlink
    have hstate := hintegrity.linkState payment (List.mem_of_find?_eq_some hfind) hlink
    rw [hpending] at hstate
    cases hstate
  unfold applySuccess
  rw [commits_bind]
  refine (updatePayment_commits db payment.id _).mono ?_
  rintro _ db₁ (⟨hnone, -, -⟩ | ⟨row, -, -, -, rfl⟩)
  · exact absurd (hnone.symm.trans hfind) (by simp)
  have hgrows : Grows db { db with
      payments := updateWhere (·.id = payment.id)
        (Payment.succeeded event.occurredAt (draws.now 0)) db.payments } :=
    grows_updatePayment hfind (by simp [hpending])
      fun _ => ⟨rfl, rfl, by simp [Payment.succeeded]⟩
  have hfind₁ := find?_updateWhere_self (f := Payment.succeeded event.occurredAt (draws.now 0))
    hfind (by simp [Payment.succeeded])
  rw [commits_bind, commits_get]
  split
  · exact Keeps.after (failEvent_keeps draws eventId _ payment _) hgrows
  · next checkout _ =>
    split
    · exact Keeps.after (failEvent_keeps draws eventId _ payment _) hgrows
    · rw [commits_bind]
      refine (materialize_grows _ _ _ _).mono fun current db₂ hcurrent => ?_
      have hgrows₂ := IsTrans.trans _ _ _ hgrows hcurrent.1
      cases current with
      | CORRUPTED id => exact Keeps.after (failEvent_keeps draws eventId _ payment _) hgrows₂
      | CURRENT id state => exact Keeps.after (failEvent_keeps draws eventId _ payment _) hgrows₂
      | NONE =>
        have hfind₂ : db₂.payments.find? (·.id = payment.id) =
            some (payment.succeeded event.occurredAt (draws.now 0)) := by
          rw [hcurrent.2.payments]
          exact hfind₁
        refine (activateFromEvent_grows draws eventId event payment checkout hfind₂ hunlinked
          rfl rfl).mono fun _ db' hdone => ?_
        exact IsTrans.trans _ _ _ hgrows₂ hdone

theorem updatePayment_grows {id : String} {state : PaymentState} {updatedAt : Date}
    {payment : Payment} (hfind : db.payments.find? (·.id = id) = some payment)
    (hpayment : payment.state ≠ .SUCCEEDED) (hstate : state ≠ .PENDING) :
    Commits (updatePayment id (Payment.moved state updatedAt)) db fun _ db' =>
      Grows db db' := by
  refine (updatePayment_commits db id _).mono ?_
  rintro _ db' (⟨-, -, rfl⟩ | ⟨row, -, -, -, rfl⟩)
  · exact refl db'
  · exact grows_updatePayment hfind hpayment fun _ => ⟨rfl, rfl, hstate⟩

/-- The row that a lookup by another index finds is the one of its id. -/
theorem find?_of_findPayment (hintegrity : db.Integrity) {event : VerifiedBillingEvent}
    {payment : Payment} (h : db.findPayment event = some payment) :
    db.payments.find? (·.id = payment.id) = some payment := by
  have hkey : ∀ row ∈ db.payments, decide (row.id = payment.id) = true →
      some row.id = some payment.id := by simp
  exact hintegrity.paymentId.find_eq_some hkey (List.mem_of_find?_eq_some h) (by simp)

theorem eventState_ne_pending (eventType : BillingEventType) : eventType.eventState ≠ .PENDING := by
  cases eventType <;> simp [BillingEventType.eventState]

theorem applyToTerminalPayment_keeps (desiredState : PaymentState) (payment : Payment) :
    Keeps Grows (applyToTerminalPayment draws eventId desiredState payment) := by
  unfold applyToTerminalPayment
  simp only []
  split
  · exact terminalize_result_keeps draws eventId _ _ _
  split
  · split
    · exact failEvent_keeps draws eventId _ payment _
    · refine keeps_bind keeps_get fun db => keeps_ite (fun _ => ?_) fun _ => failEvent_keeps draws eventId _ payment _
      exact terminalize_result_keeps draws eventId _ _ _
  · exact failEvent_keeps draws eventId _ payment _

theorem applyToPayment_grows (event : VerifiedBillingEvent) (payment : Payment)
    (hfind : db.payments.find? (·.id = payment.id) = some payment) :
    Commits (applyToPayment draws eventId event payment) db fun _ db' => Grows db db' := by
  unfold applyToPayment
  simp only []
  split
  · exact applyToTerminalPayment_keeps draws eventId _ payment db
  next hpending =>
  rw [ne_eq, not_not] at hpending
  split
  · rw [commits_bind]
    refine (updatePayment_grows hfind (by simp [hpending])
      (eventState_ne_pending event.eventType)).mono fun updated db₁ hgrows => ?_
    cases updated with
    | none => simp
    | some row =>
      have hrest : Keeps Grows (do
          let applied ← terminalize draws eventId .APPLIED (draws.now 0)
            { paymentId := some payment.id }
          return resultFromTerminal applied false) := terminalize_result_keeps draws eventId _ _ _
      exact hrest.after hgrows
  · exact applySuccess_grows draws eventId event payment hfind hpending

theorem applyClaimed_grows (input : BillingEventInput) (eventId : String) :
    Commits (applyClaimed draws input eventId) db fun _ db' => Grows db db' := by
  by_cases hintegrity : db.Integrity
  swap
  · exact fun _ _ _ h => absurd h hintegrity
  unfold applyClaimed
  simp only []
  rw [commits_bind, commits_get]
  split
  · exact terminalize_result_keeps _ _ _ _ _ db
  next payment hpayment =>
  split
  · exact failEvent_keeps _ _ _ _ _ db
  split
  · exact failEvent_keeps _ _ _ _ _ db
  split
  · exact commits_throw
  · exact applyToPayment_grows draws eventId input.event payment
      (find?_of_findPayment hintegrity hpayment)

theorem applyVerifiedBillingEvent_keeps (input : BillingEventInput) :
    Keeps Grows (applyVerifiedBillingEvent draws input) := by
  refine keeps_bind (insertBillingEvent_keeps _) fun claimed => keeps_bind keeps_get fun db => ?_
  split
  · exact keeps_throw _
  · refine keeps_ite (fun _ => keeps_pure _) fun _ => keeps_ite (fun _ => keeps_pure _) fun _ => ?_
    exact fun db => applyClaimed_grows draws input _

/-! The same for the reconciliation. -/

theorem activateFromStatus_grows (eventId : String) (checkout : CheckoutIntent) {row : Payment}
    (hfind : db.payments.find? (·.id = claim.paymentId) = some row)
    (hunlinked : row.subscriptionId = none) (haccount : claim.accountId = row.accountId) :
    Commits (activateFromStatus draws claim status eventId checkout) db fun _ db' =>
      Grows db db' := by
  unfold activateFromStatus
  simp only []
  split
  · exact commits_throw
  · next periodEnd _ =>
    have hrest : Keeps Grows (do
        materializeActivated draws claim.accountId
        settle claim eventId .APPLIED (draws.now 4)
          { subscriptionId := some (draws.uuid 2)
            subscriptionTransitionId := some (draws.uuid 3) } .SETTLED none) := by
      refine keeps_bind (fun db => ?_) fun _ => settle_keeps claim eventId _ _ _ _ _
      exact (materializeActivated_keeps draws claim.accountId db).mono fun _ _ h => h.1
    have hactivated := @activation_grows db claim.paymentId row
      (activatedSubscription (draws.uuid 2) claim.accountId checkout.planRevisionId
        claim.priceRevisionId status.statusAt periodEnd (draws.now 2)) (draws.uuid 3)
      (Payment.repaired status.statusAt (draws.uuid 2) (draws.now 2))
      hfind hunlinked (fun _ => ⟨rfl, rfl⟩) rfl haccount
    rw [commits_bind]
    refine hactivated.mono fun _ db₁ hinserted => ?_
    rw [commits_bind]
    exact hinserted.2.mono fun _ db₂ hlinked => hrest.after hlinked

/-- The checkout of a payment is of its account. -/
theorem checkout_account (hintegrity : db.Integrity) {id : String} {payment : Payment}
    {checkout : CheckoutIntent} (hcheckout : db.findCheckout id = some checkout)
    (hfind : db.payments.find? (·.id = id) = some payment) :
    checkout.accountId = payment.accountId := by
  obtain ⟨intent, hintent, hcarries⟩ := hintegrity.checkout payment (List.mem_of_find?_eq_some hfind)
  have hid : payment.id = id := by simpa using List.find?_some hfind
  have hpaid : checkout.paymentId = some id := by simpa using List.find?_some hcheckout
  rw [hintegrity.intentPayment.eq_of_key (List.mem_of_find?_eq_some hcheckout) hintent hpaid
    (hid ▸ hcarries.paymentId)]
  exact hcarries.accountId

theorem applySucceededStatus_grows (eventId : String) (payment : Payment)
    (hfind : db.payments.find? (·.id = claim.paymentId) = some payment) :
    Commits (applySucceededStatus draws claim status eventId payment) db fun _ db' =>
      Grows db db' := by
  by_cases hintegrity : db.Integrity
  swap
  · exact fun _ _ _ h => absurd h hintegrity
  unfold applySucceededStatus
  simp only []
  rw [commits_bind, commits_get]
  split
  · exact settle_keeps claim eventId _ _ _ _ _ db
  split
  · exact settle_keeps claim eventId _ _ _ _ _ db
  split
  · split
    · exact settle_keeps claim eventId _ _ _ _ _ db
    · exact settle_keeps claim eventId _ _ _ _ _ db
  · next checkout hcheckout hcoherent _ hunlinked =>
    have haccount := checkout_account hintegrity hcheckout hfind
    simp only [CheckoutIntent.coherentWith, Bool.not_eq_true', Bool.not_eq_false, Bool.and_eq_true,
      decide_eq_true_eq] at hcoherent
    rw [hcoherent.1.1.1.1.1.1.2] at haccount
    rw [commits_bind]
    refine (materialize_grows db _ _ _).mono fun current db₁ hcurrent => ?_
    cases current with
    | CORRUPTED id => exact Keeps.after (settle_keeps claim eventId _ _ _ _ _) hcurrent.1
    | CURRENT id state => exact Keeps.after (settle_keeps claim eventId _ _ _ _ _) hcurrent.1
    | NONE =>
      have hfind₁ : db₁.payments.find? (·.id = claim.paymentId) = some payment := by
        rw [hcurrent.2.payments]
        exact hfind
      refine (activateFromStatus_grows draws claim status eventId checkout hfind₁ hunlinked
        haccount).mono ?_
      exact fun _ db' hdone => IsTrans.trans _ _ _ hcurrent.1 hdone

theorem applyStatusToPayment_grows (eventId : String) (payment : Payment)
    (hfind : db.payments.find? (·.id = claim.paymentId) = some payment)
    (hterminal : status.state ≠ .PENDING) :
    Commits (applyStatusToPayment draws claim status eventId payment) db fun _ db' =>
      Grows db db' := by
  unfold applyStatusToPayment
  simp only []
  split
  · exact settle_keeps claim eventId _ _ _ _ _ db
  next hpayment =>
  split
  · exact settle_keeps claim eventId _ _ _ _ _ db
  split
  · next hfailed =>
    have hunpaid : payment.state ≠ .SUCCEEDED := fun hstate => hpayment (.inr (.inr ⟨hstate, hfailed⟩))
    have hmoved : status.state.paymentState ≠ .PENDING := by
      cases hs : status.state <;> simp_all [BillingPaymentStatusState.paymentState]
    rw [commits_bind]
    refine (updatePayment_grows hfind hunpaid hmoved).mono fun _ db₁ hgrows => ?_
    exact Keeps.after (settle_keeps claim eventId _ _ _ _ _) hgrows
  · exact applySucceededStatus_grows draws claim status eventId payment hfind

theorem applyTerminalStatus_keeps (hterminal : status.state ≠ .PENDING) :
    Keeps Grows (applyTerminalStatus hashing draws claim status processedAt) := by
  refine keeps_bind (insertBillingEvent_keeps _) fun inserted db => ?_
  rw [commits_bind, commits_get]
  split
  · exact commits_throw
  · split
    · exact keeps_bind (finishJob_keeps _ _ _ _) (fun _ => keeps_pure _) db
    split
    · exact settle_keeps claim _ _ _ _ _ _ db
    split
    · exact settle_keeps claim _ _ _ _ _ _ db
    split
    · exact commits_throw
    split
    · exact commits_throw
    · next payment hfind =>
      exact applyStatusToPayment_grows draws claim status _ payment hfind hterminal

theorem applyStatus_keeps :
    Keeps Grows (applyStatus hashing draws claim status processedAt) := by
  refine keeps_bind keeps_get fun db => keeps_ite (fun _ => keeps_pure _) fun _ => ?_
  refine keeps_ite (fun _ => ?_) fun hterminal => ?_
  · exact keeps_bind (finishJob_keeps _ _ _ _) fun _ => keeps_pure _
  · exact applyTerminalStatus_keeps hashing draws claim status processedAt hterminal

theorem claimJobs_keeps (now : Date) (leaseMs next : Nat)
    (rows : List (BillingReconciliationJob × Payment)) :
    Keeps Grows (claimJobs draws now leaseMs next rows) := by
  induction rows generalizing next with
  | nil => exact keeps_pure _
  | cons row rest ih =>
    refine keeps_bind (updateReconciliationJobs_keeps _ fun _ => rfl) fun updated => ?_
    exact keeps_bind (ih (next + 1)) fun claims => keeps_pure _

theorem claimDue_keeps (now : Date) (leaseMs batchSize : Nat) (locked : List String) :
    Keeps Grows (claimDue draws now leaseMs batchSize locked) := by
  refine keeps_ite (fun _ => keeps_throw _) fun _ => keeps_bind keeps_get fun db => ?_
  exact claimJobs_keeps draws now leaseMs 0 _

/-! The same for the checkout. -/

theorem terminalFailure_keeps (intent : CheckoutIntentSnapshot) (code : CheckoutFailureCode)
    (completedAt : Date) :
    Keeps Grows (terminalFailure draws intent code completedAt) := by
  refine keeps_ite (fun _ => keeps_pure _) fun _ => keeps_bind (fun db => ?_) fun updated => ?_
  · refine (updateCheckoutIntent_commits db intent.id _).mono ?_
    rintro _ db' (⟨-, rfl⟩ | ⟨row, hfind, hrow, -, -, rfl⟩)
    · exact refl db'
    · exact grows_failIntent hfind hrow fun _ => ⟨rfl, rfl, rfl⟩
  · cases updated with
    | none => exact keeps_throw _
    | some next => exact keeps_pure _

/-- Without another actionable intent no intent of the account is actionable. -/
theorem not_actionable_of_none (hintegrity : db.Integrity) {accountId hash : String}
    (hexisting : loadIntent db accountId hash = none)
    (hother : otherActionableIntent db accountId hash = none) :
    ∀ other ∈ db.intents, other.accountId = accountId → ¬ other.Actionable db := by
  intro other hmem haccount hactionable
  have hhash : other.idempotencyKeyHash ≠ hash := by
    simp only [loadIntent, Option.map_eq_none_iff, List.find?_eq_none] at hexisting
    simpa [haccount] using hexisting other hmem
  simp only [otherActionableIntent, List.findSome?_eq_none_iff, List.mem_filter] at hother
  have hhinders : (other.state = .CREATING ∨ other.state = .READY) →
      (db.joined other).hinders = none := fun hstate =>
    hother other ⟨hmem, by simp [haccount, hhash, hstate]⟩
  rcases hactionable with hcreating | ⟨payment, hpayment, hpaid, hpending⟩
  · have hnone := hhinders (.inl hcreating)
    simp [CheckoutIntentSnapshot.hinders, Database.joined, hcreating] at hnone
  · have hready : other.state = .READY := by
      by_contra hstate
      rw [hintegrity.notReady other hmem hstate] at hpaid
      cases hpaid
    have hkey : ∀ row ∈ db.payments, decide (row.id = payment.id) = true →
        some row.id = some payment.id := by simp
    have hfind : db.payments.find? (·.id = payment.id) = some payment :=
      hintegrity.paymentId.find_eq_some hkey hpayment (by simp)
    have hnone := hhinders (.inr hready)
    simp [CheckoutIntentSnapshot.hinders, Database.joined, hready, hpaid, hfind, hpending] at hnone

theorem prepareMaterialized_keeps (input : CheckoutPrepareInput) :
    Keeps Grows (prepareMaterialized draws input) := by
  intro db
  unfold prepareMaterialized
  rw [commits_bind, commits_get]
  simp only []
  split
  · exact prepareExisting_keeps (terminalFailure_keeps draws) _ _ db
  next hexisting =>
  split
  · exact keeps_pure _ db
  split
  · exact keeps_pure _ db
  next hother =>
  simp only [commits_bind, commits_pure]
  refine (insertCheckoutIntent_commits db _).mono ?_
  rintro _ _ ⟨hid, hkey, rfl⟩ hintegrity
  exact grows_insertCheckoutIntent hid hkey rfl rfl
    (not_actionable_of_none hintegrity hexisting hother) hintegrity

theorem finalizeReady_grows (locked : CheckoutIntentSnapshot)
    (providerCheckoutId providerPaymentId checkoutReference : String)
    (hfind : db.intents.find? (·.id = locked.id) = some locked.toCheckoutIntent)
    (hlocked : locked.state = .CREATING) :
    Commits (finalizeReady draws locked providerCheckoutId providerPaymentId checkoutReference) db
      fun _ db' => Grows db db' := by
  unfold finalizeReady
  rw [commits_bind]
  refine (insertPayment_commits db _).mono ?_
  rintro _ _ ⟨hid, hkey, rfl⟩
  rw [commits_bind]
  refine (insertReconciliationJob_commits _ _).mono ?_
  rintro _ _ ⟨hjob, rfl⟩
  rw [commits_bind]
  refine (updateCheckoutIntent_commits _ locked.id _).mono ?_
  rintro _ _ (⟨rfl, -⟩ | ⟨row, hrow, -, rfl, hunique, rfl⟩)
  · exact commits_throw
  · simp only [commits_pure]
    exact grows_finalize hfind hlocked (fun _ => rfl)
      ⟨rfl, rfl, rfl, rfl, rfl, rfl, rfl, rfl, rfl, rfl⟩ hunique hid hkey rfl
      fun hjobs => hjobs.insert hjob

theorem finalizeCheckout_keeps (intentId provider : String) (result : ProviderCheckoutResult) :
    Keeps Grows (finalizeCheckout draws intentId provider result) := by
  intro db
  unfold finalizeCheckout
  rw [commits_bind, commits_get]
  split
  · exact keeps_pure _ db
  next row hrow =>
  simp only []
  split
  · exact keeps_pure _ db
  split
  · exact keeps_pure _ db
  next hcreating =>
  rw [ne_eq, not_not] at hcreating
  split
  · exact keeps_pure _ db
  split
  · next providerCheckoutId providerPaymentId checkoutReference =>
    split
    · exact terminalFailure_keeps draws _ _ _ db
    · rw [commits_bind]
      refine (materialize_grows db _ _ _).mono fun materialized db₁ hcurrent => ?_
      cases materialized with
      | CORRUPTED id => exact Keeps.after (terminalFailure_keeps draws _ _ _) hcurrent.1
      | CURRENT id state => exact Keeps.after (terminalFailure_keeps draws _ _ _) hcurrent.1
      | NONE =>
        have hid : row.id = intentId := by simpa using List.find?_some hrow
        have hfind : db₁.intents.find? (·.id = (db.joined row).id) =
            some (db.joined row).toCheckoutIntent := by
          rw [hcurrent.2.intents]
          simpa [Database.joined, hid] using hrow
        refine (finalizeReady_grows draws (db.joined row) _ _ _ hfind hcreating).mono ?_
        exact fun _ db' hdone => IsTrans.trans _ _ _ hcurrent.1 hdone
  · exact terminalFailure_keeps draws _ _ _ db

/-! Runs. -/

theorem prepareCheckout_grows (input : CheckoutPrepareInput) :
    Keeps Grows (prepareCheckout draws input) :=
  prepareCheckout_keeps materialize_keeps (prepareMaterialized_keeps draws input)

theorem failCheckout_grows (intentId provider : String) (code : CheckoutFailureCode) :
    Keeps Grows (failCheckout draws intentId provider code) :=
  failCheckout_keeps (terminalFailure_keeps draws) intentId provider code

theorem step_keeps (step : Step) : Keeps Grows (step.transaction hashing) := by
  cases step with
  | applyVerifiedBillingEvent draws input =>
    exact keeps_bind (applyVerifiedBillingEvent_keeps draws input) fun _ => keeps_pure _
  | claimDue draws now leaseMs batchSize locked =>
    exact claimDue_keeps draws now leaseMs batchSize locked
  | applyStatus draws claim status processedAt =>
    exact keeps_bind (applyStatus_keeps hashing draws claim status processedAt) fun _ => keeps_pure _
  | reschedule paymentId leaseToken nextAttemptAt code =>
    exact keeps_bind (keeps_bind (finishJob_keeps _ _ _ _) fun _ => keeps_pure _) fun _ => keeps_pure _
  | blockUnsupported claim code =>
    exact keeps_bind (keeps_bind (finishJob_keeps _ _ _ _) fun _ => keeps_pure _) fun _ => keeps_pure _
  | prepareCheckout draws input =>
    exact keeps_bind (prepareCheckout_grows draws input) fun _ => keeps_pure _
  | finalizeCheckout draws intentId provider result =>
    exact keeps_bind (finalizeCheckout_keeps draws intentId provider result) fun _ => keeps_pure _
  | failCheckout draws intentId provider code =>
    exact keeps_bind (failCheckout_grows draws intentId provider code) fun _ => keeps_pure _
  | lifecycle run => exact keeps_bind (lifecycle_keeps run) fun _ => keeps_pure _
  | grantSubscription draws accountId planRevisionId currentPeriodEnd =>
    refine keeps_bind (fun db => ?_) fun _ => keeps_pure _
    exact (grantSubscription_keeps draws accountId planRevisionId currentPeriodEnd db).mono
      fun _ _ h => h.1
  | mutate draws subscriptionId operation expectedStateRevision =>
    refine keeps_bind (fun db => ?_) fun _ => keeps_pure _
    exact (mutate_keeps draws subscriptionId operation expectedStateRevision db).mono
      fun _ _ h => h.1
  | authority accounts owners plans prices =>
    intro db
    simp only [Step.transaction, commits_bind, commits_modify, commits_pure]
    exact fun h => ⟨{ h with }, { Extends.rfl with }⟩

theorem next_grows (world : World) (step : Step) :
    Grows world.db (step.next hashing world).db :=
  Step.next_keeps (step_keeps hashing) world step

theorem runFrom_grows (world : World) (steps : List Step) :
    Grows world.db (runFrom hashing world steps).db :=
  runFrom_keeps (step_keeps hashing) world steps

theorem integrity_empty : emptyDatabase.Integrity := by
  constructor <;> simp [emptyDatabase, UniqueBy]

theorem run_integrity (steps : List Step) :
    (run hashing steps).db.Integrity :=
  (runFrom_grows hashing _ steps integrity_empty).1

theorem run_extends (steps more : List Step) :
    Extends (run hashing steps).db (run hashing (steps ++ more)).db := by
  have hgrows := runFrom_grows hashing (run hashing steps) more (run_integrity hashing steps)
  rw [run_append]
  exact hgrows.2

/-- The safety of activation, between a state of a run and any later one. -/
structure ActivationSafe (db db' : Database) : Prop where
  /-- Every subscription that was bought was created for one payment, which is linked to it. -/
  oneSubscription : ∀ subscription ∈ db.subscriptions, subscription.boundPriceRevisionId ≠ none →
    ∃ payment ∈ db.payments, payment.subscriptionId = some subscription.id ∧
    ∀ other ∈ db.payments, other.subscriptionId = some subscription.id → other = payment
  /-- A later subscription is of a payment that has had none. -/
  created : ∀ subscription ∈ db'.subscriptions,
    (∀ old ∈ db.subscriptions, old.id ≠ subscription.id) →
    ∀ payment' ∈ db'.payments, payment'.subscriptionId = some subscription.id →
    ∀ payment ∈ db.payments, payment.id = payment'.id → payment.subscriptionId = none
  /-- No subscription is deleted. -/
  kept : ∀ subscription ∈ db.subscriptions, ∃ subscription' ∈ db'.subscriptions,
    subscription'.id = subscription.id ∧ subscription'.accountId = subscription.accountId
  /-- A link never changes. -/
  link : ∀ payment ∈ db.payments, ∀ id, payment.subscriptionId = some id →
    (∃ payment' ∈ db'.payments, payment'.id = payment.id) ∧
    ∀ payment' ∈ db'.payments, payment'.id = payment.id → payment'.subscriptionId = some id
  /-- An event that left `VERIFIED` is the one of its identity and stays as it is. -/
  event : ∀ event ∈ db.events, event.processingState ≠ .VERIFIED → event ∈ db'.events ∧
    ∀ event' ∈ db'.events, event'.provider = event.provider →
      event'.eventIdentity = event.eventIdentity → event' = event
  /-- An account has one subscription that is not `EXPIRED`. -/
  current : ∀ subscription ∈ db.subscriptions, ∀ other ∈ db.subscriptions,
    subscription.accountId = other.accountId → subscription.state ≠ .EXPIRED →
    other.state ≠ .EXPIRED → subscription = other

/-- Whatever the order, the repetition and the interleaving of webhooks, reconciliations, checkouts,
the lifecycle and the commands, no payment is activated twice. -/
theorem activation_safety (hashing : Hashing) (steps more : List Step) :
    ActivationSafe (run hashing steps).db (run hashing (steps ++ more)).db := by
  have h := run_integrity hashing steps
  have h' := run_integrity hashing (steps ++ more)
  have hextends := run_extends hashing steps more
  have hlater : ∀ payment ∈ (run hashing steps).db.payments, ∀ id,
      payment.subscriptionId = some id →
      ∀ payment' ∈ (run hashing (steps ++ more)).db.payments, payment'.id = payment.id →
        payment'.subscriptionId = some id := by
    intro payment hpayment id hlink payment' hpayment' hid
    obtain ⟨row, hrow, hsale, hkept, -⟩ := hextends.payments payment hpayment
    have hsame : payment' = row := h'.paymentId.eq_of_key hpayment' hrow rfl
      (by rw [Payment.id_of_sale hsale, hid])
    rw [hsame]
    exact hkept id hlink
  refine ⟨fun subscription hsubscription hbought => ?_, ?_, hextends.subscriptions, ?_, ?_, ?_⟩
  · obtain ⟨payment, hpayment, hlink⟩ := h.linked subscription hsubscription hbought
    refine ⟨payment, hpayment, hlink, fun other hother hotherLink => ?_⟩
    exact h.link.eq_of_key hother hpayment hotherLink hlink
  · intro subscription hsubscription hnew payment' hpayment' hlink' payment hpayment hid
    by_contra hlinked
    obtain ⟨id, hlink⟩ := Option.ne_none_iff_exists'.mp hlinked
    have hsame := hlater payment hpayment id hlink payment' hpayment' hid.symm
    rw [hlink', Option.some.injEq] at hsame
    obtain ⟨old, hold, holdId, -⟩ := h.linkExists payment hpayment id hlink
    exact hnew old hold (holdId.trans hsame.symm)
  · intro payment hpayment id hlink
    obtain ⟨row, hrow, hsale, -⟩ := hextends.payments payment hpayment
    exact ⟨⟨row, hrow, Payment.id_of_sale hsale⟩, hlater payment hpayment id hlink⟩
  · intro event hevent hstate
    have hkept := hextends.events event hevent hstate
    refine ⟨hkept, fun event' hevent' hprovider hidentity => ?_⟩
    exact h'.event.eq_of_key hevent' hkept rfl (by simp [eventKey, hprovider, hidentity])
  · intro subscription hsubscription other hother haccount hstate hotherState
    exact h.current.eq_of_key hsubscription hother (currentKey_of_ne hstate)
      (by rw [currentKey_of_ne hotherState, haccount])

end SellerAgents.Billing
