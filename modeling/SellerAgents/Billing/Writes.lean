import SellerAgents.Billing.Access
import SellerAgents.Billing.Checkout

open Relational SellerAgents.Subscriptions

namespace SellerAgents.Billing

variable (db : Database)

theorem insertSubscription_commits (row : SubscriptionSnapshot) :
    Commits (insertSubscription row) db fun _ db' =>
      Fresh (fun r => some r.id) row db.subscriptions ∧ Fresh currentKey row db.subscriptions ∧
        db' = { db with subscriptions := db.subscriptions ++ [row] } := by
  unfold insertSubscription
  simp only [commits_bind, commits_get, commits_ensure, commits_modify]
  exact fun _ hid hcurrent _ => ⟨hid, hcurrent, trivial⟩

theorem insertPayment_commits (row : Payment) :
    Commits (insertPayment row) db fun _ db' =>
      Fresh (fun r => some r.id) row db.payments ∧ Fresh providerPaymentKey row db.payments ∧
        db' = { db with payments := db.payments ++ [row] } := by
  unfold insertPayment
  simp only [commits_bind, commits_get, commits_ensure, commits_modify]
  exact fun _ hid hkey _ _ => ⟨hid, hkey, trivial⟩

theorem updatePayment_commits (id : String) (set : Payment → Payment) :
    Commits (updatePayment id set) db fun updated db' =>
      (db.payments.find? (·.id = id) = none ∧ updated = none ∧ db' = db) ∨
        ∃ row, db.payments.find? (·.id = id) = some row ∧ updated = some (set row) ∧
          (row.subscriptionId = none ∨ (set row).subscriptionId = row.subscriptionId) ∧
          db' = { db with payments := updateWhere (·.id = id) set db.payments } := by
  unfold updatePayment
  simp only [commits_bind, commits_get]
  split
  · next hfind => simp [hfind]
  · next row hfind =>
    simp only [commits_bind, commits_ensure, commits_modify, commits_pure]
    exact fun hlink _ => .inr ⟨row, hfind, rfl, hlink, trivial⟩

theorem insertBillingEvent_commits (row : BillingEvent) :
    Commits (insertBillingEvent row) db fun inserted db' =>
      (inserted = false ∧ ¬ Fresh eventKey row db.events ∧ db' = db) ∨
        (inserted = true ∧ Fresh eventKey row db.events ∧ Fresh (fun r => some r.id) row db.events ∧
          db' = { db with events := db.events ++ [row] }) := by
  unfold insertBillingEvent
  simp only [commits_bind, commits_get, commits_ite, commits_ensure, commits_modify, commits_pure]
  exact ⟨fun hkey hid _ => .inr ⟨trivial, hkey, hid, trivial⟩, fun hkey => .inl ⟨trivial, hkey, trivial⟩⟩

theorem updateBillingEvent_commits (id : String) (set : BillingEvent → BillingEvent) :
    Commits (updateBillingEvent id set) db fun updated db' =>
      (updated = none ∧ db' = db) ∨
        ∃ row, db.events.find? (·.id = id) = some row ∧ row.processingState = .VERIFIED ∧
          updated = some (set row) ∧
          db' = { db with events := updateWhere (·.id = id) set db.events } := by
  unfold updateBillingEvent
  simp only [commits_bind, commits_get]
  split
  · simp
  · next row hfind =>
    simp only [commits_bind, commits_ensure, commits_modify, commits_pure]
    exact fun hverified _ => .inr ⟨row, hfind, hverified, rfl, trivial⟩

theorem insertCheckoutIntent_commits (row : CheckoutIntent) :
    Commits (insertCheckoutIntent row) db fun _ db' =>
      Fresh (fun r => some r.id) row db.intents ∧ Fresh intentIdempotencyKey row db.intents ∧
        db' = { db with intents := db.intents ++ [row] } := by
  unfold insertCheckoutIntent
  simp only [commits_bind, commits_get, commits_ensure, commits_modify]
  exact fun hid hkey _ _ => ⟨hid, hkey, trivial⟩

theorem updateCheckoutIntent_commits (id : String) (set : CheckoutIntent → CheckoutIntent) :
    Commits (updateCheckoutIntent id set) db fun updated db' =>
      (updated = none ∧ db' = db) ∨
        ∃ row, db.intents.find? (·.id = id) = some row ∧ row.state = .CREATING ∧
          updated = some (set row) ∧
          UniqueBy CheckoutIntent.paymentId (updateWhere (·.id = id) set db.intents) ∧
          db' = { db with intents := updateWhere (·.id = id) set db.intents } := by
  unfold updateCheckoutIntent
  simp only [commits_bind, commits_get]
  split
  · simp
  · next row hfind =>
    simp only [commits_bind, commits_ensure, commits_modify, commits_pure]
    exact fun hstate _ _ _ _ hunique => .inr ⟨row, hfind, hstate, rfl, hunique, trivial⟩

theorem insertReconciliationJob_commits (row : BillingReconciliationJob) :
    Commits (insertReconciliationJob row) db fun _ db' =>
      Fresh (fun r => some r.paymentId) row db.jobs ∧
        db' = { db with jobs := db.jobs ++ [row] } := by
  unfold insertReconciliationJob
  simp only [commits_bind, commits_get, commits_ensure, commits_modify]
  exact fun hid _ => ⟨hid, trivial⟩

theorem updateReconciliationJobs_commits (where' : BillingReconciliationJob → Bool)
    (set : BillingReconciliationJob → BillingReconciliationJob) :
    Commits (updateReconciliationJobs where' set) db fun updated db' =>
      updated = db.jobs.any where' ∧ db' = { db with jobs := updateWhere where' set db.jobs } := by
  unfold updateReconciliationJobs
  simp only [commits_bind, commits_get, commits_ensure, commits_modify, commits_pure]
  exact fun _ => ⟨trivial, trivial⟩

/-- What the materialization leaves: the same database, or the one due transition. -/
theorem materializeDueCurrentSubscriptionLocked_commits (transitionId accountId : String)
    (now : Date) :
    Commits (materializeDueCurrentSubscriptionLocked transitionId accountId now) db
      fun materialized db' =>
        (materialized = .NONE ↔ hasCurrentSubscriptionAt db accountId now = false) ∧
        (db' = db ∨ ∃ row toState updatedAt,
          db' = db.transitioned transitionId row toState updatedAt ∧
          UniqueBy currentKey db'.subscriptions) := by
  unfold materializeDueCurrentSubscriptionLocked hasCurrentSubscriptionAt
  simp only [commits_bind, commits_get]
  cases hclassify : classify db accountId now with
  | none => simp
  | some classified =>
    obtain ⟨row, decision⟩ := classified
    cases decision with
    | NOOP => simp
    | CORRUPTED => simp
    | TRANSITION toState reason dueAt =>
      simp only [commits_bind, commits_pure]
      refine (applyLifecycleTransition_commits _ _ _ _ _).mono ?_
      rintro _ _ ⟨rfl, hunique, -⟩
      refine ⟨?_, .inr ⟨row, toState, _, rfl, hunique⟩⟩
      by_cases hexpired : toState = .EXPIRED
      · simp [hexpired]
      · simp only [hexpired, if_false, false_iff, reduceCtorEq]
        cases toState <;> simp_all

/-! The checkout transactions keep what a failed intent and a due transition keep. -/

section

variable {R : Database → Database → Prop} [Std.Refl R] [IsTrans Database R] {draws : Draws}
  {input : CheckoutPrepareInput}

theorem prepareCheckout_keeps
    (hmaterialize : ∀ transitionId accountId now,
      Keeps R (materializeDueCurrentSubscriptionLocked transitionId accountId now))
    (hprepare : Keeps R (prepareMaterialized draws input)) :
    Keeps R (prepareCheckout draws input) := by
  refine keeps_bind keeps_get fun db => keeps_ite (fun _ => keeps_pure _) fun _ => ?_
  refine keeps_bind (hmaterialize _ _ _) fun materialized => ?_
  split
  · exact keeps_pure _
  · exact hprepare

variable (hfail : ∀ intent code completedAt,
  Keeps R (terminalFailure draws intent code completedAt))
include hfail

theorem prepareExisting_keeps (account : CheckoutAccountObservation)
    (existing : CheckoutIntentSnapshot) :
    Keeps R (prepareExisting draws input account existing) := by
  refine keeps_ite (fun _ => keeps_pure _) fun _ => keeps_ite (fun _ => keeps_pure _) fun _ => ?_
  cases account.blocked with
  | none => exact keeps_pure _
  | some blocked =>
    refine keeps_ite (fun _ => ?_) fun _ => keeps_pure _
    refine keeps_bind (hfail existing blocked _) fun terminal => ?_
    cases terminal <;> exact keeps_pure _

theorem failCheckout_keeps (intentId provider : String) (code : CheckoutFailureCode) :
    Keeps R (failCheckout draws intentId provider code) := by
  refine keeps_bind keeps_get fun db => ?_
  split
  · exact keeps_pure _
  · refine keeps_ite (fun _ => keeps_pure _) fun _ => keeps_ite (fun _ => keeps_pure _) fun _ => ?_
    exact hfail _ _ _

end

end SellerAgents.Billing
