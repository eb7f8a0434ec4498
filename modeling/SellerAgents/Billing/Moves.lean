import SellerAgents.Billing.Integrity
import SellerAgents.Billing.Writes

open Relational SellerAgents.Subscriptions

namespace SellerAgents.Billing

/-- What the statements of a transaction make of the subscriptions and their history. A transition
is always an update of the row and an insert into the history. -/
inductive Moved (db : Database) : Database → Prop where
  | other {db' : Database} (hsubscriptions : db'.subscriptions = db.subscriptions)
      (htransitions : db'.transitions = db.transitions) : Moved db db'
  | extended (id : String) (set : SubscriptionSnapshot → SubscriptionSnapshot)
      (hset : ∀ row, (set row).id = row.id ∧ (set row).accountId = row.accountId ∧
        (set row).state = row.state ∧ (set row).stateRevision = row.stateRevision + 1) :
      Moved db { db with subscriptions := updateWhere (·.id = id) set db.subscriptions }
  | transitioned (row : SubscriptionSnapshot) (set : SubscriptionSnapshot → SubscriptionSnapshot)
      (toState : SubscriptionState) (transition : SubscriptionTransition)
      (hrow : row ∈ db.subscriptions)
      (hallowed : validateSubscriptionStateTransition (some row.state) toState = none)
      (hset : ∀ row, (set row).id = row.id ∧ (set row).accountId = row.accountId ∧
        (set row).state = toState ∧ (set row).stateRevision = row.stateRevision + 1)
      (hsubscription : transition.subscriptionId = row.id)
      (hrevision : transition.transitionRevision = db.nextTransitionRevision row.id)
      (hfrom : transition.fromState = some row.state) (hto : transition.toState = toState) :
      Moved db { db with
        subscriptions := updateWhere (·.id = row.id) set db.subscriptions
        transitions := db.transitions ++ [transition] }
  | created (subscription : SubscriptionSnapshot) (transition : SubscriptionTransition)
      (hfresh : Fresh (fun row => some row.id) subscription db.subscriptions)
      (hallowed : validateSubscriptionStateTransition none subscription.state = none)
      (hsubscription : transition.subscriptionId = subscription.id)
      (hrevision : transition.transitionRevision = 1)
      (hfrom : transition.fromState = none) (hto : transition.toState = subscription.state) :
      Moved db { db with
        subscriptions := db.subscriptions ++ [subscription]
        transitions := db.transitions ++ [transition] }

/-- Any number of moves. -/
abbrev Moves : Database → Database → Prop := Relation.ReflTransGen Moved

variable {db : Database}

@[simp] theorem moves_rfl : Moves db db := .refl

theorem moves_other {db' : Database} (hsubscriptions : db'.subscriptions = db.subscriptions)
    (htransitions : db'.transitions = db.transitions) : Moves db db' :=
  .single (.other hsubscriptions htransitions)

theorem keeps_moves_of_commits {α : Type} {x : Tx Database α} (h : ∀ db, Commits x db fun _ db' =>
      db'.subscriptions = db.subscriptions ∧ db'.transitions = db.transitions) : Keeps Moves x :=
  fun db => (h db).mono fun _ _ hsame => moves_other hsame.1 hsame.2

/-! The lifecycle. -/

variable {row value : SubscriptionSnapshot} {toState : SubscriptionState}

theorem decide_allowed {now : Date} {reason : SubscriptionLifecycleReason} {dueAt : Date}
    (h : db.decide row now = .TRANSITION toState reason dueAt) :
    validateSubscriptionStateTransition (some row.state) toState = none := by
  unfold Database.decide at h
  exact transition_allowed h

theorem moves_transitioned (hrow : row ∈ db.subscriptions)
    (hallowed : validateSubscriptionStateTransition (some row.state) toState = none)
    (transitionId : String) (updatedAt : Date) :
    Moves db (db.transitioned transitionId row toState updatedAt) :=
  .single (.transitioned row _ toState (db.lifecycleTransition transitionId row toState) hrow
    hallowed (fun _ => ⟨rfl, rfl, rfl, rfl⟩) rfl rfl rfl rfl)

theorem lifecycle_moves (run : LifecycleRun) : Keeps Moves run.transaction := by
  intro db
  refine (run.commits db).mono ?_
  rintro _ db' (rfl | ⟨transitionId, updatedAt, row, hrow, -, toState, reason, dueAt, hdecide, rfl,
    -⟩)
  · exact refl db'
  · exact moves_transitioned hrow (decide_allowed hdecide) transitionId updatedAt

theorem materialize_moves (transitionId accountId : String) (now : Date) :
    Keeps Moves (materializeDueCurrentSubscriptionLocked transitionId accountId now) := by
  intro db result db' hcommit
  have hinline : (LifecycleRun.inline transitionId accountId now).transaction db = .ok ((), db') := by
    rw [LifecycleRun.transaction, ok_bind hcommit]
    rfl
  exact lifecycle_moves _ db () db' hinline

variable (hashing : Hashing) (id : String) (draws : Draws) (claim : BillingReconciliationClaim)
  (eventId : String) (status : BillingPaymentStatus)

theorem materializeActivated_moves (accountId : String) :
    Keeps Moves (materializeActivated draws accountId) := by
  refine keeps_bind (materialize_moves _ _ _) fun lifecycle => ?_
  cases lifecycle with
  | CORRUPTED id => exact keeps_throw _
  | NONE => exact keeps_pure _
  | CURRENT id state => exact keeps_pure _

/-! The commands on subscriptions. -/

/-- The two statements of a command that moves a subscription to another state. -/
theorem mutateRow_moves {set : SubscriptionSnapshot → SubscriptionSnapshot}
    (hfind : db.subscriptions.find? (·.id = row.id) = some row)
    (hallowed : some row.state ≠ some toState →
      validateSubscriptionStateTransition (some row.state) toState = none)
    (hset : ∀ row, (set row).id = row.id ∧ (set row).accountId = row.accountId ∧
      (set row).state = toState ∧ (set row).stateRevision = row.stateRevision + 1)
    (transitionId : String) :
    Commits (mutateRow row.id set) db fun next db₁ => next = set row ∧
      Commits (insertTransition transitionId next.id (some row.state) toState) db₁ fun _ db' =>
        Moves db db' ∧ set row ∈ db'.subscriptions := by
  unfold mutateRow
  rw [commits_bind]
  refine (updateSubscription_commits db row.id set).mono ?_
  rintro _ _ (⟨rfl, rfl⟩ | ⟨found, hfound, rfl, -, -, rfl⟩)
  · exact commits_throw
  · rw [hfind, Option.some.injEq] at hfound
    subst hfound
    simp only [commits_pure, insertTransition, commits_bind, commits_get, true_and]
    refine (insertSubscriptionTransition_commits _ _).mono ?_
    rintro _ _ ⟨-, -, hguard, rfl⟩
    have hrow := List.mem_of_find?_eq_some hfind
    -- the check of `subscription_transitions` refuses a move to the same state
    have hmove := hallowed hguard.2.2.1
    refine ⟨.single (.transitioned row set toState _ hrow hmove hset (hset row).1 ?_ rfl rfl), ?_⟩
    · rw [(hset row).1]
      rfl
    · exact mem_updateWhere.mpr (.inr ⟨row, hrow, by simp, rfl⟩)

theorem insertCreated_moves {subscription : SubscriptionSnapshot} {transition : SubscriptionTransition}
    (hallowed : validateSubscriptionStateTransition none subscription.state = none)
    (hsubscription : transition.subscriptionId = subscription.id)
    (hfrom : transition.fromState = none) (hto : transition.toState = subscription.state) :
    Commits (insertSubscription subscription) db fun _ db₁ =>
      Commits (insertSubscriptionTransition transition) db₁ fun _ db' => Moves db db' := by
  refine (insertSubscription_commits db subscription).mono ?_
  rintro _ _ ⟨hid, -, rfl⟩
  refine (insertSubscriptionTransition_commits _ _).mono ?_
  rintro _ _ ⟨-, -, hguard, rfl⟩
  have hrevision := hguard.2.1.mpr hfrom
  exact .single (.created subscription transition hid hallowed hsubscription hrevision hfrom hto)

theorem grantSubscription_moves (accountId planRevisionId : String) (currentPeriodEnd : Date) :
    Keeps Moves (grantSubscription draws accountId planRevisionId currentPeriodEnd) := by
  refine keeps_ite (fun _ => keeps_pure _) fun _ => keeps_bind keeps_get fun db => ?_
  refine keeps_ite (fun _ => keeps_pure _) fun _ => keeps_ite (fun _ => keeps_pure _) fun _ => ?_
  refine keeps_bind (materialize_moves _ _ _) fun current => ?_
  cases current with
  | CORRUPTED id => exact keeps_pure _
  | CURRENT id state => exact keeps_pure _
  | NONE =>
    refine keeps_ite (fun _ => keeps_pure _) fun _ db₁ => ?_
    simp only [commits_bind, insertTransition, commits_get, commits_pure]
    refine (insertSubscription_commits db₁ _).mono ?_
    rintro _ _ ⟨hid, -, rfl⟩
    refine (insertSubscriptionTransition_commits _ _).mono ?_
    rintro _ _ ⟨-, -, hguard, rfl⟩
    exact .single (.created _ _ hid rfl rfl (hguard.2.1.mpr rfl) rfl rfl)

theorem extendRow_moves (value : SubscriptionSnapshot) (newEnd : Date) :
    Keeps Moves (extendRow draws value newEnd) := by
  refine keeps_ite (fun _ => keeps_pure _) fun _ => keeps_ite (fun _ => keeps_pure _) fun _ => ?_
  refine keeps_ite (fun _ => keeps_pure _) fun _ => keeps_bind (keeps_bind ?_ fun updated => ?_)
    fun _ => keeps_pure _
  · intro db
    refine (updateSubscription_commits db value.id _).mono ?_
    rintro _ db' (⟨-, rfl⟩ | ⟨row, -, -, -, -, rfl⟩)
    · exact refl db'
    · exact .single (.extended value.id _ fun _ => ⟨rfl, rfl, rfl, rfl⟩)
  · cases updated with
    | none => exact keeps_throw _
    | some next => exact keeps_pure _

theorem suspendRow_moves (hfind : db.subscriptions.find? (·.id = value.id) = some value) :
    Commits (suspendRow draws value) db fun _ db' => Moves db db' := by
  unfold suspendRow
  split
  · exact keeps_pure _ db
  split
  · exact keeps_pure _ db
  · next hallowed =>
    rw [not_or, Option.not_isSome_iff_eq_none] at hallowed
    rw [commits_bind]
    refine Commits.mono (mutateRow_moves hfind (fun _ => hallowed.2) ?_ (draws.uuid 1)) ?_
    · exact fun _ => ⟨rfl, rfl, rfl, rfl⟩
    · rintro next db₁ ⟨-, hinsert⟩
      rw [commits_bind]
      exact hinsert.mono fun _ _ h => commits_pure.mpr h.1

/-- An origin that may be restored is a state that a suspension may go back to. -/
theorem restore_allowed {origin : SubscriptionState} {now : Date}
    (hstate : value.state = .SUSPENDED) (h : restoreFailure value origin now = none)
    (hmove : some value.state ≠ some origin) :
    validateSubscriptionStateTransition (some value.state) origin = none := by
  rw [hstate] at hmove ⊢
  cases origin with
  | EXPIRED => simp [restoreFailure] at h
  | SUSPENDED => exact absurd rfl hmove
  | TRIAL => rfl
  | ACTIVE => rfl
  | GRACE => rfl
  | PAST_DUE => rfl
  | CANCELED => rfl

/-- What a restore that went through found: the last move of the history is a suspension, and the
subscription is back in the state it came from. -/
def RestoredFrom (db db' : Database) (id : String) (restored : SubscriptionSnapshot) : Prop :=
  restored ∈ db'.subscriptions ∧ restored.id = id ∧
    ∃ last, (db.transitions.filter (·.subscriptionId = id)).argmax
        SubscriptionTransition.transitionRevision = some last ∧
      last.toState = .SUSPENDED ∧ last.fromState = some restored.state

theorem restoreRow_moves (hfind : db.subscriptions.find? (·.id = value.id) = some value) :
    Commits (restoreRow draws value) db fun result db' => Moves db db' ∧
      ∀ changed restored, result = .OK changed restored →
        RestoredFrom db db' value.id restored := by
  unfold restoreRow
  split
  · simp
  next hstate =>
  rw [ne_eq, not_not] at hstate
  rw [commits_bind, commits_get]
  simp only []
  split
  · simp
  next origin horigin =>
  split
  · simp
  next hrestore =>
  rw [commits_bind]
  refine Commits.mono (mutateRow_moves hfind (restore_allowed hstate hrestore) ?_ (draws.uuid 1)) ?_
  · exact fun _ => ⟨rfl, rfl, rfl, rfl⟩
  · rintro next db₁ ⟨rfl, hinsert⟩
    rw [commits_bind]
    rw [hstate] at hinsert
    refine hinsert.mono ?_
    rintro _ db' ⟨hmoves, hmem⟩
    rw [commits_pure]
    refine ⟨hmoves, ?_⟩
    rintro _ _ ⟨⟩
    obtain ⟨last, hlast, hfrom⟩ := Option.bind_eq_some_iff.mp horigin
    obtain ⟨hlast, hto⟩ := Option.filter_eq_some_iff.mp hlast
    exact ⟨hmem, rfl, last, hlast, by simpa using hto, hfrom⟩

/-- A command, and what a restore found. -/
theorem mutate_moves (subscriptionId : String) (operation : SubscriptionMutation)
    (expectedStateRevision : Nat) (db : Database) :
    Commits (mutate draws subscriptionId operation expectedStateRevision) db fun result db' =>
      Moves db db' ∧ (operation = .RESTORE → ∀ changed restored, result = .OK changed restored →
        RestoredFrom db db' subscriptionId restored) := by
  unfold mutate
  rw [commits_bind, commits_get]
  split
  · simp
  next owned _ =>
  rw [commits_bind]
  have hmaterialize : Commits (operation.materialize draws owned.accountId) db fun _ db₁ =>
      Moves db db₁ ∧ (operation = .RESTORE → db₁ = db) := by
    cases operation with
    | EXTEND newEnd => exact (materialize_moves _ _ _ db).mono fun _ _ h => ⟨h, nofun⟩
    | SUSPEND => simp [SubscriptionMutation.materialize]
    | RESTORE => simp [SubscriptionMutation.materialize]
  refine hmaterialize.mono fun materialized db₁ ⟨hmoves, hsame⟩ => ?_
  split
  · simp [hmoves]
  rw [commits_bind, commits_get]
  split
  · simp [hmoves]
  next value hvalue =>
  split
  · simp [hmoves]
  have hid : value.id = subscriptionId := by simpa using List.find?_some hvalue
  rw [← hid] at hvalue ⊢
  cases operation with
  | EXTEND newEnd =>
    exact (extendRow_moves draws value newEnd db₁).mono fun _ _ h => ⟨hmoves.trans h, nofun⟩
  | SUSPEND => exact (suspendRow_moves draws hvalue).mono fun _ _ h => ⟨hmoves.trans h, nofun⟩
  | RESTORE =>
    rw [hsame rfl] at hvalue ⊢
    exact (restoreRow_moves draws hvalue).mono fun _ _ h => ⟨h.1, fun _ => h.2⟩

/-! The writes of the other tables. -/

theorem insertBillingEvent_moves (row : BillingEvent) : Keeps Moves (insertBillingEvent row) := by
  refine keeps_moves_of_commits fun db => (insertBillingEvent_commits db row).mono ?_
  rintro _ _ (⟨-, -, rfl⟩ | ⟨-, -, -, rfl⟩) <;> exact ⟨rfl, rfl⟩

theorem updateBillingEvent_moves (set : BillingEvent → BillingEvent) :
    Keeps Moves (updateBillingEvent id set) := by
  refine keeps_moves_of_commits fun db => (updateBillingEvent_commits db id set).mono ?_
  rintro _ _ (⟨-, rfl⟩ | ⟨_, -, -, -, rfl⟩) <;> exact ⟨rfl, rfl⟩

theorem insertPayment_moves (row : Payment) : Keeps Moves (insertPayment row) := by
  refine keeps_moves_of_commits fun db => (insertPayment_commits db row).mono ?_
  rintro _ _ ⟨-, -, rfl⟩
  exact ⟨rfl, rfl⟩

theorem updatePayment_moves (set : Payment → Payment) :
    Keeps Moves (updatePayment id set) := by
  refine keeps_moves_of_commits fun db => (updatePayment_commits db id set).mono ?_
  rintro _ _ (⟨-, -, rfl⟩ | ⟨_, -, -, -, rfl⟩) <;> exact ⟨rfl, rfl⟩

theorem insertCheckoutIntent_moves (row : CheckoutIntent) :
    Keeps Moves (insertCheckoutIntent row) := by
  refine keeps_moves_of_commits fun db => (insertCheckoutIntent_commits db row).mono ?_
  rintro _ _ ⟨-, -, rfl⟩
  exact ⟨rfl, rfl⟩

theorem updateCheckoutIntent_moves (set : CheckoutIntent → CheckoutIntent) :
    Keeps Moves (updateCheckoutIntent id set) := by
  refine keeps_moves_of_commits fun db => (updateCheckoutIntent_commits db id set).mono ?_
  rintro _ _ (⟨-, rfl⟩ | ⟨_, -, -, -, -, rfl⟩) <;> exact ⟨rfl, rfl⟩

theorem insertReconciliationJob_moves (row : BillingReconciliationJob) :
    Keeps Moves (insertReconciliationJob row) := by
  refine keeps_moves_of_commits fun db => (insertReconciliationJob_commits db row).mono ?_
  rintro _ _ ⟨-, rfl⟩
  exact ⟨rfl, rfl⟩

theorem updateReconciliationJobs_moves (where' : BillingReconciliationJob → Bool)
    (set : BillingReconciliationJob → BillingReconciliationJob) :
    Keeps Moves (updateReconciliationJobs where' set) := by
  refine keeps_moves_of_commits fun db => (updateReconciliationJobs_commits db where' set).mono ?_
  rintro _ _ ⟨-, rfl⟩
  exact ⟨rfl, rfl⟩

/-! The billing events. -/

theorem terminalize_moves (state : ProcessingState) (processedAt : Date) (refs : EventRefs) :
    Keeps Moves (terminalize draws eventId state processedAt refs) := by
  refine keeps_bind (updateBillingEvent_moves _ _) fun updated => ?_
  cases updated with
  | none => exact keeps_throw _
  | some row =>
    cases refs.paymentId with
    | none => exact keeps_pure row
    | some paymentId =>
      exact keeps_bind (updateReconciliationJobs_moves _ _) fun _ => keeps_pure row

theorem terminalize_result_moves (state : ProcessingState) (processedAt : Date) (refs : EventRefs) :
    Keeps Moves (do
      let ended ← terminalize draws eventId state processedAt refs
      return resultFromTerminal ended false) :=
  keeps_bind (terminalize_moves draws eventId state processedAt refs) fun _ => keeps_pure _

theorem failEvent_moves (processedAt : Date) (payment : Payment) (code : BillingEventFailureCode) :
    Keeps Moves (failEvent draws eventId processedAt payment code) :=
  terminalize_result_moves draws eventId .FAILED processedAt _

theorem insertActivated_moves (subscription : SubscriptionSnapshot) (transitionId : String)
    (hstate : subscription.state = .ACTIVE) :
    Keeps Moves (insertActivated subscription transitionId) := by
  intro db
  unfold insertActivated
  rw [commits_bind]
  exact insertCreated_moves (by rw [hstate]; rfl) rfl rfl hstate.symm

theorem linkPayment_moves (subscriptionId : String) (updatedAt : Date) :
    Keeps Moves (linkPayment id subscriptionId updatedAt) := by
  refine keeps_bind keeps_get fun db => keeps_ite (fun _ => ?_) fun _ => keeps_pure _
  exact keeps_bind (updatePayment_moves _ _) fun _ => keeps_pure _

theorem activateFromEvent_moves (event : VerifiedBillingEvent) (payment : Payment)
    (checkout : CheckoutIntent) :
    Keeps Moves (activateFromEvent draws eventId event payment checkout) := by
  unfold activateFromEvent
  simp only []
  split
  · exact keeps_throw _
  · refine keeps_bind (insertActivated_moves _ _ rfl) fun _ => ?_
    refine keeps_bind (linkPayment_moves _ _ _) fun _ => ?_
    refine keeps_bind (materializeActivated_moves draws _) fun _ => ?_
    exact terminalize_result_moves draws eventId _ _ _

theorem applyToTerminalPayment_moves (desiredState : PaymentState) (payment : Payment) :
    Keeps Moves (applyToTerminalPayment draws eventId desiredState payment) := by
  unfold applyToTerminalPayment
  simp only []
  split
  · exact terminalize_result_moves draws eventId _ _ _
  split
  · split
    · exact failEvent_moves draws eventId _ payment _
    · refine keeps_bind keeps_get fun db => keeps_ite (fun _ => ?_) fun _ => failEvent_moves _ _ _ _ _
      exact terminalize_result_moves draws eventId _ _ _
  · exact failEvent_moves draws eventId _ payment _

theorem applySuccess_moves (event : VerifiedBillingEvent) (payment : Payment) :
    Keeps Moves (applySuccess draws eventId event payment) := by
  refine keeps_bind (updatePayment_moves _ _) fun _ => keeps_bind keeps_get fun db => ?_
  split
  · exact failEvent_moves draws eventId _ payment _
  · refine keeps_ite (fun _ => failEvent_moves draws eventId _ payment _) fun _ => ?_
    refine keeps_bind (materialize_moves _ _ _) fun current => ?_
    cases current with
    | CORRUPTED id => exact failEvent_moves draws eventId _ payment _
    | CURRENT id state => exact failEvent_moves draws eventId _ payment _
    | NONE => exact activateFromEvent_moves draws eventId event payment _

theorem applyToPayment_moves (event : VerifiedBillingEvent) (payment : Payment) :
    Keeps Moves (applyToPayment draws eventId event payment) := by
  refine keeps_ite (fun _ => applyToTerminalPayment_moves draws eventId _ payment) fun _ => ?_
  refine keeps_ite (fun _ => ?_) fun _ => applySuccess_moves draws eventId event payment
  refine keeps_bind (updatePayment_moves _ _) fun updated => ?_
  cases updated with
  | none => exact keeps_throw _
  | some row => exact terminalize_result_moves draws eventId _ _ _

theorem applyVerifiedBillingEvent_moves (input : BillingEventInput) :
    Keeps Moves (applyVerifiedBillingEvent draws input) := by
  refine keeps_bind (insertBillingEvent_moves _) fun claimed => keeps_bind keeps_get fun db => ?_
  split
  · exact keeps_throw _
  · refine keeps_ite (fun _ => keeps_pure _) fun _ => keeps_ite (fun _ => keeps_pure _) fun _ => ?_
    refine keeps_bind keeps_get fun db => ?_
    split
    · exact terminalize_result_moves _ _ _ _ _
    · refine keeps_ite (fun _ => failEvent_moves _ _ _ _ _) fun _ => ?_
      refine keeps_ite (fun _ => failEvent_moves _ _ _ _ _) fun _ => ?_
      exact keeps_ite (fun _ => keeps_throw _) fun _ => applyToPayment_moves draws _ _ _

/-! The reconciliation. -/

theorem finishJob_moves (paymentId leaseToken : String) (state : BillingReconciliationJobState)
    (nextAttemptAt : Option Date) :
    Keeps Moves (finishJob paymentId leaseToken state nextAttemptAt) :=
  updateReconciliationJobs_moves _ _

theorem settle_moves (state : ProcessingState) (processedAt : Date) (refs : EventRefs)
    (job : BillingReconciliationJobState) (nextAttemptAt : Option Date) :
    Keeps Moves (settle claim eventId state processedAt refs job nextAttemptAt) := by
  refine keeps_bind (updateBillingEvent_moves _ _) fun updated => ?_
  cases updated with
  | none => exact keeps_throw _
  | some row => exact keeps_bind (finishJob_moves _ _ job nextAttemptAt) fun _ => keeps_pure _

theorem activateFromStatus_moves (eventId : String) (checkout : CheckoutIntent) :
    Keeps Moves (activateFromStatus draws claim status eventId checkout) := by
  unfold activateFromStatus
  simp only []
  split
  · exact keeps_throw _
  · refine keeps_bind (insertActivated_moves _ _ rfl) fun _ => ?_
    refine keeps_bind (updatePayment_moves _ _) fun _ => ?_
    exact keeps_bind (materializeActivated_moves draws _) fun _ => settle_moves _ _ _ _ _ _ _

theorem applySucceededStatus_moves (eventId : String) (payment : Payment) :
    Keeps Moves (applySucceededStatus draws claim status eventId payment) := by
  refine keeps_bind keeps_get fun db => ?_
  split
  · exact settle_moves _ _ _ _ _ _ _
  refine keeps_ite (fun _ => settle_moves _ _ _ _ _ _ _) fun _ => ?_
  split
  · exact keeps_ite (fun _ => settle_moves _ _ _ _ _ _ _) fun _ => settle_moves _ _ _ _ _ _ _
  · refine keeps_bind (materialize_moves _ _ _) fun current => ?_
    cases current with
    | CORRUPTED id => exact settle_moves _ _ _ _ _ _ _
    | CURRENT id state => exact settle_moves _ _ _ _ _ _ _
    | NONE => exact activateFromStatus_moves draws claim status eventId _

theorem applyStatusToPayment_moves (eventId : String) (payment : Payment) :
    Keeps Moves (applyStatusToPayment draws claim status eventId payment) := by
  refine keeps_ite (fun _ => settle_moves _ _ _ _ _ _ _) fun _ => ?_
  refine keeps_ite (fun _ => settle_moves _ _ _ _ _ _ _) fun _ => ?_
  refine keeps_ite (fun _ => ?_) fun _ => applySucceededStatus_moves draws claim status eventId payment
  exact keeps_bind (updatePayment_moves _ _) fun _ => settle_moves _ _ _ _ _ _ _

theorem applyStatus_moves (processedAt : Date) :
    Keeps Moves (applyStatus hashing draws claim status processedAt) := by
  refine keeps_bind keeps_get fun db => keeps_ite (fun _ => keeps_pure _) fun _ => ?_
  refine keeps_ite (fun _ => keeps_bind (finishJob_moves _ _ _ _) fun _ => keeps_pure _) fun _ => ?_
  refine keeps_bind (insertBillingEvent_moves _) fun _ => keeps_bind keeps_get fun db => ?_
  split
  · exact keeps_throw _
  refine keeps_ite (fun _ => keeps_bind (finishJob_moves _ _ _ _) fun _ => keeps_pure _) fun _ => ?_
  refine keeps_ite (fun _ => settle_moves _ _ _ _ _ _ _) fun _ => ?_
  refine keeps_ite (fun _ => settle_moves _ _ _ _ _ _ _) fun _ => ?_
  refine keeps_ite (fun _ => keeps_throw _) fun _ => ?_
  split
  · exact keeps_throw _
  · exact applyStatusToPayment_moves draws claim status _ _

theorem claimJobs_moves (now : Date) (leaseMs next : Nat)
    (rows : List (BillingReconciliationJob × Payment)) :
    Keeps Moves (claimJobs draws now leaseMs next rows) := by
  induction rows generalizing next with
  | nil => exact keeps_pure _
  | cons row rest ih =>
    refine keeps_bind (updateReconciliationJobs_moves _ _) fun updated => ?_
    exact keeps_bind (ih (next + 1)) fun claims => keeps_pure _

theorem claimDue_moves (now : Date) (leaseMs batchSize : Nat) (locked : List String) :
    Keeps Moves (claimDue draws now leaseMs batchSize locked) := by
  refine keeps_ite (fun _ => keeps_throw _) fun _ => keeps_bind keeps_get fun db => ?_
  exact claimJobs_moves draws now leaseMs 0 _

/-! The checkout. -/

theorem terminalFailure_moves (intent : CheckoutIntentSnapshot) (code : CheckoutFailureCode)
    (completedAt : Date) :
    Keeps Moves (terminalFailure draws intent code completedAt) := by
  refine keeps_ite (fun _ => keeps_pure _) fun _ => ?_
  refine keeps_bind (updateCheckoutIntent_moves _ _) fun updated => ?_
  cases updated with
  | none => exact keeps_throw _
  | some next => exact keeps_pure _

theorem prepareMaterialized_moves (input : CheckoutPrepareInput) :
    Keeps Moves (prepareMaterialized draws input) := by
  refine keeps_bind keeps_get fun db => ?_
  simp only []
  split
  · exact prepareExisting_keeps (terminalFailure_moves draws) _ _
  split
  · exact keeps_pure _
  split
  · exact keeps_pure _
  · exact keeps_bind (insertCheckoutIntent_moves _) fun _ => keeps_pure _

theorem finalizeReady_moves (locked : CheckoutIntentSnapshot)
    (providerCheckoutId providerPaymentId checkoutReference : String) :
    Keeps Moves
      (finalizeReady draws locked providerCheckoutId providerPaymentId checkoutReference) := by
  refine keeps_bind (insertPayment_moves _) fun _ => ?_
  refine keeps_bind (insertReconciliationJob_moves _) fun _ => ?_
  refine keeps_bind (updateCheckoutIntent_moves _ _) fun updated => ?_
  cases updated with
  | none => exact keeps_throw _
  | some next => exact keeps_pure _

theorem finalizeCheckout_moves (intentId provider : String) (result : ProviderCheckoutResult) :
    Keeps Moves (finalizeCheckout draws intentId provider result) := by
  refine keeps_bind keeps_get fun db => ?_
  split
  · exact keeps_pure _
  simp only []
  split
  · exact keeps_pure _
  refine keeps_ite (fun _ => keeps_pure _) fun _ => keeps_ite (fun _ => keeps_pure _) fun _ => ?_
  split
  · refine keeps_ite (fun _ => terminalFailure_moves draws _ _ _) fun _ => ?_
    refine keeps_bind (materialize_moves _ _ _) fun materialized => ?_
    cases materialized with
    | CORRUPTED id => exact terminalFailure_moves draws _ _ _
    | CURRENT id state => exact terminalFailure_moves draws _ _ _
    | NONE => exact finalizeReady_moves draws _ _ _ _
  · exact terminalFailure_moves draws _ _ _

/-! The steps of a run. -/

theorem step_moves (step : Step) : Keeps Moves (step.transaction hashing) := by
  cases step with
  | applyVerifiedBillingEvent draws input =>
    exact keeps_bind (applyVerifiedBillingEvent_moves draws input) fun _ => keeps_pure _
  | claimDue draws now leaseMs batchSize locked =>
    exact claimDue_moves draws now leaseMs batchSize locked
  | applyStatus draws claim status processedAt =>
    exact keeps_bind (applyStatus_moves hashing draws claim status processedAt) fun _ => keeps_pure _
  | reschedule paymentId leaseToken nextAttemptAt code =>
    exact keeps_bind (keeps_bind (finishJob_moves _ _ _ _) fun _ => keeps_pure _) fun _ => keeps_pure _
  | blockUnsupported claim code =>
    exact keeps_bind (keeps_bind (finishJob_moves _ _ _ _) fun _ => keeps_pure _) fun _ => keeps_pure _
  | prepareCheckout draws input =>
    have hprepare := prepareMaterialized_moves draws input
    exact keeps_bind (prepareCheckout_keeps materialize_moves hprepare) fun _ => keeps_pure _
  | finalizeCheckout draws intentId provider result =>
    exact keeps_bind (finalizeCheckout_moves draws intentId provider result) fun _ => keeps_pure _
  | failCheckout draws intentId provider code =>
    have hfail := failCheckout_keeps (terminalFailure_moves draws) intentId provider code
    exact keeps_bind hfail fun _ => keeps_pure _
  | lifecycle run => exact keeps_bind (lifecycle_moves run) fun _ => keeps_pure _
  | grantSubscription draws accountId planRevisionId currentPeriodEnd =>
    exact keeps_bind (grantSubscription_moves draws accountId planRevisionId currentPeriodEnd)
      fun _ => keeps_pure _
  | mutate draws subscriptionId operation expectedStateRevision =>
    refine keeps_bind (fun db => ?_) fun _ => keeps_pure _
    exact (mutate_moves draws subscriptionId operation expectedStateRevision db).mono
      fun _ _ h => h.1
  | authority accounts owners plans prices =>
    refine keeps_moves_of_commits fun db => ?_
    simp only [Step.transaction, commits_bind, commits_modify, commits_pure, and_self]

theorem runFrom_moves (world : World) (steps : List Step) :
    Moves world.db (runFrom hashing world steps).db :=
  runFrom_keeps (step_moves hashing) world steps

end SellerAgents.Billing
