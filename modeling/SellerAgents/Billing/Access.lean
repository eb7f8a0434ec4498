import SellerAgents.Subscriptions.Access
import SellerAgents.Billing.Materializer

open Relational SellerAgents.Subscriptions

namespace SellerAgents.Billing

/-! What the writes of the subscription tables leave behind. -/

theorem updateSubscription_commits (db : Database) (id : String)
    (set : SubscriptionSnapshot → SubscriptionSnapshot) :
    Commits (updateSubscription id set) db fun updated db' =>
      (updated = none ∧ db' = db) ∨
        ∃ row, db.subscriptions.find? (·.id = id) = some row ∧ updated = some (set row) ∧
          SubscriptionGuard db (set row) ∧
          UniqueBy currentKey (updateWhere (·.id = id) set db.subscriptions) ∧
          db' = { db with subscriptions := updateWhere (·.id = id) set db.subscriptions } := by
  unfold updateSubscription
  simp only [commits_bind, commits_get]
  split
  · simp
  · next row hfind =>
    simp only [commits_bind, commits_ensure, commits_modify, commits_pure]
    intro hguard hunique
    exact .inr ⟨row, hfind, rfl, hguard, hunique, trivial⟩

theorem insertSubscriptionTransition_commits (db : Database) (row : SubscriptionTransition) :
    Commits (insertSubscriptionTransition row) db fun _ db' =>
      Fresh (fun r => some r.id) row db.transitions ∧ Fresh transitionKey row db.transitions ∧
        TransitionGuard db row ∧ db' = { db with transitions := db.transitions ++ [row] } := by
  unfold insertSubscriptionTransition
  simp only [commits_bind, commits_get, commits_ensure, commits_modify]
  exact fun hid hkey hguard => ⟨hid, hkey, hguard, trivial⟩

/-- The transition row that a lifecycle transition inserts. -/
def Database.lifecycleTransition (db : Database) (transitionId : String)
    (row : SubscriptionSnapshot) (toState : SubscriptionState) : SubscriptionTransition where
  id := transitionId
  subscriptionId := row.id
  transitionRevision := db.nextTransitionRevision row.id
  fromState := some row.state
  toState := toState

/-- The database after the writes of a lifecycle transition. -/
def Database.transitioned (db : Database) (transitionId : String) (row : SubscriptionSnapshot)
    (toState : SubscriptionState) (updatedAt : Date) : Database :=
  { db with
    subscriptions :=
      updateWhere (·.id = row.id) (fun old => old.transitioned toState updatedAt) db.subscriptions
    transitions := db.transitions ++ [db.lifecycleTransition transitionId row toState] }

theorem applyLifecycleTransition_commits (db : Database) (transitionId : String)
    (row : SubscriptionSnapshot) (toState : SubscriptionState) (updatedAt : Date) :
    Commits (applyLifecycleTransition transitionId row toState updatedAt) db fun _ db' =>
      db' = db.transitioned transitionId row toState updatedAt ∧
        UniqueBy currentKey db'.subscriptions ∧
        Fresh transitionKey (db.lifecycleTransition transitionId row toState) db.transitions := by
  unfold applyLifecycleTransition
  simp only [commits_bind]
  refine (updateSubscription_commits _ _ _).mono ?_
  rintro updated db₁ (⟨rfl, rfl⟩ | ⟨found, hfind, rfl, hguard, hunique, rfl⟩)
  · simp
  · simp only [Option.isNone_some, Bool.false_eq_true, if_false, commits_bind, commits_get]
    refine (insertSubscriptionTransition_commits _ _).mono ?_
    rintro _ _ ⟨-, hkey, -, rfl⟩
    exact ⟨rfl, hunique, hkey⟩

/-- One run of the lifecycle: inline before another operation, or one candidate of the worker. -/
inductive LifecycleRun where
  | inline (transitionId accountId : String) (now : Date)
  | job (transitionId subscriptionId : String) (now : Date)

/-- The time of a lifecycle run. -/
def LifecycleRun.now : LifecycleRun → Date
  | .inline _ _ now => now
  | .job _ _ now => now

/-- The transaction of a lifecycle run. -/
def LifecycleRun.transaction : LifecycleRun → Tx Database Unit
  | .inline transitionId accountId now => do
    let _ ← materializeDueCurrentSubscriptionLocked transitionId accountId now
  | .job transitionId subscriptionId now => processCandidate transitionId subscriptionId now

/-- What a lifecycle run can do: nothing, or the due transition of one row. -/
theorem LifecycleRun.commits (run : LifecycleRun) (db : Database) :
    Commits run.transaction db fun _ db' =>
      db' = db ∨ ∃ transitionId updatedAt, ∃ row ∈ db.subscriptions, row.state ≠ .EXPIRED ∧
        ∃ toState reason dueAt, db.decide row run.now = .TRANSITION toState reason dueAt ∧
          db' = db.transitioned transitionId row toState updatedAt ∧
          UniqueBy currentKey db'.subscriptions := by
  cases run with
  | inline transitionId accountId now =>
    simp only [transaction, materializeDueCurrentSubscriptionLocked, commits_bind, commits_get]
    split
    · simp
    · simp
    · simp
    · next row toState reason dueAt hclassify =>
      obtain ⟨found, hfound, heq⟩ := Option.map_eq_some_iff.mp hclassify
      obtain ⟨hrow, hdecide⟩ := Prod.mk.inj heq
      subst hrow
      have hmem := List.mem_of_find?_eq_some hfound
      have hstate := List.find?_some hfound
      simp only [ne_eq, decide_eq_true_eq, Bool.decide_and, Bool.and_eq_true] at hstate
      simp only [commits_bind, commits_pure]
      refine (applyLifecycleTransition_commits _ _ _ _ _).mono ?_
      rintro _ _ ⟨rfl, hunique, -⟩
      exact .inr ⟨_, _, _, hmem, by simpa using hstate.2, _, _, _, hdecide, rfl, hunique⟩
  | job transitionId subscriptionId now =>
    simp only [transaction, processCandidate, commits_bind, commits_get]
    split
    · simp
    · next row hfound =>
      have hmem := List.mem_of_find?_eq_some hfound
      by_cases hstate : row.state = .EXPIRED
      · simp [hstate]
      · simp only [hstate, if_false]
        split
        · next toState reason dueAt hdecide =>
          refine (applyLifecycleTransition_commits _ _ _ _ _).mono ?_
          rintro _ _ ⟨rfl, hunique, -⟩
          exact .inr ⟨_, _, _, hmem, hstate, _, _, _, hdecide, rfl, hunique⟩
        · simp

/-! What an account is granted. -/

/-- The account's status and the subscription its access is judged by. -/
def readSubscriptionAccessObservation (db : Database) (accountId : String) :
    Option (AccountStatus × Option SubscriptionSnapshot) :=
  (db.accounts.find? (·.id = accountId)).map fun account =>
    let rows := db.subscriptions.filter (·.accountId = accountId)
    (account.status,
      ((rows.filter (·.state ≠ .EXPIRED)).argmax SubscriptionSnapshot.updatedAt).or
        (rows.argmax SubscriptionSnapshot.updatedAt))

/-- `SubscriptionAccessResolver.resolve`; an unknown account has no result. -/
def resolveAccountAccess (db : Database) (accountId : String) (t : Date) :
    Option SubscriptionAccessResult :=
  (readSubscriptionAccessObservation db accountId).map fun observation =>
    resolveSubscriptionAccess observation.1 observation.2 t

/-- The eligible result of an account, if it has one. -/
def grantedAccess (db : Database) (accountId : String) (t : Date) :
    Option SubscriptionAccessResult :=
  (resolveAccountAccess db accountId t).filter SubscriptionAccessResult.isEligible

/-- The primary key and the unique index of `subscriptions`. -/
structure Database.Indexed (db : Database) : Prop where
  id : UniqueBy (fun row => some row.id) db.subscriptions
  current : UniqueBy currentKey db.subscriptions

variable {db : Database} {t : Date} {row : SubscriptionSnapshot}

theorem currentKey_of_ne (h : row.state ≠ .EXPIRED) :
    currentKey row = some row.accountId := by
  simp [currentKey, h]

/-- Access is what the open subscription of an active account gives. -/
theorem grantedAccess_eq_some_iff (hindexed : db.Indexed) {accountId : String}
    {result : SubscriptionAccessResult} :
    grantedAccess db accountId t = some result ↔
      ∃ account, db.accounts.find? (·.id = accountId) = some account ∧ account.status = .ACTIVE ∧
        ∃ row ∈ db.subscriptions, row.accountId = accountId ∧ row.Open t ∧
          result = row.eligible := by
  simp only [grantedAccess, resolveAccountAccess, readSubscriptionAccessObservation,
    Option.map_map, Option.filter_eq_some_iff, Option.map_eq_some_iff, Function.comp_apply]
  constructor
  · rintro ⟨⟨account, haccount, hresult⟩, heligible⟩
    refine ⟨account, haccount, ?_⟩
    generalize hchosen : Option.or _ _ = chosen at hresult
    cases chosen with
    | none =>
      rw [← hresult] at heligible
      by_cases hstatus : account.status = .SUSPENDED <;>
        simp [resolveSubscriptionAccess, hstatus, SubscriptionAccessResult.isEligible] at heligible
    | some row =>
      have hmem : row ∈ db.subscriptions ∧ row.accountId = accountId := by
        rcases Option.or_eq_some_iff.mp hchosen with h | ⟨-, h⟩
        · have := List.argmax_mem h
          simp only [List.mem_filter, decide_eq_true_eq] at this
          exact this.1
        · have := List.argmax_mem h
          simpa using this
      rw [← hresult, resolveSubscriptionAccess_isEligible_iff] at heligible
      refine ⟨heligible.1, row, hmem.1, hmem.2, heligible.2, ?_⟩
      rw [← hresult, resolveSubscriptionAccess_eq_eligible_iff]
      exact heligible
  · rintro ⟨account, haccount, hstatus, row, hrow, hid, hopen, rfl⟩
    refine ⟨⟨account, haccount, ?_⟩, rfl⟩
    have hstate := hopen.state_ne_expired
    have hcandidate : row ∈ (db.subscriptions.filter (·.accountId = accountId)).filter
        (·.state ≠ .EXPIRED) := by
      simp [List.mem_filter, hrow, hid, hstate]
    cases hbest : ((db.subscriptions.filter (·.accountId = accountId)).filter
        (·.state ≠ .EXPIRED)).argmax SubscriptionSnapshot.updatedAt with
    | none =>
      rw [List.argmax_eq_none.mp hbest] at hcandidate
      cases hcandidate
    | some best =>
      have hmem := List.argmax_mem hbest
      simp only [List.mem_filter, decide_eq_true_eq] at hmem
      have hsame : best = row := hindexed.current.eq_of_key hmem.1.1 hrow
        (currentKey_of_ne hmem.2) (by rw [currentKey_of_ne hstate, hid, hmem.1.2])
      rw [hsame, Option.some_or, resolveSubscriptionAccess_eq_eligible_iff]
      exact ⟨hstatus, hopen⟩

theorem Database.Indexed.transitioned (h : db.Indexed) {transitionId : String}
    {toState : SubscriptionState} {updatedAt : Date}
    (hunique : UniqueBy currentKey (db.transitioned transitionId row toState updatedAt).subscriptions) :
    (db.transitioned transitionId row toState updatedAt).Indexed where
  id := h.id.updateWhere fun _ _ _ => .inr rfl
  current := hunique

/-- A due transition closes nothing that is still open, and opens nothing. -/
theorem mem_transitioned_open_iff (hindexed : db.Indexed) (transitionId : String)
    (hrow : row ∈ db.subscriptions) {now : Date} {toState : SubscriptionState}
    {reason : SubscriptionLifecycleReason} {dueAt : Date}
    (hdecide : db.decide row now = .TRANSITION toState reason dueAt) (ht : now ≤ t)
    (updatedAt : Date) (other : SubscriptionSnapshot) :
    (other ∈ (db.transitioned transitionId row toState updatedAt).subscriptions ∧ other.Open t) ↔
      (other ∈ db.subscriptions ∧ other.Open t) := by
  have hdue : decideSubscriptionLifecycle (row.lifecycleInput _ now) = .TRANSITION toState reason dueAt :=
    hdecide
  simp only [Database.transitioned, mem_updateWhere, decide_eq_false_iff_not, decide_eq_true_eq]
  constructor
  · rintro ⟨⟨hmem, -⟩ | ⟨old, hold, hid, rfl⟩, hopen⟩
    · exact ⟨hmem, hopen⟩
    · have hsame : old = row := hindexed.id.eq_of_key hold hrow rfl (by rw [hid])
      rw [hsame] at hopen
      exact absurd hopen (transitioned_not_open hdue _ _)
  · rintro ⟨hmem, hopen⟩
    refine ⟨.inl ⟨hmem, fun hid => ?_⟩, hopen⟩
    have hsame : other = row := hindexed.id.eq_of_key hmem hrow rfl (by rw [hid])
    rw [hsame] at hopen
    exact transition_closed hdue ht hopen

/-- One lifecycle run keeps the indexes and what every account is granted from then on. -/
theorem LifecycleRun.commit_grantedAccess (run : LifecycleRun) (hindexed : db.Indexed) :
    (commit run.transaction db).Indexed ∧ ∀ accountId t, run.now ≤ t →
      grantedAccess (commit run.transaction db) accountId t = grantedAccess db accountId t := by
  refine commit_induct (P := fun db' => db'.Indexed ∧ ∀ accountId t, run.now ≤ t →
    grantedAccess db' accountId t = grantedAccess db accountId t) ⟨hindexed, fun _ _ _ => rfl⟩ ?_
  refine (run.commits db).mono ?_
  rintro _ db' (rfl | ⟨transitionId, updatedAt, row, hrow, -, toState, reason, dueAt, hdecide, rfl,
    hunique⟩)
  · exact ⟨hindexed, fun _ _ _ => rfl⟩
  · have hindexed' := hindexed.transitioned hunique
    refine ⟨hindexed', fun accountId t ht => ?_⟩
    apply Option.ext
    intro result
    rw [grantedAccess_eq_some_iff hindexed', grantedAccess_eq_some_iff hindexed]
    have hopen := mem_transitioned_open_iff hindexed transitionId hrow hdecide ht updatedAt
    refine exists_congr fun account => and_congr Iff.rfl (and_congr Iff.rfl ?_)
    refine exists_congr fun other => ?_
    constructor
    · rintro ⟨hmem, hid, hother, hresult⟩
      exact ⟨((hopen other).mp ⟨hmem, hother⟩).1, hid, hother, hresult⟩
    · rintro ⟨hmem, hid, hother, hresult⟩
      exact ⟨((hopen other).mpr ⟨hmem, hother⟩).1, hid, hother, hresult⟩

/-- Any number of lifecycle runs. -/
def runLifecycle (runs : List LifecycleRun) (db : Database) : Database :=
  runs.foldl (fun db run => commit run.transaction db) db

theorem runLifecycle_grantedAccess {runs : List LifecycleRun} (hindexed : db.Indexed)
    {accountId : String} (ht : ∀ run ∈ runs, run.now ≤ t) :
    grantedAccess (runLifecycle runs db) accountId t = grantedAccess db accountId t := by
  induction runs generalizing db with
  | nil => rfl
  | cons run runs ih =>
    obtain ⟨hindexed', haccess⟩ := run.commit_grantedAccess hindexed
    calc grantedAccess (runLifecycle runs (commit run.transaction db)) accountId t
        = grantedAccess (commit run.transaction db) accountId t :=
          ih hindexed' fun run' hrun' => ht run' (List.mem_cons_of_mem _ hrun')
      _ = grantedAccess db accountId t := haccess accountId t (ht run List.mem_cons_self)

/-- Lifecycle materialisation never changes access. A due transition comes only after access has
ended, is allowed, and leaves nothing due; an eligible subscription has nothing due; and no runs of
the lifecycle up to an instant, inline or in the worker, change what an account is granted at that
instant. -/
theorem lifecycle_keeps_access (subscription : SubscriptionSnapshot)
    (suspendedOrigin : Option SubscriptionState) (now : Date) :
    (∀ toState reason dueAt,
      decideSubscriptionLifecycle (subscription.lifecycleInput suspendedOrigin now) =
        .TRANSITION toState reason dueAt →
      validateSubscriptionStateTransition (some subscription.state) toState = none ∧
      ∀ updatedAt,
        (∀ accountStatus t, now ≤ t →
          (resolveSubscriptionAccess accountStatus (some subscription) t).isEligible = false ∧
          (resolveSubscriptionAccess accountStatus
            (some (subscription.transitioned toState updatedAt)) t).isEligible = false) ∧
        ∀ origin, decideSubscriptionLifecycle
          ((subscription.transitioned toState updatedAt).lifecycleInput origin now) = .NOOP) ∧
    (∀ accountStatus,
      (resolveSubscriptionAccess accountStatus (some subscription) now).isEligible = true →
      decideSubscriptionLifecycle (subscription.lifecycleInput suspendedOrigin now) = .NOOP) ∧
    ∀ (db : Database) (runs : List LifecycleRun) (accountId : String) (t : Date),
      db.Indexed → (∀ run ∈ runs, run.now ≤ t) →
      grantedAccess (runLifecycle runs db) accountId t = grantedAccess db accountId t := by
  refine ⟨?_, ?_, fun db runs accountId t hindexed ht => runLifecycle_grantedAccess hindexed ht⟩
  · intro toState reason dueAt h
    refine ⟨transition_allowed h, fun updatedAt => ⟨fun accountStatus t ht => ?_, fun origin =>
      transitioned_noop h updatedAt origin now⟩⟩
    have hbefore : ¬subscription.Open t := transition_closed h ht
    have hafter := transitioned_not_open h updatedAt t
    constructor
    · rw [Bool.eq_false_iff, ne_eq, resolveSubscriptionAccess_isEligible_iff]
      exact fun heligible => hbefore heligible.2
    · rw [Bool.eq_false_iff, ne_eq, resolveSubscriptionAccess_isEligible_iff]
      exact fun heligible => hafter heligible.2
  · intro accountStatus heligible
    exact Open.noop (resolveSubscriptionAccess_isEligible_iff.mp heligible).2

/-- A paid month, as a subscription of one account. -/
def sampleSubscription : SubscriptionSnapshot where
  id := "subscription"
  accountId := "account"
  state := .ACTIVE
  stateRevision := 1
  currentPlanRevisionId := "plan"
  boundPriceRevisionId := none
  startedAt := 0
  currentPeriodStart := 0
  currentPeriodEnd := 100
  graceUntil := none
  cancelAtPeriodEnd := false
  canceledAt := none
  suspendedAt := none
  createdAt := 0
  updatedAt := 0

def sampleDatabase : Database where
  accounts := [⟨"account", .ACTIVE⟩]
  owners := [⟨"account", "owner"⟩]
  plans := [⟨"plan", "plan"⟩]
  prices := []
  subscriptions := [sampleSubscription]
  transitions := [⟨"created", "subscription", 1, none, .ACTIVE⟩]
  payments := []
  events := []
  intents := []
  jobs := []

/-- The paid month ends at its period end, and not before, whether or not the lifecycle has run. -/
theorem lifecycle_keeps_access_sampleSubscription :
    (resolveSubscriptionAccess .ACTIVE (some sampleSubscription) 100).isEligible = false ∧
    decideSubscriptionLifecycle (sampleSubscription.lifecycleInput none 99) = .NOOP ∧
    grantedAccess (runLifecycle [.inline "t" "account" 50, .job "u" "subscription" 99] sampleDatabase)
      "account" 99 = some sampleSubscription.eligible :=
  ⟨(((lifecycle_keeps_access sampleSubscription none 100).1 _ _ _ rfl).2 100).1 .ACTIVE 100 le_rfl |>.1,
    (lifecycle_keeps_access sampleSubscription none 99).2.1 .ACTIVE rfl,
    ((lifecycle_keeps_access sampleSubscription none 99).2.2 sampleDatabase _ "account" 99
      ⟨by decide, by decide⟩ (by decide)).trans rfl⟩

end SellerAgents.Billing
