import SellerAgents.Billing.Access
import SellerAgents.Billing.Checkout

open Relational SellerAgents.Subscriptions

namespace SellerAgents.Billing

/-- `SubscriptionFailureCodeSchema`; the two codes of a plan revision that is not published are one
constructor. -/
inductive SubscriptionFailureCode where
  | ACCOUNT_NOT_FOUND
  | SUBSCRIPTION_NOT_FOUND
  | SUBSCRIPTION_ALREADY_EXISTS
  | SUBSCRIPTION_STATE_STALE
  | PLAN_REVISION_NOT_PUBLISHED
  | SUBSCRIPTION_PERIOD_INVALID
  | SUBSCRIPTION_PERIOD_NOT_EXTENDED
  | SUBSCRIPTION_GRACE_WINDOW_CONFLICT
  | SUBSCRIPTION_STATE_TRANSITION_INVALID
  | SUBSCRIPTION_NOT_SUSPENDED
  | SUBSCRIPTION_RESTORE_ORIGIN_NOT_FOUND
  | SUBSCRIPTION_PERIOD_ENDED
  | SUBSCRIPTION_GRACE_ENDED
  | SUBSCRIPTION_CORRUPTED

/-- The answer of an administrator's command. -/
inductive SubscriptionCommandResult where
  | OK (changed : Bool) (value : SubscriptionSnapshot)
  | REJECTED (code : SubscriptionFailureCode)

/-- The row that a grant inserts: no price is bound to it. -/
def grantedSubscription (id accountId planRevisionId : String) (now currentPeriodEnd : Date) :
    SubscriptionSnapshot where
  id := id
  accountId := accountId
  state := .ACTIVE
  stateRevision := 1
  currentPlanRevisionId := planRevisionId
  boundPriceRevisionId := none
  startedAt := now
  currentPeriodStart := now
  currentPeriodEnd := currentPeriodEnd
  graceUntil := none
  cancelAtPeriodEnd := false
  canceledAt := none
  suspendedAt := none
  createdAt := now
  updatedAt := now

/-- `insertTransition`. -/
def insertTransition (id subscriptionId : String) (fromState : Option SubscriptionState)
    (toState : SubscriptionState) : Tx Database Unit := do
  let db ← get
  insertSubscriptionTransition
    { id := id
      subscriptionId := subscriptionId
      transitionRevision := db.nextTransitionRevision subscriptionId
      fromState := fromState
      toState := toState }

/-- Grants a subscription for a period, without a purchase. -/
def grantSubscription (draws : Draws) (accountId planRevisionId : String) (currentPeriodEnd : Date) :
    Tx Database SubscriptionCommandResult := do
  if currentPeriodEnd ≤ draws.now 0 then return .REJECTED .SUBSCRIPTION_PERIOD_INVALID
  else
    let db ← get
    if !db.hasAccount accountId then return .REJECTED .ACCOUNT_NOT_FOUND
    else if currentPeriodEnd ≤ draws.now 1 then return .REJECTED .SUBSCRIPTION_PERIOD_INVALID
    else
      let current ← materializeDueCurrentSubscriptionLocked (draws.uuid 0) accountId (draws.now 1)
      match current with
      | .CORRUPTED _ => return .REJECTED .SUBSCRIPTION_CORRUPTED
      | .CURRENT _ _ => return .REJECTED .SUBSCRIPTION_ALREADY_EXISTS
      | .NONE =>
        if !db.plans.any (·.id = planRevisionId) then return .REJECTED .PLAN_REVISION_NOT_PUBLISHED
        else
          let row := grantedSubscription (draws.uuid 1) accountId planRevisionId (draws.now 1)
            currentPeriodEnd
          insertSubscription row
          insertTransition (draws.uuid 2) row.id none .ACTIVE
          return .OK true row

/-- The operations of `mutate`. -/
inductive SubscriptionMutation where
  | EXTEND (newCurrentPeriodEnd : Date)
  | SUSPEND
  | RESTORE

/-- Only an extension materializes the current subscription first. -/
def SubscriptionMutation.materialize (draws : Draws) (accountId : String) :
    SubscriptionMutation → Tx Database CurrentSubscriptionMaterialization
  | .EXTEND _ => materializeDueCurrentSubscriptionLocked (draws.uuid 0) accountId (draws.now 0)
  | _ => return .NONE

/-- An update that a command makes, with its result. -/
def mutateRow (subscriptionId : String) (set : SubscriptionSnapshot → SubscriptionSnapshot) :
    Tx Database SubscriptionSnapshot := do
  let updated ← updateSubscription subscriptionId set
  match updated with
  | none => throw "TypeError"
  | some next => return next

/-- Moves the end of the current period of a subscription. -/
def extendRow (draws : Draws) (value : SubscriptionSnapshot) (newEnd : Date) :
    Tx Database SubscriptionCommandResult := do
  if value.state = .EXPIRED then return .REJECTED .SUBSCRIPTION_PERIOD_ENDED
  else if newEnd ≤ value.currentPeriodEnd then return .REJECTED .SUBSCRIPTION_PERIOD_NOT_EXTENDED
  else if value.graceUntil.any (· ≤ newEnd) then return .REJECTED .SUBSCRIPTION_GRACE_WINDOW_CONFLICT
  else
    let next ← mutateRow value.id fun row =>
      { row with
        currentPeriodEnd := newEnd
        stateRevision := row.stateRevision + 1
        updatedAt := draws.now 0 }
    return .OK true next

/-- Suspends a subscription and keeps the state it was in. -/
def suspendRow (draws : Draws) (value : SubscriptionSnapshot) :
    Tx Database SubscriptionCommandResult := do
  if value.state = .SUSPENDED then return .OK false value
  else if value.state = .EXPIRED ∨
      (validateSubscriptionStateTransition (some value.state) .SUSPENDED).isSome then
    return .REJECTED .SUBSCRIPTION_STATE_TRANSITION_INVALID
  else
    let next ← mutateRow value.id fun row =>
      { row with
        state := .SUSPENDED
        stateRevision := row.stateRevision + 1
        suspendedAt := some (draws.now 0)
        updatedAt := draws.now 0 }
    insertTransition (draws.uuid 1) next.id (some value.state) .SUSPENDED
    return .OK true next

/-- Why the origin of a suspension is over, if it is. -/
def restoreFailure (value : SubscriptionSnapshot) (origin : SubscriptionState) (now : Date) :
    Option SubscriptionFailureCode :=
  match origin with
  | .EXPIRED => some .SUBSCRIPTION_RESTORE_ORIGIN_NOT_FOUND
  | .GRACE =>
    match value.graceUntil with
    | none => some .SUBSCRIPTION_CORRUPTED
    | some graceUntil => if now < graceUntil then none else some .SUBSCRIPTION_GRACE_ENDED
  | .TRIAL | .ACTIVE | .CANCELED =>
    if now < value.currentPeriodEnd then none else some .SUBSCRIPTION_PERIOD_ENDED
  | _ => none

/-- Restores a suspended subscription to the state of its suspension. -/
def restoreRow (draws : Draws) (value : SubscriptionSnapshot) :
    Tx Database SubscriptionCommandResult := do
  if value.state ≠ .SUSPENDED then return .REJECTED .SUBSCRIPTION_NOT_SUSPENDED
  else
    let db ← get
    let last := (db.transitions.filter (·.subscriptionId = value.id)).argmax
      SubscriptionTransition.transitionRevision
    match (last.filter (·.toState = .SUSPENDED)).bind SubscriptionTransition.fromState with
    | none => return .REJECTED .SUBSCRIPTION_RESTORE_ORIGIN_NOT_FOUND
    | some origin =>
      match restoreFailure value origin (draws.now 0) with
      | some code => return .REJECTED code
      | none =>
        let next ← mutateRow value.id fun row =>
          { row with
            state := origin
            stateRevision := row.stateRevision + 1
            suspendedAt := none
            updatedAt := draws.now 0 }
        insertTransition (draws.uuid 1) next.id (some .SUSPENDED) origin
        return .OK true next

/-- `mutate`. The account of a subscription never changes, so its earlier read is part of the
transaction here. -/
def mutate (draws : Draws) (subscriptionId : String) (operation : SubscriptionMutation)
    (expectedStateRevision : Nat) : Tx Database SubscriptionCommandResult := do
  let db ← get
  match db.subscriptions.find? (·.id = subscriptionId) with
  | none => return .REJECTED .SUBSCRIPTION_NOT_FOUND
  | some owned =>
    let materialized ← operation.materialize draws owned.accountId
    match materialized with
    | .CORRUPTED _ => return .REJECTED .SUBSCRIPTION_CORRUPTED
    | _ =>
      let db ← get
      match db.subscriptions.find? (·.id = subscriptionId) with
      | none => return .REJECTED .SUBSCRIPTION_NOT_FOUND
      | some value =>
        if value.stateRevision ≠ expectedStateRevision then
          return .REJECTED .SUBSCRIPTION_STATE_STALE
        else
          match operation with
          | .EXTEND newEnd => extendRow draws value newEnd
          | .SUSPEND => suspendRow draws value
          | .RESTORE => restoreRow draws value

end SellerAgents.Billing
