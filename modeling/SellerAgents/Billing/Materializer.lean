import Mathlib.Data.List.MinMax
import SellerAgents.Billing.Tables

open Relational SellerAgents.Subscriptions

namespace SellerAgents.Billing

/-- The current subscription once its due transition is written. -/
inductive CurrentSubscriptionMaterialization where
  | NONE
  | CURRENT (subscriptionId : String) (state : SubscriptionState)
  | CORRUPTED (subscriptionId : String)
deriving DecidableEq

/-- The current subscription of an account: `state <> 'EXPIRED' LIMIT 1`. -/
def Database.current (db : Database) (accountId : String) : Option SubscriptionSnapshot :=
  db.subscriptions.find? fun row => row.accountId = accountId ∧ row.state ≠ .EXPIRED

/-- The origin of the last suspension in the history of a subscription. -/
def Database.suspendedOrigin (db : Database) (subscriptionId : String) : Option SubscriptionState :=
  ((db.transitions.filter fun row =>
      row.subscriptionId = subscriptionId ∧ row.toState = .SUSPENDED).argmax
    SubscriptionTransition.transitionRevision).bind SubscriptionTransition.fromState

/-- The decision about one row; the history is only read for a suspended one. -/
def Database.decide (db : Database) (row : SubscriptionSnapshot) (now : Date) :
    SubscriptionLifecycleDecision :=
  decideSubscriptionLifecycle
    { state := row.state
      cancelAtPeriodEnd := row.cancelAtPeriodEnd
      currentPeriodEnd := row.currentPeriodEnd
      graceUntil := row.graceUntil
      suspendedOrigin := if row.state = .SUSPENDED then db.suspendedOrigin row.id else none
      now := now }

/-- The current subscription of an account and what is due of it. -/
def classify (db : Database) (accountId : String) (now : Date) :
    Option (SubscriptionSnapshot × SubscriptionLifecycleDecision) :=
  (db.current accountId).map fun row => (row, db.decide row now)

/-- Whether an account has a subscription that is not due to expire. -/
def hasCurrentSubscriptionAt (db : Database) (accountId : String) (now : Date) : Bool :=
  match classify db accountId now with
  | none => false
  | some (_, .TRANSITION .EXPIRED _ _) => false
  | some _ => true

/-- `COALESCE(MAX(transition_revision),0)+1`. -/
def Database.nextTransitionRevision (db : Database) (subscriptionId : String) : Nat :=
  ((db.transitions.filter (·.subscriptionId = subscriptionId)).map
    SubscriptionTransition.transitionRevision).foldr max 0 + 1

/-- The writes of a due transition, the same for the worker and the inline call; the worker's
`updated_at` leaves out the old value. -/
def applyLifecycleTransition (transitionId : String) (row : SubscriptionSnapshot)
    (toState : SubscriptionState) (updatedAt : Date) : Tx Database Unit := do
  let updated ← updateSubscription row.id fun old =>
    { old with state := toState, stateRevision := old.stateRevision + 1, updatedAt := updatedAt }
  if updated.isNone then throw "SUBSCRIPTION_CORRUPTED"
  let db ← get
  insertSubscriptionTransition
    { id := transitionId
      subscriptionId := row.id
      transitionRevision := db.nextTransitionRevision row.id
      fromState := some row.state
      toState := toState }

def materializeDueCurrentSubscriptionLocked (transitionId : String) (accountId : String)
    (now : Date) : Tx Database CurrentSubscriptionMaterialization := do
  let db ← get
  match classify db accountId now with
  | none => return .NONE
  | some (row, .CORRUPTED) => return .CORRUPTED row.id
  | some (row, .NOOP) => return .CURRENT row.id row.state
  | some (row, .TRANSITION toState _ _) =>
    applyLifecycleTransition transitionId row toState (max row.updatedAt (max now row.createdAt))
    return if toState = .EXPIRED then .NONE else .CURRENT row.id toState

/-- One candidate of the lifecycle worker's `processDue`. -/
def processCandidate (transitionId : String) (subscriptionId : String) (now : Date) :
    Tx Database Unit := do
  let db ← get
  match db.subscriptions.find? (·.id = subscriptionId) with
  | none => return ()
  | some row =>
    if row.state = .EXPIRED then return ()
    match db.decide row now with
    | .TRANSITION toState _ _ =>
      applyLifecycleTransition transitionId row toState (max now row.createdAt)
    | _ => return ()

end SellerAgents.Billing
