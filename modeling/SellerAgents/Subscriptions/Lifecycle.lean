import Mathlib.Algebra.Order.Group.Int
import Mathlib.Tactic.Basic

namespace SellerAgents.Subscriptions

/-- A valid `Date`, as its time value in milliseconds. -/
abbrev Date := Int

instance Date.instPreorder : Preorder Date := Int.instLinearOrder.toPreorder

/-- `SubscriptionStateSchema`. -/
inductive SubscriptionState where
  | TRIAL
  | ACTIVE
  | GRACE
  | PAST_DUE
  | CANCELED
  | EXPIRED
  | SUSPENDED
deriving DecidableEq

inductive AccountStatus where
  | ACTIVE
  | SUSPENDED
deriving DecidableEq

/-- A row of the subscription table. -/
structure SubscriptionSnapshot where
  id : String
  accountId : String
  state : SubscriptionState
  stateRevision : Nat
  currentPlanRevisionId : String
  boundPriceRevisionId : Option String
  startedAt : Date
  currentPeriodStart : Date
  currentPeriodEnd : Date
  graceUntil : Option Date
  cancelAtPeriodEnd : Bool
  canceledAt : Option Date
  suspendedAt : Option Date
  createdAt : Date
  updatedAt : Date
deriving DecidableEq

/-- The failure code that `validateSubscriptionStateTransition` returns. -/
inductive TransitionFailure where
  | SUBSCRIPTION_STATE_TRANSITION_INVALID

/-- The targets that `validateSubscriptionStateTransition` allows. -/
def allowedTargets (currentState : Option SubscriptionState) (targetState : SubscriptionState) :
    List SubscriptionState :=
  match currentState with
  | none => if targetState = .TRIAL ∨ targetState = .ACTIVE then [targetState] else []
  | some .TRIAL => [.ACTIVE, .EXPIRED, .SUSPENDED]
  | some .ACTIVE => [.GRACE, .PAST_DUE, .CANCELED, .EXPIRED, .SUSPENDED]
  | some .GRACE => [.ACTIVE, .PAST_DUE, .CANCELED, .EXPIRED, .SUSPENDED]
  | some .PAST_DUE => [.ACTIVE, .GRACE, .CANCELED, .EXPIRED, .SUSPENDED]
  | some .CANCELED => [.ACTIVE, .EXPIRED, .SUSPENDED]
  | some .SUSPENDED => [.TRIAL, .ACTIVE, .GRACE, .PAST_DUE, .CANCELED, .EXPIRED]
  | some .EXPIRED => []

def validateSubscriptionStateTransition (currentState : Option SubscriptionState)
    (targetState : SubscriptionState) : Option TransitionFailure :=
  if targetState ∈ allowedTargets currentState targetState then none
  else some .SUBSCRIPTION_STATE_TRANSITION_INVALID

inductive SubscriptionAccessReason where
  | ACCOUNT_SUSPENDED
  | NO_CURRENT_SUBSCRIPTION
  | PERIOD_ENDED
  | GRACE_ENDED
  | PAST_DUE
  | CANCELED
  | SUBSCRIPTION_SUSPENDED
  | SUBSCRIPTION_EXPIRED
  | SUBSCRIPTION_CORRUPTED
deriving DecidableEq

inductive SubscriptionAccessResult where
  | INELIGIBLE (reason : SubscriptionAccessReason)
  | ELIGIBLE (subscriptionId : String) (state : SubscriptionState) (stateRevision : Nat)
      (planRevisionId : String) (boundPriceRevisionId : Option String) (currentPeriodEnd : Date)
      (graceUntil : Option Date)
deriving DecidableEq

/-- The result an eligible subscription gets. -/
def SubscriptionSnapshot.eligible (subscription : SubscriptionSnapshot) : SubscriptionAccessResult :=
  .ELIGIBLE subscription.id subscription.state subscription.stateRevision
    subscription.currentPlanRevisionId subscription.boundPriceRevisionId
    subscription.currentPeriodEnd subscription.graceUntil

def resolveSubscriptionAccess (accountStatus : AccountStatus)
    (subscription : Option SubscriptionSnapshot) (at' : Date) : SubscriptionAccessResult :=
  if accountStatus = .SUSPENDED then .INELIGIBLE .ACCOUNT_SUSPENDED
  else
    match subscription with
    | none => .INELIGIBLE .NO_CURRENT_SUBSCRIPTION
    | some subscription =>
      match subscription.state with
      | .EXPIRED => .INELIGIBLE .SUBSCRIPTION_EXPIRED
      | .SUSPENDED => .INELIGIBLE .SUBSCRIPTION_SUSPENDED
      | .PAST_DUE => .INELIGIBLE .PAST_DUE
      | .GRACE =>
        match subscription.graceUntil with
        | none => .INELIGIBLE .SUBSCRIPTION_CORRUPTED
        | some graceUntil =>
          if at' < graceUntil then subscription.eligible else .INELIGIBLE .GRACE_ENDED
      | .CANCELED =>
        if subscription.cancelAtPeriodEnd ∧ at' < subscription.currentPeriodEnd then
          subscription.eligible
        else .INELIGIBLE .CANCELED
      | .TRIAL | .ACTIVE =>
        if at' < subscription.currentPeriodEnd then subscription.eligible
        else .INELIGIBLE .PERIOD_ENDED

def SubscriptionAccessResult.isEligible : SubscriptionAccessResult → Bool
  | .INELIGIBLE _ => false
  | .ELIGIBLE .. => true

inductive SubscriptionLifecycleReason where
  | TRIAL_PERIOD_ENDED
  | ACTIVE_PERIOD_ENDED
  | CANCEL_AT_PERIOD_END
  | CANCELED_PERIOD_ENDED
  | GRACE_WINDOW_ENDED
  | SUSPENDED_COMMERCIAL_WINDOW_ENDED

/-- What is due of a subscription. -/
inductive SubscriptionLifecycleDecision where
  | NOOP
  | CORRUPTED
  | TRANSITION (toState : SubscriptionState) (reason : SubscriptionLifecycleReason) (dueAt : Date)

/-- What `decideSubscriptionLifecycle` reads of a subscription. -/
structure LifecycleInput where
  state : SubscriptionState
  cancelAtPeriodEnd : Bool
  currentPeriodEnd : Date
  graceUntil : Option Date
  suspendedOrigin : Option SubscriptionState
  now : Date

def decideSubscriptionLifecycle (input : LifecycleInput) : SubscriptionLifecycleDecision :=
  match input.state with
  | .TRIAL =>
    if input.currentPeriodEnd ≤ input.now then
      .TRANSITION .EXPIRED .TRIAL_PERIOD_ENDED input.currentPeriodEnd
    else .NOOP
  | .ACTIVE =>
    if input.currentPeriodEnd ≤ input.now then
      .TRANSITION .EXPIRED
        (if input.cancelAtPeriodEnd then .CANCEL_AT_PERIOD_END else .ACTIVE_PERIOD_ENDED)
        input.currentPeriodEnd
    else .NOOP
  | .CANCELED =>
    if input.currentPeriodEnd ≤ input.now then
      .TRANSITION .EXPIRED .CANCELED_PERIOD_ENDED input.currentPeriodEnd
    else .NOOP
  | .GRACE =>
    match input.graceUntil with
    | none => .CORRUPTED
    | some graceUntil =>
      if graceUntil ≤ input.now then .TRANSITION .PAST_DUE .GRACE_WINDOW_ENDED graceUntil
      else .NOOP
  | .SUSPENDED =>
    match input.suspendedOrigin with
    | none => .CORRUPTED
    | some suspendedOrigin =>
      if suspendedOrigin ∈ [SubscriptionState.TRIAL, .ACTIVE, .CANCELED] ∧
          input.currentPeriodEnd ≤ input.now then
        .TRANSITION .EXPIRED .SUSPENDED_COMMERCIAL_WINDOW_ENDED input.currentPeriodEnd
      else if suspendedOrigin = .GRACE then
        match input.graceUntil with
        | none => .CORRUPTED
        | some graceUntil =>
          if graceUntil ≤ input.now then
            .TRANSITION .EXPIRED .SUSPENDED_COMMERCIAL_WINDOW_ENDED graceUntil
          else .NOOP
      else .NOOP
  | .PAST_DUE | .EXPIRED => .NOOP

end SellerAgents.Subscriptions
