import SellerAgents.Health.Incident
import SellerAgents.Relational.Table

namespace SellerAgents.Health

open Relational
open Subscriptions (Date)

/-! `notifications.ts`: what is to be notified. -/

structure LlmHealthNotificationPolicy where
  /-- `none` stands for a number that is not finite. -/
  cooldownMs : Option Int

def LLM_HEALTH_NOTIFICATION_COOLDOWN_MS : Int := 15 * 60 * 1000

def DEFAULT_LLM_HEALTH_NOTIFICATION_POLICY : LlmHealthNotificationPolicy :=
  ⟨some LLM_HEALTH_NOTIFICATION_COOLDOWN_MS⟩

inductive LlmHealthNotificationEventKind where
  | INCIDENT_OPENED | INCIDENT_ESCALATED | INCIDENT_RECOVERED | MAINTENANCE_ENTERED
  | MAINTENANCE_EXITED
deriving DecidableEq

inductive LlmHealthNotificationSeverity where
  | INFO | WARNING | CRITICAL
deriving DecidableEq

structure LlmHealthNotificationInput (Id : Type) where
  incidentId : Nat
  healthRunId : Id
  eventKind : LlmHealthNotificationEventKind
  healthState : HealthState
  provider : String
  surface : String
  healthLevel : HealthLevel
  rootContourKey : Option BaselineContourKey
  observedAt : Date

/-- The payload without its constant fields. Its evidence reference names the run. -/
structure LlmHealthNotificationPayload (Id : Type) : Type extends LlmHealthNotificationInput Id where
  severity : LlmHealthNotificationSeverity

/-- The parts of the text `llm-health:v1:<incident>:<kind><suffix>`. -/
structure NotificationDedupKey where
  incidentId : Nat
  eventKind : LlmHealthNotificationEventKind
  suffix : Option LlmHealthNotificationSeverity
deriving DecidableEq

/-- A notification about an incident, ready to be recorded. -/
structure LlmHealthNotificationEvent (Id : Type) : Type extends LlmHealthNotificationInput Id where
  severity : LlmHealthNotificationSeverity
  dedupKey : NotificationDedupKey
  cooldownUntil : Date
  payload : LlmHealthNotificationPayload Id

def severityRank : LlmHealthNotificationSeverity → Nat
  | .INFO => 0
  | .WARNING => 1
  | .CRITICAL => 2

def notificationSeverityForHealthState : HealthState → Option LlmHealthNotificationSeverity
  | .BROKEN => some .CRITICAL
  | .DRIFT => some .WARNING
  | .DEGRADED => some .WARNING
  | .HEALTHY => none
  | .UNKNOWN => none
  | .MAINTENANCE => none

def compareNotificationSeverity (left right : LlmHealthNotificationSeverity) : Int :=
  severityRank left - severityRank right

def notificationDedupKey (incidentId : Nat) (eventKind : LlmHealthNotificationEventKind)
    (severity : LlmHealthNotificationSeverity) : NotificationDedupKey where
  incidentId := incidentId
  eventKind := eventKind
  suffix := if eventKind = .INCIDENT_ESCALATED then some severity else none

def isRepeatedFailureWithinCooldown (lastObservedAt observedAt : Date)
    (lastSeverity severity : LlmHealthNotificationSeverity) (cooldownMs : Int) : Bool :=
  compareNotificationSeverity severity lastSeverity ≤ 0 && observedAt ≤ lastObservedAt + cooldownMs

inductive NotificationError where
  | LLM_HEALTH_NOTIFICATION_COOLDOWN_INVALID | NOTIFICATION_CLAIM_STALE
  | incident (error : IncidentError)

/-- The cooldown of a policy, which has to be finite and not negative. -/
def LlmHealthNotificationPolicy.cooldown (policy : LlmHealthNotificationPolicy) :
    Except NotificationError Int :=
  match policy.cooldownMs with
  | none => .error .LLM_HEALTH_NOTIFICATION_COOLDOWN_INVALID
  | some cooldownMs =>
    if cooldownMs < 0 then .error .LLM_HEALTH_NOTIFICATION_COOLDOWN_INVALID else .ok cooldownMs

variable {Id Token : Type}

def LlmHealthNotificationInput.severity? (input : LlmHealthNotificationInput Id) :
    Option LlmHealthNotificationSeverity :=
  if input.eventKind = .INCIDENT_RECOVERED || input.eventKind = .MAINTENANCE_ENTERED ||
      input.eventKind = .MAINTENANCE_EXITED then some .INFO
  else notificationSeverityForHealthState input.healthState

def deriveLlmHealthNotificationEvent (input : LlmHealthNotificationInput Id)
    (policy : LlmHealthNotificationPolicy) :
    Except NotificationError (Option (LlmHealthNotificationEvent Id)) := do
  let cooldownMs ← policy.cooldown
  return input.severity?.map fun severity =>
    { input with
      severity := severity
      dedupKey := notificationDedupKey input.incidentId input.eventKind severity
      cooldownUntil := input.observedAt + cooldownMs
      payload := { input with severity := severity } }

/-! `health-notification-repository.ts`: the intents. -/

def MAX_NOTIFICATION_ATTEMPTS : Nat := 5

def NOTIFICATION_LEASE_MS : Int := 60000

inductive NotificationDeliveryFailureCode where
  | TRANSIENT_PROVIDER_FAILURE | RATE_LIMIT | CONFIGURATION_ERROR | PERMANENT_PROVIDER_REJECTION
  | DISABLED_ROUTE
deriving DecidableEq

inductive NotificationState where
  | PENDING | CLAIMED | DELIVERED | FAILED_RETRYABLE | FAILED_TERMINAL | SUPPRESSED
deriving DecidableEq

inductive SuppressionReason where
  | COOLDOWN | MAINTENANCE_ENTERED
  | failure (code : NotificationDeliveryFailureCode)
deriving DecidableEq

/-- A notification to deliver, with its attempts and its claim. -/
structure HealthNotificationIntent (Id Token : Type) where
  /-- The ids of a table are numbered as its rows are inserted. -/
  id : Nat
  dedupKey : NotificationDedupKey
  incidentId : Nat
  healthRunId : Id
  eventKind : LlmHealthNotificationEventKind
  severity : LlmHealthNotificationSeverity
  state : NotificationState
  groupCount : Nat
  firstObservedAt : Date
  latestObservedAt : Date
  cooldownUntil : Date
  nextAttemptAt : Date
  attemptCount : Nat
  claimOwner : Option String
  claimToken : Option Token
  claimExpiresAt : Option Date
  lastErrorCode : Option NotificationDeliveryFailureCode
  suppressionReason : Option SuppressionReason
  payload : LlmHealthNotificationPayload Id
  providerAdapterKey : Option String
  providerDeliveryId : Option String
  deliveredAt : Option Date

/-- `SELECT … WHERE id=$1`. -/
def getIntent (intents : List (HealthNotificationIntent Id Token)) (id : Nat) :
    Option (HealthNotificationIntent Id Token) := intents.find? (·.id = id)

/-- The row of a new intent. -/
def newIntent (id : Nat) (event : LlmHealthNotificationEvent Id) :
    HealthNotificationIntent Id Token where
  id := id
  dedupKey := event.dedupKey
  incidentId := event.incidentId
  healthRunId := event.healthRunId
  eventKind := event.eventKind
  severity := event.severity
  state := .PENDING
  groupCount := 1
  firstObservedAt := event.observedAt
  latestObservedAt := event.observedAt
  cooldownUntil := event.cooldownUntil
  nextAttemptAt := event.observedAt
  attemptCount := 0
  claimOwner := none
  claimToken := none
  claimExpiresAt := none
  lastErrorCode := none
  suppressionReason := none
  payload := event.payload
  providerAdapterKey := none
  providerDeliveryId := none
  deliveredAt := none

/-- `INSERT … ON CONFLICT (dedup_key) DO NOTHING`. -/
def recordLlmHealthNotification (intents : List (HealthNotificationIntent Id Token))
    (event : LlmHealthNotificationEvent Id) :
    Option (HealthNotificationIntent Id Token) × List (HealthNotificationIntent Id Token) :=
  if intents.any (·.dedupKey = event.dedupKey) then (none, intents)
  else (some (newIntent intents.length event), intents ++ [newIntent intents.length event])

/-- The intents that raise an alarm about an incident. -/
def HealthNotificationIntent.isProduct (incidentId : Nat)
    (row : HealthNotificationIntent Id Token) : Bool :=
  row.incidentId = incidentId &&
    (row.eventKind = .INCIDENT_OPENED || row.eventKind = .INCIDENT_ESCALATED)

/-- The strongest of them, the latest observed first. -/
def strongestProduct (intents : List (HealthNotificationIntent Id Token)) (incidentId : Nat) :
    Option (HealthNotificationIntent Id Token) :=
  (intents.filter (·.isProduct incidentId)).argmax fun row =>
    toLex (severityRank row.severity, toLex (row.latestObservedAt, row.id))

/-- The row once a failure has been added to its group. -/
def HealthNotificationIntent.grouped (event : LlmHealthNotificationEvent Id) (withinCooldown : Bool)
    (row : HealthNotificationIntent Id Token) : HealthNotificationIntent Id Token :=
  let newer := row.latestObservedAt < event.observedAt
  { row with
    groupCount := row.groupCount + 1
    latestObservedAt := if newer then event.observedAt else row.latestObservedAt
    cooldownUntil := if newer then event.cooldownUntil else row.cooldownUntil
    healthRunId := if newer then event.healthRunId else row.healthRunId
    payload := if newer then event.payload else row.payload
    suppressionReason := if withinCooldown then some .COOLDOWN else none }

structure FailureObservation where
  opened : Bool
  escalated : Bool

def observeLlmHealthFailure (intents : List (HealthNotificationIntent Id Token))
    (input : LlmHealthNotificationInput Id) (policy : LlmHealthNotificationPolicy) :
    Except NotificationError (FailureObservation × List (HealthNotificationIntent Id Token)) := do
  match ← deriveLlmHealthNotificationEvent { input with eventKind := .INCIDENT_OPENED } policy with
  | none => return (⟨false, false⟩, intents)
  | some openedEvent =>
    match strongestProduct intents input.incidentId with
    | none => return (⟨true, false⟩, (recordLlmHealthNotification intents openedEvent).2)
    | some current =>
      let cooldownMs ← policy.cooldown
      let withinCooldown := isRepeatedFailureWithinCooldown current.latestObservedAt
        input.observedAt current.severity openedEvent.severity cooldownMs
      let intents := updateWhere (·.id = current.id) (·.grouped openedEvent withinCooldown) intents
      if input.observedAt ≤ current.latestObservedAt ||
          compareNotificationSeverity openedEvent.severity current.severity ≤ 0 then
        return (⟨false, false⟩, intents)
      match ← deriveLlmHealthNotificationEvent
          { input with eventKind := .INCIDENT_ESCALATED } policy with
      | none => return (⟨false, false⟩, intents)
      | some escalation =>
        let (inserted, intents) := recordLlmHealthNotification intents escalation
        return (⟨false, inserted.isSome⟩, intents)

def HealthNotificationIntent.suppressed (row : HealthNotificationIntent Id Token) :
    HealthNotificationIntent Id Token :=
  { row with
    state := .SUPPRESSED
    suppressionReason := some .MAINTENANCE_ENTERED
    claimOwner := none
    claimToken := none
    claimExpiresAt := none }

def suppressLlmHealthProductNotifications (intents : List (HealthNotificationIntent Id Token))
    (incidentId : Nat) : List (HealthNotificationIntent Id Token) :=
  updateWhere (fun row => row.isProduct incidentId &&
    (row.state = .PENDING || row.state = .FAILED_RETRYABLE)) (·.suppressed) intents

/-- The opening that a maintenance has suppressed. -/
def HealthNotificationIntent.isSuppressedOpening (incidentId : Nat)
    (row : HealthNotificationIntent Id Token) : Bool :=
  row.incidentId = incidentId && row.eventKind = .INCIDENT_OPENED && row.state = .SUPPRESSED &&
    row.suppressionReason = some .MAINTENANCE_ENTERED

def HealthNotificationIntent.resumed (observedAt : Date) (row : HealthNotificationIntent Id Token) :
    HealthNotificationIntent Id Token :=
  { row with state := .PENDING, suppressionReason := none, nextAttemptAt := observedAt }

def resumeLlmHealthProductNotification (intents : List (HealthNotificationIntent Id Token))
    (incidentId : Nat) (observedAt : Date) : List (HealthNotificationIntent Id Token) :=
  match intents.find? (·.isSuppressedOpening incidentId) with
  | none => intents
  | some opening => updateWhere (·.id = opening.id) (·.resumed observedAt) intents

def retryDelayMs (attemptCount : Nat) (retryAfterMs : Option Int) : Int :=
  -- `30_000 * 2 ** (attemptCount - 1)`
  let exponential := min (15 * 60000) (15000 * 2 ^ attemptCount)
  min (60 * 60000) (max exponential (retryAfterMs.getD 0))

structure ClaimDue where
  ownerId : String
  now : Option Date
  leaseMs : Option Int

/-- The parameters of the statement that claims an intent. -/
structure ClaimStatement (Token : Type) where
  now : Date
  ownerId : String
  claimToken : Token
  claimExpiresAt : Date

def ClaimDue.statement (input : ClaimDue) (clock : Date) (claimToken : Token) :
    ClaimStatement Token :=
  let now := input.now.getD clock
  { now := now
    ownerId := input.ownerId
    claimToken := claimToken
    claimExpiresAt := now + input.leaseMs.getD NOTIFICATION_LEASE_MS }

def HealthNotificationIntent.due (now : Date) (row : HealthNotificationIntent Id Token) : Bool :=
  ((row.state = .PENDING || row.state = .FAILED_RETRYABLE) && row.nextAttemptAt ≤ now) ||
    (row.state = .CLAIMED && row.claimExpiresAt.any (· ≤ now))

/-- The first due row of those that no other transaction has locked. -/
def claimCandidate (intents : List (HealthNotificationIntent Id Token)) (locked : List Nat)
    (now : Date) : Option (HealthNotificationIntent Id Token) :=
  (intents.filter fun row => row.due now && row.id ∉ locked).argmin fun row =>
    toLex (row.nextAttemptAt, row.id)

def HealthNotificationIntent.claimed (claim : ClaimStatement Token)
    (row : HealthNotificationIntent Id Token) : HealthNotificationIntent Id Token :=
  { row with
    state := .CLAIMED
    claimOwner := some claim.ownerId
    claimToken := some claim.claimToken
    claimExpiresAt := some claim.claimExpiresAt
    attemptCount := row.attemptCount + 1 }

/-- The first statement of `claimDue`, which returns the id alone. -/
def claimCandidateRow (intents : List (HealthNotificationIntent Id Token)) (locked : List Nat)
    (claim : ClaimStatement Token) : Option Nat × List (HealthNotificationIntent Id Token) :=
  match claimCandidate intents locked claim.now with
  | none => (none, intents)
  | some row => (some row.id, updateWhere (·.id = row.id) (·.claimed claim) intents)

structure MarkDelivered (Token : Type) where
  id : Nat
  claimToken : Token
  providerAdapterKey : String
  providerDeliveryId : String
  deliveredAt : Option Date

structure FailClaim (Token : Type) where
  id : Nat
  claimToken : Token
  code : NotificationDeliveryFailureCode
  now : Option Date
  retryAfterMs : Option Int

section Reports

variable [DecidableEq Token]

/-- `WHERE id=$1 AND state='CLAIMED' AND claim_token=$2`. -/
def HealthNotificationIntent.heldBy (id : Nat) (claimToken : Token)
    (row : HealthNotificationIntent Id Token) : Bool :=
  row.id = id && row.state = .CLAIMED && row.claimToken = some claimToken

def HealthNotificationIntent.delivered (input : MarkDelivered Token) (clock : Date)
    (row : HealthNotificationIntent Id Token) : HealthNotificationIntent Id Token :=
  { row with
    state := .DELIVERED
    deliveredAt := some (input.deliveredAt.getD clock)
    providerAdapterKey := some input.providerAdapterKey
    providerDeliveryId := some input.providerDeliveryId
    claimOwner := none
    claimToken := none
    claimExpiresAt := none
    lastErrorCode := none }

def markDelivered (intents : List (HealthNotificationIntent Id Token))
    (input : MarkDelivered Token) (clock : Date) :
    Except NotificationError Unit × List (HealthNotificationIntent Id Token) :=
  if intents.any (·.heldBy input.id input.claimToken) then
    (.ok (), updateWhere (·.heldBy input.id input.claimToken) (·.delivered input clock) intents)
  else (.error .NOTIFICATION_CLAIM_STALE, intents)

/-- The state that a reported failure leads to. -/
def failedState (attemptCount : Nat) (code : NotificationDeliveryFailureCode) : NotificationState :=
  let disabled := code = .DISABLED_ROUTE
  let permanent := code = .CONFIGURATION_ERROR || code = .PERMANENT_PROVIDER_REJECTION
  let terminal := disabled || permanent || MAX_NOTIFICATION_ATTEMPTS ≤ attemptCount
  if disabled then .SUPPRESSED else if terminal then .FAILED_TERMINAL else .FAILED_RETRYABLE

def HealthNotificationIntent.failed (input : FailClaim Token) (clock : Date) (attemptCount : Nat)
    (row : HealthNotificationIntent Id Token) : HealthNotificationIntent Id Token :=
  let state := failedState attemptCount input.code
  { row with
    state := state
    lastErrorCode := some input.code
    suppressionReason := if state = .SUPPRESSED then some (.failure input.code) else none
    nextAttemptAt := input.now.getD clock + retryDelayMs attemptCount input.retryAfterMs
    claimOwner := none
    claimToken := none
    claimExpiresAt := none }

/-- The transaction of `failClaim`; what it throws is rolled back. -/
def failClaim (intents : List (HealthNotificationIntent Id Token)) (input : FailClaim Token)
    (clock : Date) :
    Except NotificationError (HealthNotificationIntent Id Token) ×
      List (HealthNotificationIntent Id Token) :=
  match intents.find? (·.heldBy input.id input.claimToken) with
  | none => (.error .NOTIFICATION_CLAIM_STALE, intents)
  | some row =>
    let updated := updateWhere
      (fun row => row.id = input.id && row.claimToken = some input.claimToken)
      (·.failed input clock row.attemptCount) intents
    match getIntent updated input.id with
    | none => (.error .NOTIFICATION_CLAIM_STALE, intents)
    | some intent => (.ok intent, updated)

end Reports

end SellerAgents.Health
