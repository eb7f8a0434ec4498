import SellerAgents.Health.NotificationDelivery

open Relational

namespace SellerAgents.Health

open Subscriptions (Date)

/-! `processCompletedHealthRun` with the notifications that it records. -/

structure IncidentOptions where
  notificationPolicy : Option LlmHealthNotificationPolicy := none
  emitNotifications : Bool := true

def IncidentOptions.policy (options : IncidentOptions) : LlmHealthNotificationPolicy :=
  options.notificationPolicy.getD DEFAULT_LLM_HEALTH_NOTIFICATION_POLICY

structure MonitoringTables (Id Digest Token : Type) where
  incidents : List (IncidentRow Id Digest)
  intents : Intents Id Token

namespace Notified

variable {Id Digest Token : Type}

section Events

variable (options : IncidentOptions) (run : HealthRun Id) (scope : HealthScope)
  (incident : IncidentRow Id Digest)

/-- What a run has to say of an incident in a notification. -/
def input (eventKind : LlmHealthNotificationEventKind) (healthState : HealthState) :
    LlmHealthNotificationInput Id where
  incidentId := incident.id
  healthRunId := run.id
  eventKind := eventKind
  healthState := healthState
  provider := scope.adapterFamilyKey
  surface := scope.surfaceKey
  healthLevel := run.healthLevel
  rootContourKey := incident.rootContourKey
  observedAt := run.completedAt

def notificationInput (eventKind : LlmHealthNotificationEventKind) (healthState : HealthState) :
    Except NotificationError (Option (LlmHealthNotificationEvent Id)) :=
  if options.emitNotifications then
    deriveLlmHealthNotificationEvent (input run scope incident eventKind healthState) options.policy
  else .ok none

def recordEvent (intents : Intents Id Token) :
    Option (LlmHealthNotificationEvent Id) → Intents Id Token
  | none => intents
  | some event => (recordLlmHealthNotification intents event).2

def incidentHasNotificationHistory (intents : Intents Id Token) (incidentId : Nat) : Bool :=
  intents.any fun row => row.incidentId = incidentId &&
    (row.eventKind = .INCIDENT_OPENED || row.eventKind = .INCIDENT_ESCALATED ||
      row.eventKind = .MAINTENANCE_ENTERED)

/-- An incident that a run has resolved. -/
def notifyResolved (intents : Intents Id Token) : Except NotificationError (Intents Id Token) := do
  let notificationHistory :=
    options.emitNotifications && incidentHasNotificationHistory intents incident.id
  let exited ←
    if notificationHistory && incident.status = .MAINTENANCE then
      notificationInput options run scope incident .MAINTENANCE_EXITED .HEALTHY
    else pure none
  let recovered ←
    if notificationHistory then
      notificationInput options run scope incident .INCIDENT_RECOVERED .HEALTHY
    else pure none
  return recordEvent (recordEvent intents exited) recovered

/-- An incident that a run has put into maintenance, or has found there. -/
def notifyMaintained (intents : Intents Id Token) :
    Except NotificationError (Intents Id Token) := do
  if incident.status = .MAINTENANCE then return intents
  let entered ← notificationInput options run scope incident .MAINTENANCE_ENTERED .MAINTENANCE
  let intents := recordEvent intents entered
  return if options.emitNotifications then
    suppressLlmHealthProductNotifications intents incident.id
  else intents

/-- A failure that is added to its incident. -/
def notifyObserved (intents : Intents Id Token) : Except NotificationError (Intents Id Token) :=
  if options.emitNotifications then do
    let (_, intents) ← observeLlmHealthFailure intents
      (input run scope incident .INCIDENT_OPENED run.healthState) options.policy
    return intents
  else .ok intents

/-- The same for an active incident, which a failure takes out of maintenance. -/
def notifyFailed (intents : Intents Id Token) : Except NotificationError (Intents Id Token) := do
  if incident.status = .MAINTENANCE then
    let resumed :=
      if options.emitNotifications then
        resumeLlmHealthProductNotification intents incident.id run.completedAt
      else intents
    let exited ← notificationInput options run scope incident .MAINTENANCE_EXITED run.healthState
    notifyObserved options run scope incident (recordEvent resumed exited)
  else notifyObserved options run scope incident intents

end Events

variable [LinearOrder Id] [DecidableEq Digest]

/-- The loop over the active incidents of a scope. -/
def observeScope (tables : MonitoringTables Id Digest Token) (incidentScope : Digest)
    (run : HealthRun Id) (state : ObservedState) (counted : IncidentAction)
    (notify : IncidentRow Id Digest → Intents Id Token →
      Except NotificationError (Intents Id Token)) :
    Except NotificationError (List Nat × MonitoringTables Id Digest Token) :=
  (activeByScope tables.incidents incidentScope).foldlM
    (fun acc incident => do
      let (action, incidents) := updateIncidentObservation acc.2.incidents incident run state
      if action = counted then
        let intents ← notify incident acc.2.intents
        return (acc.1 ++ [incident.id], ⟨incidents, intents⟩)
      else return (acc.1, ⟨incidents, acc.2.intents⟩))
    ([], tables)

/-- An observed failure, and what it notifies when it is the latest. -/
def observeActive (tables : MonitoringTables Id Digest Token) (active : IncidentRow Id Digest)
    (run : HealthRun Id)
    (notify : Intents Id Token → Except NotificationError (Intents Id Token)) :
    Except NotificationError (HealthIncidentProcessingResult × MonitoringTables Id Digest Token) :=
  do
    let (action, incidents) := updateIncidentObservation tables.incidents active run .FAILURE
    if action = .UPDATED then
      let intents ← notify tables.intents
      return (⟨action, [active.id]⟩, ⟨incidents, intents⟩)
    else return (⟨action, [active.id]⟩, ⟨incidents, tables.intents⟩)

def observeFailure (options : IncidentOptions) (tables : MonitoringTables Id Digest Token)
    (scope : HealthScope) (incidentScope incidentKey : Digest) (run : HealthRun Id)
    (rootContourKey : Option BaselineContourKey) :
    Except NotificationError (HealthIncidentProcessingResult × MonitoringTables Id Digest Token) :=
  match activeByKey tables.incidents incidentKey with
  | some active => observeActive tables active run (notifyFailed options run scope active)
  | none =>
    match (latestTerminalByKey tables.incidents incidentKey).filter fun terminal =>
        !isAfter run.completedAt run.id terminal.lastObservedAt terminal.lastObservedRunId with
    | some terminal => .ok (⟨.IGNORED, [terminal.id]⟩, tables)
    | none =>
      let row := newIncident tables.incidents incidentScope incidentKey run rootContourKey
      match insertIncident tables.incidents row with
      | some incidents => do
        let opened ← notificationInput options run scope row .INCIDENT_OPENED run.healthState
        return (⟨.OPENED, [row.id]⟩, ⟨incidents, recordEvent tables.intents opened⟩)
      | none =>
        match activeByKey tables.incidents incidentKey with
        | none => .error (.incident .HEALTH_INCIDENT_DEDUP_RACE_UNRESOLVED)
        | some raced => observeActive tables raced run (notifyObserved options run scope raced)

def processCompletedHealthRun (d : Digests Digest) (options : IncidentOptions)
    (tables : MonitoringTables Id Digest Token) (run : HealthRun Id) :
    Except NotificationError (HealthIncidentProcessingResult × MonitoringTables Id Digest Token) :=
  do
    let (classification, suite) ← (getClassification run).mapError .incident
    let identity := healthIncidentScopeIdentity suite.scope run.healthLevel
    let rootContourKey := selectRootContour classification.productFindings
    let incidentScope := d.healthIncidentScopeSha256 identity
    let incidentKey := d.healthIncidentKeySha256 identity rootContourKey
    match run.healthState with
    | .UNKNOWN => return (⟨.NOOP, []⟩, tables)
    | .HEALTHY =>
      let (resolved, tables') ← observeScope tables incidentScope run .HEALTHY .RESOLVED
        (notifyResolved options run suite.scope)
      return (⟨if resolved.isEmpty then .NOOP else .RESOLVED, resolved⟩, tables')
    | .MAINTENANCE =>
      let (changed, tables') ← observeScope tables incidentScope run .MAINTENANCE .MAINTENANCE
        (notifyMaintained options run suite.scope)
      return (⟨if changed.isEmpty then .NOOP else .MAINTENANCE, changed⟩, tables')
    | state =>
      if !isIncidentWorthyHealthState state then return (⟨.NOOP, []⟩, tables)
      else observeFailure options tables suite.scope incidentScope incidentKey run rootContourKey

end Notified

end SellerAgents.Health
