import Mathlib.Data.List.Sort
import SellerAgents.Relational.Transaction
import SellerAgents.Subscriptions.Lifecycle
import SellerAgents.Relational.Table

open Relational

namespace SellerAgents.HealthScheduler

open Subscriptions (Date)

inductive HealthProbeLayer where
  | NO_SESSION
  | AUTHENTICATED_DEEP
deriving DecidableEq

inductive HealthScheduledRunState where
  | PENDING
  | CLAIMED
  | RUNNING
  | SUCCEEDED
  | FAILED_RETRYABLE
  | FAILED_TERMINAL
  | TIMED_OUT
  | CANCELLED
deriving DecidableEq

inductive HealthFailureClass where
  | TRANSIENT_ENVIRONMENT
  | PROVIDER_ACCESS_OR_NETWORK
  | BROWSER_UNAVAILABLE
  | TERMINAL_CONFIGURATION
  | PROVEN_PRODUCT_DRIFT
  | MAINTENANCE
deriving DecidableEq

inductive HealthState where
  | HEALTHY
  | DRIFT
  | DEGRADED
  | BROKEN
  | UNKNOWN
  | MAINTENANCE

/-- A cadence that `HealthScheduleCadenceSchema` accepts. -/
structure HealthScheduleCadence where
  intervalSeconds : Int
  timeoutSeconds : Int
  maxAttempts : Nat
  interval_bounds : 3600 ≤ intervalSeconds ∧ intervalSeconds ≤ 604800
  timeout_bounds : 30 ≤ timeoutSeconds ∧ timeoutSeconds ≤ 3600
  attempts_bounds : 1 ≤ maxAttempts ∧ maxAttempts ≤ 8

/-- When and how a target is probed. -/
structure HealthSchedule where
  scheduleId : String
  monitorTarget : String
  provider : String
  surface : String
  probeLayer : HealthProbeLayer
  enabled : Bool
  cadence : HealthScheduleCadence
  nextDueAt : Date
  revision : Nat
  lastAttemptAt : Option Date := none
  lastSuccessAt : Option Date := none

/-- A run as its owner sees it. -/
structure HealthScheduledRun where
  id : String
  scheduleId : String
  monitorTarget : String
  provider : String
  surface : String
  probeLayer : HealthProbeLayer
  scheduleRevision : Nat
  dueSlotAt : Date
  idempotencyKey : String
  state : HealthScheduledRunState
  ownerId : Option String := none
  leaseId : Option String := none
  claimedAt : Option Date := none
  leaseExpiresAt : Option Date := none
  timeoutAt : Option Date := none
  attempt : Nat
  startedAt : Option Date := none
  finishedAt : Option Date := none
  nextAttemptAt : Option Date := none
  failureClass : Option HealthFailureClass := none
  failureCode : Option String := none
  healthRunId : Option String := none
  healthState : Option HealthState := none

/-- `FAILURE_BACKOFF_SECONDS`. -/
def FAILURE_BACKOFF_SECONDS : HealthFailureClass → Int
  | .TRANSIENT_ENVIRONMENT => 300
  | .PROVIDER_ACCESS_OR_NETWORK => 900
  | .BROWSER_UNAVAILABLE => 600
  | .TERMINAL_CONFIGURATION => 86400
  | .PROVEN_PRODUCT_DRIFT => 21600
  | .MAINTENANCE => 3600

/-- The runtime's digest of a text and its text of a date. -/
structure Hashing where
  sha256 : String → String
  toISOString : Date → String

def scheduledRunIdempotencyKey (hashing : Hashing) (schedule : HealthSchedule) : String :=
  hashing.sha256 (String.intercalate "|"
    [schedule.scheduleId, toString schedule.revision, hashing.toISOString schedule.nextDueAt,
      schedule.monitorTarget])

def nextDueAfterMaterialization (schedule : HealthSchedule) (now : Date) : Date :=
  let nominal := schedule.nextDueAt + schedule.cadence.intervalSeconds * 1000
  if now < nominal then nominal else now + schedule.cadence.intervalSeconds * 1000

/-- `retryAt`, without jitter. -/
def retryAt (failureClass : HealthFailureClass) (attempt : Nat) (now : Date) : Date :=
  let multiplier : Int := min (2 ^ (attempt - 1)) 16
  now + min (FAILURE_BACKOFF_SECONDS failureClass * multiplier) 86400 * 1000

def transitions : HealthScheduledRunState → List HealthScheduledRunState
  | .PENDING => [.CLAIMED, .CANCELLED]
  | .CLAIMED => [.RUNNING, .CLAIMED, .FAILED_RETRYABLE, .FAILED_TERMINAL, .TIMED_OUT, .CANCELLED]
  | .RUNNING => [.SUCCEEDED, .FAILED_RETRYABLE, .FAILED_TERMINAL, .TIMED_OUT, .CLAIMED, .CANCELLED]
  | .SUCCEEDED => []
  | .FAILED_RETRYABLE => [.CLAIMED, .CANCELLED]
  | .FAILED_TERMINAL => []
  | .TIMED_OUT => [.CLAIMED]
  | .CANCELLED => []

def HealthScheduledRunState.text : HealthScheduledRunState → String
  | .PENDING => "PENDING"
  | .CLAIMED => "CLAIMED"
  | .RUNNING => "RUNNING"
  | .SUCCEEDED => "SUCCEEDED"
  | .FAILED_RETRYABLE => "FAILED_RETRYABLE"
  | .FAILED_TERMINAL => "FAILED_TERMINAL"
  | .TIMED_OUT => "TIMED_OUT"
  | .CANCELLED => "CANCELLED"

def assertScheduledRunTransition {σ : Type} (state next : HealthScheduledRunState) : Tx σ Unit :=
  ensure (next ∈ transitions state)
    ("INVALID_HEALTH_SCHEDULED_RUN_TRANSITION:" ++ state.text ++ "->" ++ next.text)

def classifyFailure (failureClass : HealthFailureClass) (failureCode : String) :
    HealthScheduledRunState :=
  let terminalPostSendFailure :=
    failureCode = "SEND_UNCERTAIN" ||
    failureCode = "AUTHENTICATED_DEEP_PERSISTENCE_REJECTED" ||
    failureCode = "AUTHENTICATED_DEEP_POST_SEND_MATERIALIZATION_REJECTED"
  if terminalPostSendFailure || failureClass = .TERMINAL_CONFIGURATION ||
      failureClass = .PROVEN_PRODUCT_DRIFT then .FAILED_TERMINAL
  else .FAILED_RETRYABLE

inductive ScheduledExecutionResult where
  | SUCCEEDED (healthRunId : String) (healthState : HealthState)
  | FAILED (failureClass : HealthFailureClass) (failureCode : String)

/-- A row of `health_scheduled_runs`. -/
structure ScheduledRunRow : Type extends HealthScheduledRun where
  createdAt : Date

inductive HealthRunKind where
  | BASELINE_CONTOUR
  | NO_SESSION_OBSERVATION
deriving DecidableEq

/-- A row of `health_runs`. -/
structure HealthRun where
  id : String
  scheduledRunId : Option String
  runKind : HealthRunKind
  healthState : HealthState

/-- A row of `health_schedule_retention_watermarks`. -/
structure RetentionWatermark where
  scheduleId : String
  retiredThroughRevision : Nat
  retiredThroughDueSlotAt : Date

/-- The tables of the scheduler. `drawn` are the lease ids that `randomUUID` has given. -/
structure HealthDatabase where
  schedules : List HealthSchedule := []
  runs : List ScheduledRunRow := []
  healthRuns : List HealthRun := []
  watermarks : List RetentionWatermark := []
  drawn : List String := []

def HealthDatabase.getSchedule (db : HealthDatabase) (scheduleId : String) : Option HealthSchedule :=
  db.schedules.find? (·.scheduleId = scheduleId)

/-- `RETURNING …` without `timeout_at`. -/
def returning (row : ScheduledRunRow) : HealthScheduledRun :=
  { row.toHealthScheduledRun with timeoutAt := none }

/-- `UPDATE health_schedules SET … WHERE id=$1`. -/
def updateSchedules (scheduleId : String) (set : HealthSchedule → HealthSchedule) :
    Tx HealthDatabase Unit :=
  modify fun db => { db with
    schedules := updateWhere (·.scheduleId = scheduleId) set db.schedules }

/-! `createSchedule` and `updateSchedule`. -/

def createSchedule (input : HealthSchedule) : Tx HealthDatabase Unit := do
  let db ← get
  ensure (Fresh (fun s => some s.scheduleId) input db.schedules) "HEALTH_SCHEDULE_ALREADY_EXISTS"
  ensure (Fresh (fun s => some (s.monitorTarget, s.revision)) input db.schedules)
    "health_schedules_target_revision_unique"
  modify fun db => { db with schedules := db.schedules ++ [input] }

structure UpdateScheduleInput where
  scheduleId : String
  enabled : Bool
  cadence : HealthScheduleCadence
  nextDueAt : Date
  monitorTarget : Option String := none
  provider : Option String := none
  surface : Option String := none
  probeLayer : Option HealthProbeLayer := none

/-- The schedule with its next revision. -/
def UpdateScheduleInput.candidate (input : UpdateScheduleInput) (existing : HealthSchedule) :
    HealthSchedule :=
  { existing with
    monitorTarget := input.monitorTarget.getD existing.monitorTarget
    provider := input.provider.getD existing.provider
    surface := input.surface.getD existing.surface
    probeLayer := input.probeLayer.getD existing.probeLayer
    enabled := input.enabled
    cadence := input.cadence
    nextDueAt := input.nextDueAt
    revision := existing.revision + 1 }

def updateSchedule (input : UpdateScheduleInput) : Tx HealthDatabase Unit := do
  let db ← get
  match db.getSchedule input.scheduleId with
  | none => throw "HEALTH_SCHEDULE_NOT_FOUND"
  | some existing =>
    ensure (∀ other ∈ db.schedules, other.scheduleId ≠ input.scheduleId →
      (other.monitorTarget, other.revision) ≠
        ((input.candidate existing).monitorTarget, existing.revision + 1))
      "health_schedules_target_revision_unique"
    updateSchedules input.scheduleId input.candidate

/-! `listDueSchedules` and `materializeDueSlot`. -/

/-- `ORDER BY next_due_at,monitor_target`. -/
def scheduledBefore (a b : HealthSchedule) : Prop :=
  a.nextDueAt < b.nextDueAt ∨ a.nextDueAt = b.nextDueAt ∧ a.monitorTarget ≤ b.monitorTarget

instance : DecidableRel scheduledBefore := fun _ _ => inferInstanceAs (Decidable (_ ∨ _))

def listDueSchedules (now : Date) : Tx HealthDatabase (List HealthSchedule) := do
  let db ← get
  return (db.schedules.filter fun s => s.enabled && s.nextDueAt ≤ now).insertionSort scheduledBefore

/-- Whether retention has passed the due slot of the schedule. -/
def HealthDatabase.retired (db : HealthDatabase) (schedule : HealthSchedule) : Bool :=
  db.watermarks.any fun mark => mark.scheduleId = schedule.scheduleId &&
    (schedule.revision < mark.retiredThroughRevision ||
      (mark.retiredThroughRevision = schedule.revision &&
        schedule.nextDueAt ≤ mark.retiredThroughDueSlotAt))

/-- The run of the due slot. -/
def HealthSchedule.dueRun (schedule : HealthSchedule) (hashing : Hashing) (id : String)
    (createdAt : Date) : ScheduledRunRow where
  id := id
  scheduleId := schedule.scheduleId
  monitorTarget := schedule.monitorTarget
  provider := schedule.provider
  surface := schedule.surface
  probeLayer := schedule.probeLayer
  scheduleRevision := schedule.revision
  dueSlotAt := schedule.nextDueAt
  idempotencyKey := scheduledRunIdempotencyKey hashing schedule
  state := .PENDING
  attempt := 1
  createdAt := createdAt

/-- The columns of `health_scheduled_runs_idempotency_unique`. -/
def ScheduledRunRow.slot (row : ScheduledRunRow) : String × Nat × Date × String :=
  (row.scheduleId, row.scheduleRevision, row.dueSlotAt, row.monitorTarget)

/-- `INSERT … ON CONFLICT … DO NOTHING RETURNING …`. -/
def insertRun (row : ScheduledRunRow) : Tx HealthDatabase (Option HealthScheduledRun) := do
  let db ← get
  if ¬ Fresh (fun r => some r.slot) row db.runs then return none
  else
    ensure (Fresh (fun r => some r.id) row db.runs) "health_scheduled_runs_pkey"
    ensure (Fresh (fun r => some r.idempotencyKey) row db.runs) "health_scheduled_runs_key_unique"
    modify fun db => { db with runs := db.runs ++ [row] }
    return some (returning row)

/-- `materializeDueSlot`; `id` and `createdAt` are the column defaults. -/
def materializeDueSlot (hashing : Hashing) (id : String) (createdAt : Date) (scheduleId : String)
    (now : Date) : Tx HealthDatabase (Option HealthScheduledRun) := do
  let db ← get
  match db.getSchedule scheduleId with
  | none => throw "HEALTH_SCHEDULE_NOT_FOUND"
  | some schedule =>
    if !schedule.enabled || now < schedule.nextDueAt then return none
    else
      let inserted ← if db.retired schedule then pure none
        else insertRun (schedule.dueRun hashing id createdAt)
      updateSchedules schedule.scheduleId fun s =>
        if s.revision = schedule.revision then
          { s with nextDueAt := nextDueAfterMaterialization schedule now }
        else s
      return inserted

/-! Ends of a run. -/

/-- The columns that every end of a run sets. -/
def ended (state : HealthScheduledRunState) (now : Date) (row : ScheduledRunRow) : ScheduledRunRow :=
  { row with
    state := state
    finishedAt := some now
    leaseId := none
    ownerId := none
    leaseExpiresAt := none }

/-- The row of a run with a result. -/
def succeeded (healthRunId : String) (healthState : HealthState) (now : Date)
    (row : ScheduledRunRow) : ScheduledRunRow :=
  { ended .SUCCEEDED now row with
    healthRunId := some healthRunId
    healthState := some healthState }

/-- The row of a run that failed. -/
def failed (state : HealthScheduledRunState) (nextAttemptAt : Option Date)
    (failureClass : HealthFailureClass) (failureCode : String) (now : Date)
    (row : ScheduledRunRow) : ScheduledRunRow :=
  { ended state now row with
    nextAttemptAt := nextAttemptAt
    failureClass := some failureClass
    failureCode := some failureCode }

/-! `claimNext`. -/

structure ClaimInput where
  ownerId : String
  now : Date
  leaseMs : Int

/-- `lease_expires_at <= $1`. -/
def ScheduledRunRow.expired (row : ScheduledRunRow) (now : Date) : Bool :=
  row.leaseExpiresAt.any (· ≤ now)

/-- Whether an authenticated run was left running. -/
def HealthDatabase.abandoned (db : HealthDatabase) (now : Date) (row : ScheduledRunRow) : Bool :=
  row.state = .RUNNING && row.probeLayer = .AUTHENTICATED_DEEP && row.expired now &&
    row.healthRunId.isNone && !db.healthRuns.any (·.scheduledRunId = some row.id)

/-- An authenticated run that was left running ends: its send is uncertain. -/
def endAbandoned (now : Date) : ScheduledRunRow → ScheduledRunRow :=
  failed .FAILED_TERMINAL none .TRANSIENT_ENVIRONMENT "SEND_UNCERTAIN" now

/-- The cadence's bound on the attempts of a run. -/
def HealthDatabase.maxAttempts (db : HealthDatabase) (row : ScheduledRunRow) : Option Nat :=
  (db.getSchedule row.scheduleId).map (·.cadence.maxAttempts)

/-- A run that may be claimed again once its lease expired. -/
def ScheduledRunRow.leased (row : ScheduledRunRow) : Bool :=
  row.state = .CLAIMED || (row.state = .RUNNING && row.probeLayer ≠ .AUTHENTICATED_DEEP)

def HealthDatabase.exhausted (db : HealthDatabase) (now : Date) (row : ScheduledRunRow) : Bool :=
  row.leased && row.expired now && (db.maxAttempts row).any (· ≤ row.attempt)

def endExhausted (now : Date) (row : ScheduledRunRow) : ScheduledRunRow :=
  failed .TIMED_OUT row.nextAttemptAt .TRANSIENT_ENVIRONMENT "LEASE_EXPIRED_MAX_ATTEMPTS" now row

/-- The runs that `claimNext` may take. -/
def HealthDatabase.claimable (db : HealthDatabase) (now : Date) (row : ScheduledRunRow) : Bool :=
  (row.state = .PENDING && (db.maxAttempts row).any (row.attempt ≤ ·)) ||
    ((row.state = .FAILED_RETRYABLE || row.state = .TIMED_OUT) &&
      row.nextAttemptAt.any (· ≤ now) && (db.maxAttempts row).any (row.attempt < ·)) ||
    (row.leased && row.expired now && (db.maxAttempts row).any (row.attempt < ·))

/-- `ORDER BY r.due_slot_at,r.created_at`. -/
def dueBefore (a b : ScheduledRunRow) : Prop :=
  a.dueSlotAt < b.dueSlotAt ∨ a.dueSlotAt = b.dueSlotAt ∧ a.createdAt ≤ b.createdAt

instance : DecidableRel dueBefore := fun _ _ => inferInstanceAs (Decidable (_ ∨ _))

/-- The claimed row. -/
def ClaimInput.claimed (input : ClaimInput) (leaseId : String) (row : ScheduledRunRow) :
    ScheduledRunRow :=
  { row with
    state := .CLAIMED
    ownerId := some input.ownerId
    leaseId := some leaseId
    claimedAt := some input.now
    leaseExpiresAt := some (input.now + input.leaseMs)
    attempt := if row.state = .PENDING then row.attempt else row.attempt + 1
    nextAttemptAt := none }

/-- The claim of the first run that may be taken. -/
def claimFirst (leaseId : String) (input : ClaimInput) :
    Tx HealthDatabase (Option HealthScheduledRun) := do
  let db ← get
  match ((db.runs.filter (db.claimable input.now)).insertionSort dueBefore).head? with
  | none => return none
  | some row =>
    assertScheduledRunTransition row.state .CLAIMED
    modify fun db => { db with
      runs := updateWhere (·.id = row.id) (input.claimed leaseId) db.runs
      drawn := leaseId :: db.drawn }
    updateSchedules row.scheduleId fun s => { s with lastAttemptAt := some input.now }
    return some (returning (input.claimed leaseId row))

/-- `claimNext`; `leaseId` is what `randomUUID` draws. -/
def claimNext (leaseId : String) (input : ClaimInput) :
    Tx HealthDatabase (Option HealthScheduledRun) := do
  modify fun db => { db with
    runs := updateWhere (db.abandoned input.now) (endAbandoned input.now) db.runs }
  modify fun db => { db with
    runs := updateWhere (db.exhausted input.now) (endExhausted input.now) db.runs }
  claimFirst leaseId input

/-! The calls under a lease. -/

structure LeaseInput where
  runId : String
  ownerId : String
  leaseId : String
  now : Date

def staleOwner : String := "HEALTH_SCHEDULED_RUN_STALE_OWNER"

/-- `oneRun`, for its owner only. -/
def ownRun (input : LeaseInput) : Tx HealthDatabase ScheduledRunRow := do
  let db ← get
  match db.runs.find? (·.id = input.runId) with
  | none => throw "HEALTH_SCHEDULED_RUN_NOT_FOUND"
  | some current =>
    ensure (current.ownerId = some input.ownerId ∧ current.leaseId = some input.leaseId) staleOwner
    return current

/-- `WHERE id=$1 AND state=… AND owner_id=$2 AND lease_id=$3 AND lease_expires_at > $4`. -/
def LeaseInput.holds (input : LeaseInput) (state : HealthScheduledRunState)
    (row : ScheduledRunRow) : Bool :=
  row.id = input.runId && row.state = state && row.ownerId = some input.ownerId &&
    row.leaseId = some input.leaseId && row.leaseExpiresAt.any (input.now < ·)

/-- `UPDATE health_scheduled_runs SET … WHERE … RETURNING …`; it throws without a row. -/
def updateLeased (input : LeaseInput) (state : HealthScheduledRunState)
    (set : ScheduledRunRow → ScheduledRunRow) : Tx HealthDatabase ScheduledRunRow := do
  let db ← get
  match db.runs.find? (input.holds state) with
  | none => throw staleOwner
  | some row =>
    modify fun db => { db with runs := updateWhere (input.holds state) set db.runs }
    return set row

/-- The cadence of the run's schedule. -/
def cadence (scheduleId : String) : Tx HealthDatabase HealthScheduleCadence := do
  let db ← get
  match db.getSchedule scheduleId with
  | none => throw "expected object, received undefined"
  | some schedule => return schedule.cadence

/-- The row of a run that starts. -/
def LeaseInput.started (input : LeaseInput) (cadence : HealthScheduleCadence)
    (row : ScheduledRunRow) : ScheduledRunRow :=
  { row with
    state := .RUNNING
    startedAt := some input.now
    timeoutAt := some (input.now + cadence.timeoutSeconds * 1000) }

def startRun (input : LeaseInput) : Tx HealthDatabase HealthScheduledRun := do
  let current ← ownRun input
  assertScheduledRunTransition current.state .RUNNING
  let cadence ← cadence current.scheduleId
  let row ← updateLeased input .CLAIMED (input.started cadence)
  return row.toHealthScheduledRun

def finishSuccess (input : LeaseInput) (healthRunId : String) (healthState : HealthState) :
    Tx HealthDatabase HealthScheduledRun := do
  let current ← ownRun input
  assertScheduledRunTransition current.state .SUCCEEDED
  let db ← get
  ensure (∀ r ∈ db.runs, r.id ≠ input.runId → r.healthRunId ≠ some healthRunId)
    "health_scheduled_runs_health_run_unique"
  ensure (∃ h ∈ db.healthRuns, h.id = healthRunId) "health_scheduled_runs_health_run_fk"
  let row ← updateLeased input .RUNNING (succeeded healthRunId healthState input.now)
  updateSchedules current.scheduleId fun s => { s with lastSuccessAt := some input.now }
  return returning row

/-- The state that a failure leads to. -/
def failureState (cadence : HealthScheduleCadence) (attempt : Nat)
    (failureClass : HealthFailureClass) (failureCode : String) : HealthScheduledRunState :=
  if cadence.maxAttempts ≤ attempt then .FAILED_TERMINAL
  else classifyFailure failureClass failureCode

def finishFailure (input : LeaseInput) (failureClass : HealthFailureClass) (failureCode : String) :
    Tx HealthDatabase HealthScheduledRun := do
  let current ← ownRun input
  let cadence ← cadence current.scheduleId
  let nextState := failureState cadence current.attempt failureClass failureCode
  assertScheduledRunTransition current.state nextState
  let nextAttemptAt := if nextState = .FAILED_RETRYABLE
    then some (retryAt failureClass current.attempt input.now) else none
  let row ← updateLeased input .RUNNING
    (failed nextState nextAttemptAt failureClass failureCode input.now)
  return returning row

def timeoutRun (input : LeaseInput) (failureCode : String) :
    Tx HealthDatabase HealthScheduledRun := do
  let current ← ownRun input
  assertScheduledRunTransition current.state .TIMED_OUT
  let row ← updateLeased input .RUNNING (failed .TIMED_OUT
    (some (retryAt .TRANSIENT_ENVIRONMENT current.attempt input.now)) .TRANSIENT_ENVIRONMENT
    failureCode input.now)
  return returning row

/-! `reconcilePersistedResults`. -/

/-- The runs that a persisted result completes. -/
def ScheduledRunRow.reconcilable (row : ScheduledRunRow) : Bool :=
  (row.state = .CLAIMED || row.state = .RUNNING || row.state = .TIMED_OUT ||
    row.state = .FAILED_RETRYABLE ||
    (row.state = .FAILED_TERMINAL && row.probeLayer = .AUTHENTICATED_DEEP &&
      (row.failureCode = some "AUTHENTICATED_DEEP_PERSISTENCE_REJECTED" ||
        row.failureCode = some "SEND_UNCERTAIN"))) && row.healthRunId.isNone

/-- `ORDER BY r.due_slot_at,r.created_at,r.id`. -/
def reconciledBefore (a b : ScheduledRunRow × HealthRun) : Prop :=
  a.1.dueSlotAt < b.1.dueSlotAt ∨ a.1.dueSlotAt = b.1.dueSlotAt ∧
    (a.1.createdAt < b.1.createdAt ∨ a.1.createdAt = b.1.createdAt ∧ a.1.id ≤ b.1.id)

instance : DecidableRel reconciledBefore := fun _ _ => inferInstanceAs (Decidable (_ ∨ _))

/-- The runs with their persisted results. -/
def HealthDatabase.candidates (db : HealthDatabase) : List (ScheduledRunRow × HealthRun) :=
  ((db.runs.filter (·.reconcilable)).flatMap fun row =>
    (db.healthRuns.filter (·.scheduledRunId = some row.id)).map fun health => (row, health))
    |>.insertionSort reconciledBefore

/-- The transaction of one persisted result. -/
def reconcileRun (runId : String) (health : HealthRun) (now : Date) : Tx HealthDatabase Bool := do
  let db ← get
  match db.runs.find? fun row => row.id = runId && row.reconcilable with
  | none => return false
  | some row =>
    ensure (∀ r ∈ db.runs, r.id ≠ runId → r.healthRunId ≠ some health.id)
      "health_scheduled_runs_health_run_unique"
    modify fun db => { db with
      runs := updateWhere (fun row => row.id = runId && row.reconcilable)
        (succeeded health.id health.healthState now) db.runs }
    updateSchedules row.scheduleId fun s => { s with lastSuccessAt := some now }
    return true

/-- Whether the incident repository has to see the result first. -/
def incidentFirst (row : ScheduledRunRow) (health : HealthRun) : Bool :=
  health.runKind = .NO_SESSION_OBSERVATION || row.probeLayer = .AUTHENTICATED_DEEP

/-- The candidates in turn. A throw keeps the transactions before it. -/
def reconcileAll (incident : HealthRun → Except String Unit) (now : Date) :
    List (ScheduledRunRow × HealthRun) → Nat → HealthDatabase → Except String Nat × HealthDatabase
  | [], recovered, db => (.ok recovered, db)
  | (row, health) :: rest, recovered, db =>
    match if incidentFirst row health then incident health else .ok () with
    | .error error => (.error error, db)
    | .ok () =>
      match reconcileRun row.id health now db with
      | .error error => (.error error, db)
      | .ok (updated, db') =>
        reconcileAll incident now rest (if updated then recovered + 1 else recovered) db'

/-- `reconcilePersistedResults`; `incident` is what the incident repository does with a result. -/
def reconcilePersistedResults (incident : HealthRun → Except String Unit) (now : Date)
    (db : HealthDatabase) : Except String Nat × HealthDatabase :=
  reconcileAll incident now db.candidates 0 db

end SellerAgents.HealthScheduler
