import Mathlib.Data.List.MinMax
import Mathlib.Data.List.Sort
import Mathlib.Data.Prod.Lex
import SellerAgents.Health.Classifier
import SellerAgents.Subscriptions.Lifecycle

namespace SellerAgents.Health

open Subscriptions (Date)

inductive HealthLevel where
  | H0 | H1 | H2 | H3 | H4 | H5
deriving DecidableEq

structure HealthIncidentScopeIdentity where
  provider : String
  surface : String
  target : String
  browserFamily : String
  healthLevel : HealthLevel
  profileId : String
  healthSuiteMachineKey : String
deriving DecidableEq

def healthIncidentScopeIdentity (scope : HealthScope) (healthLevel : HealthLevel) :
    HealthIncidentScopeIdentity where
  provider := scope.adapterFamilyKey
  surface := scope.surfaceKey
  target := scope.variant.getD "default"
  browserFamily := scope.browserFamily
  healthLevel := healthLevel
  profileId := scope.profileId
  healthSuiteMachineKey := scope.healthSuiteMachineKey

/-- The digests of an incident's scope and of its key. -/
structure Digests (Digest : Type) where
  healthIncidentScopeSha256 : HealthIncidentScopeIdentity → Digest
  healthIncidentKeySha256 : HealthIncidentScopeIdentity → Option BaselineContourKey → Digest

def findingPriority : ProductFinding → Nat
  | .BROKEN => 0
  | .DEGRADED => 1
  | .DRIFT => 2

/-- The place of a contour in `INCIDENT_CONTOUR_ORDER`. -/
def contourOrder : BaselineContourKey → Nat
  | .C01_PAGE_IDENTITY => 0
  | .C02_CONVERSATION_ROOT => 1
  | .C03_COMPOSER_ROOT => 2
  | .C04_COMPOSER_INPUT => 3
  | .C05_SEND_CONTROL => 4
  | .C06_BUSY_STOP_STATE => 5
  | .C07_ASSISTANT_MESSAGE => 6
  | .C08_MESSAGE_COMPLETION => 7
  | .C09_COMMAND_CODE_BLOCK_SURFACE => 8
  | .C10_NATIVE_COPY_CONTROL => 9
  | .C11_CONVERSATION_IDENTITY => 10
  | .C12_DELIVERY_INSERTION_PATH => 11
  | .C13_BLOCKING_STATE => 12

/-- Whether a finding is sorted before another, or with it. -/
def sortsBefore (left right : HealthProductFinding) : Bool :=
  if findingPriority left.finding ≠ findingPriority right.finding then
    findingPriority left.finding < findingPriority right.finding
  else contourOrder left.contourKey ≤ contourOrder right.contourKey

def selectRootContour (productFindings : List HealthProductFinding) : Option BaselineContourKey :=
  (productFindings.insertionSort fun left right => sortsBefore left right).head?.map (·.contourKey)

def isIncidentWorthyHealthState (state : HealthState) : Bool :=
  state = .DRIFT || state = .DEGRADED || state = .BROKEN

inductive HealthIncidentStatus where
  | OPEN | INVESTIGATING | CANDIDATE_FIX | CANDIDATE_PASS | CANARY_ROLLOUT | ROLLOUT | RESOLVED
  | FALSE_POSITIVE | MAINTENANCE
deriving DecidableEq

/-- The statuses other than the terminal ones. -/
def isActiveIncidentStatus (status : HealthIncidentStatus) : Bool :=
  status ≠ .RESOLVED && status ≠ .FALSE_POSITIVE

inductive IncidentError where
  | HEALTH_SUITE_REVISION_NOT_FOUND | HEALTH_RUN_CLASSIFICATION_MISMATCH
  | HEALTH_INCIDENT_DEDUP_RACE_UNRESOLVED
  | classification (error : HealthError)

/-- A completed baseline run, with the suite of its revision and its results. -/
structure HealthRun (Id : Type) where
  id : Id
  suite : Option HealthSuiteDefinition
  results : List HealthContourResult
  healthLevel : HealthLevel
  healthState : HealthState
  operatorMaintenance : Bool
  completedAt : Date
deriving DecidableEq

/-- A row of the incident table. -/
structure IncidentRow (Id Digest : Type) where
  /-- The ids of a table are numbered as its rows are inserted. -/
  id : Nat
  incidentScopeSha256 : Digest
  incidentKeySha256 : Digest
  status : HealthIncidentStatus
  firstSeenRunId : Id
  latestSeenRunId : Id
  rootContourKey : Option BaselineContourKey
  firstSeenAt : Date
  lastSeenAt : Date
  lastObservedRunId : Id
  lastObservedAt : Date
  resolvedByRunId : Option Id
  resolvedAt : Option Date
deriving DecidableEq

inductive IncidentAction where
  | OPENED | UPDATED | RESOLVED | MAINTENANCE | IGNORED | NOOP
deriving DecidableEq

structure HealthIncidentProcessingResult where
  action : IncidentAction
  incidentIds : List Nat

/-- What a run says of an incident. -/
inductive ObservedState where
  | FAILURE | MAINTENANCE | HEALTHY
deriving DecidableEq

section Repository

variable {Id Digest : Type} [LinearOrder Id] [DecidableEq Digest]

def isAfter (completedAt : Date) (runId : Id) (otherAt : Date) (otherRunId : Id) : Bool :=
  otherAt < completedAt || (completedAt = otherAt && otherRunId < runId)

/-- The classification of a run, which has to be the persisted one, and the run's suite. -/
def getClassification (run : HealthRun Id) :
    Except IncidentError (HealthClassificationResult × HealthSuiteDefinition) :=
  match run.suite with
  | none => .error .HEALTH_SUITE_REVISION_NOT_FOUND
  | some suite =>
    match classifyHealthDetailed ⟨suite, run.results, run.operatorMaintenance⟩ with
    | .error error => .error (.classification error)
    | .ok classification =>
      if classification.state ≠ run.healthState then .error .HEALTH_RUN_CLASSIFICATION_MISMATCH
      else .ok (classification, suite)

/-- The place of a run in the order of completion. -/
abbrev Stamp (Id : Type) : Type := Date ×ₗ Id

namespace IncidentRow

/-- What a row has observed last. -/
def lastObserved (row : IncidentRow Id Digest) : Stamp Id :=
  toLex (row.lastObservedAt, row.lastObservedRunId)

variable (run : HealthRun Id) (row : IncidentRow Id Digest)

/-- The row once it has been observed by a run. -/
def observed : IncidentRow Id Digest :=
  { row with lastObservedRunId := run.id, lastObservedAt := run.completedAt }

def resolved : IncidentRow Id Digest :=
  { row.observed run with
    status := .RESOLVED, resolvedByRunId := some run.id, resolvedAt := some run.completedAt }

def maintained : IncidentRow Id Digest := { row.observed run with status := .MAINTENANCE }

/-- Whether a run is later than the latest failure of an incident. -/
def latestFailure : Bool := isAfter run.completedAt run.id row.lastSeenAt row.latestSeenRunId

def failed : IncidentRow Id Digest :=
  { row.observed run with
    status := if row.status = .MAINTENANCE then .OPEN else row.status
    latestSeenRunId := if row.latestFailure run then run.id else row.latestSeenRunId
    lastSeenAt := if row.latestFailure run then run.completedAt else row.lastSeenAt }

end IncidentRow

/-- What a run does with an incident: the action, and the update of its row. -/
def observation (incident : IncidentRow Id Digest) (run : HealthRun Id) (state : ObservedState) :
    IncidentAction × (IncidentRow Id Digest → IncidentRow Id Digest) :=
  if !isAfter run.completedAt run.id incident.lastObservedAt incident.lastObservedRunId then
    (.IGNORED, id)
  else
    match state with
    | .HEALTHY =>
      if !isActiveIncidentStatus incident.status then (.IGNORED, id)
      else if incident.status = .OPEN || incident.status = .MAINTENANCE then
        (.RESOLVED, IncidentRow.resolved run)
      else (.IGNORED, IncidentRow.observed run)
    | .MAINTENANCE =>
      if incident.status ≠ .OPEN && incident.status ≠ .MAINTENANCE then
        (.IGNORED, IncidentRow.observed run)
      else (.MAINTENANCE, IncidentRow.maintained run)
    | .FAILURE =>
      (if incident.latestFailure run then .UPDATED else .IGNORED, IncidentRow.failed run)

/-- `UPDATE health_incidents SET … WHERE id=$1`. -/
def updateRow (t : List (IncidentRow Id Digest)) (id : Nat)
    (set : IncidentRow Id Digest → IncidentRow Id Digest) : List (IncidentRow Id Digest) :=
  t.map fun row => if row.id = id then set row else row

def updateIncidentObservation (t : List (IncidentRow Id Digest)) (incident : IncidentRow Id Digest)
    (run : HealthRun Id) (state : ObservedState) : IncidentAction × List (IncidentRow Id Digest) :=
  let (action, set) := observation incident run state
  (action, updateRow t incident.id set)

def activeByKey (t : List (IncidentRow Id Digest)) (incidentKeySha256 : Digest) :
    Option (IncidentRow Id Digest) :=
  t.find? fun row => row.incidentKeySha256 = incidentKeySha256 && isActiveIncidentStatus row.status

def activeByScope (t : List (IncidentRow Id Digest)) (incidentScopeSha256 : Digest) :
    List (IncidentRow Id Digest) :=
  t.filter fun row =>
    row.incidentScopeSha256 = incidentScopeSha256 && isActiveIncidentStatus row.status

/-- The terminal incident of a key that has observed something last. -/
def latestTerminalByKey (t : List (IncidentRow Id Digest)) (incidentKeySha256 : Digest) :
    Option (IncidentRow Id Digest) :=
  (t.filter fun row =>
    row.incidentKeySha256 = incidentKeySha256 && !isActiveIncidentStatus row.status).argmax
    IncidentRow.lastObserved

/-- The row of a new incident. -/
def newIncident (t : List (IncidentRow Id Digest)) (incidentScope incidentKey : Digest)
    (run : HealthRun Id) (rootContourKey : Option BaselineContourKey) : IncidentRow Id Digest where
  id := t.length
  incidentScopeSha256 := incidentScope
  incidentKeySha256 := incidentKey
  status := .OPEN
  firstSeenRunId := run.id
  latestSeenRunId := run.id
  rootContourKey := rootContourKey
  firstSeenAt := run.completedAt
  lastSeenAt := run.completedAt
  lastObservedRunId := run.id
  lastObservedAt := run.completedAt
  resolvedByRunId := none
  resolvedAt := none

/-- `INSERT … ON CONFLICT DO NOTHING`: nothing when the key has an active incident. -/
def insertIncident (t : List (IncidentRow Id Digest)) (row : IncidentRow Id Digest) :
    Option (List (IncidentRow Id Digest)) :=
  if (activeByKey t row.incidentKeySha256).isSome then none else some (t ++ [row])

/-- The loop over the active incidents of a scope. -/
def observeScope (t : List (IncidentRow Id Digest)) (incidentScope : Digest) (run : HealthRun Id)
    (state : ObservedState) (counted : IncidentAction) :
    List Nat × List (IncidentRow Id Digest) :=
  (activeByScope t incidentScope).foldl
    (fun acc incident =>
      let (action, t') := updateIncidentObservation acc.2 incident run state
      (if action = counted then acc.1 ++ [incident.id] else acc.1, t'))
    ([], t)

/-- A failing run. -/
def observeFailure (t : List (IncidentRow Id Digest)) (incidentScope incidentKey : Digest)
    (run : HealthRun Id) (rootContourKey : Option BaselineContourKey) :
    Except IncidentError (HealthIncidentProcessingResult × List (IncidentRow Id Digest)) :=
  match activeByKey t incidentKey with
  | some active =>
    let (action, t') := updateIncidentObservation t active run .FAILURE
    .ok (⟨action, [active.id]⟩, t')
  | none =>
    match (latestTerminalByKey t incidentKey).filter fun terminal =>
        !isAfter run.completedAt run.id terminal.lastObservedAt terminal.lastObservedRunId with
    | some terminal => .ok (⟨.IGNORED, [terminal.id]⟩, t)
    | none =>
      let row := newIncident t incidentScope incidentKey run rootContourKey
      match insertIncident t row with
      | some t' => .ok (⟨.OPENED, [row.id]⟩, t')
      | none =>
        match activeByKey t incidentKey with
        | none => .error .HEALTH_INCIDENT_DEDUP_RACE_UNRESOLVED
        | some raced =>
          let (action, t') := updateIncidentObservation t raced run .FAILURE
          .ok (⟨action, [raced.id]⟩, t')

def processCompletedHealthRun (d : Digests Digest) (t : List (IncidentRow Id Digest))
    (run : HealthRun Id) :
    Except IncidentError (HealthIncidentProcessingResult × List (IncidentRow Id Digest)) := do
  let (classification, suite) ← getClassification run
  let identity := healthIncidentScopeIdentity suite.scope run.healthLevel
  let rootContourKey := selectRootContour classification.productFindings
  let incidentScope := d.healthIncidentScopeSha256 identity
  let incidentKey := d.healthIncidentKeySha256 identity rootContourKey
  match run.healthState with
  | .UNKNOWN => return (⟨.NOOP, []⟩, t)
  | .HEALTHY =>
    let (resolved, t') := observeScope t incidentScope run .HEALTHY .RESOLVED
    return (⟨if resolved.isEmpty then .NOOP else .RESOLVED, resolved⟩, t')
  | .MAINTENANCE =>
    let (changed, t') := observeScope t incidentScope run .MAINTENANCE .MAINTENANCE
    return (⟨if changed.isEmpty then .NOOP else .MAINTENANCE, changed⟩, t')
  | state =>
    if !isIncidentWorthyHealthState state then return (⟨.NOOP, []⟩, t)
    else observeFailure t incidentScope incidentKey run rootContourKey

/-- The table after a call; one that throws is rolled back. -/
def handleRun (d : Digests Digest) (t : List (IncidentRow Id Digest)) (run : HealthRun Id) :
    List (IncidentRow Id Digest) :=
  match processCompletedHealthRun d t run with
  | .ok (_, t') => t'
  | .error _ => t

def handleRuns (d : Digests Digest) (t : List (IncidentRow Id Digest))
    (runs : List (HealthRun Id)) : List (IncidentRow Id Digest) :=
  runs.foldl (handleRun d) t

end Repository

end SellerAgents.Health
