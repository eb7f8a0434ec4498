import Mathlib.Order.Lattice
import SellerAgents.Health.Suite
import SellerAgents.Relational.Table

open Relational SellerAgents.Health

namespace SellerAgents.HealthRetention

/-- An observation without a session; `δ` has the facets that the compact state only copies. -/
structure NoSessionObservationResult (δ : Type) where
  providerId : String
  surfaceId : String
  targetKey : String
  strategyId : String
  strategyRevision : Nat
  classification : HealthState
  classificationBasis : String
  surfaceOutcome : String
  blocker : String
  /-- `new Date(observation.observedAt)`, none when it is invalid. -/
  observedAt : Option Int
  details : δ

/-- `compactNoSessionState(observation)`. -/
structure CompactNoSessionState (δ : Type) where
  classification : HealthState
  classificationBasis : String
  surfaceOutcome : String
  blocker : String
  details : δ

structure RetentionScope where
  providerId : String
  surfaceId : String
  targetKey : String
  strategyId : String
  strategyRevision : Nat
  browserFamily : String
  profileRevisionId : String
  profileRevision : Nat

/-- What `hashJson` digests. -/
inductive HashInput (δ : Type) where
  | compact (summary : CompactNoSessionState δ)
  | scope (scope : RetentionScope)

/-- A receipt of a run, with its id among the run ids `ρ`. -/
structure ProjectionReceipt (ρ : Type) where
  runId : ρ
  healthState : HealthState
  browserFamily : String
  profileRevisionId : String
  profileRevision : Nat
  completedAt : Int

/-- A row of `health_no_session_scope_states`. -/
structure ScopeState (ρ : Type) where
  scopeSha256 : String
  providerId : String
  observationSurfaceId : String
  targetKey : String
  strategyId : String
  strategyRevision : Nat
  browserFamily : String
  latestRunId : ρ
  latestNormalizedResultSha256 : String
  latestHealthState : HealthState
  latestClassificationBasis : String
  latestSurfaceOutcome : String
  latestBlocker : String
  latestObservedAt : Int
  lastAttemptAt : Int
  lastVerifiedAt : Option Int

/-- A row of `health_no_session_recent_states`. -/
structure RecentState (ρ δ : Type) where
  scopeSha256 : String
  slot : Nat
  normalizedResultSha256 : String
  healthState : HealthState
  classificationBasis : String
  surfaceOutcome : String
  blocker : String
  summary : CompactNoSessionState δ
  firstSeenAt : Int
  lastSeenAt : Int
  repeatCount : Nat
  latestRunId : ρ

/-- The projection columns of `health_no_session_run_receipts`. -/
structure RunReceipt (ρ : Type) where
  runId : ρ
  normalizedResultSha256 : Option String
  projectionAppliedAt : Option Int

structure CompactDatabase (ρ δ : Type) where
  scopeStates : List (ScopeState ρ) := []
  recentStates : List (RecentState ρ δ) := []
  receipts : List (RunReceipt ρ) := []

inductive CompactFailure where
  | HEALTH_RETENTION_CLASSIFICATION_MISMATCH
  | HEALTH_RETENTION_OBSERVED_AT_INVALID
  | HEALTH_RETENTION_SCOPE_STATE_MISSING
  | HEALTH_RETENTION_SCOPE_IDENTITY_CONFLICT
  | HEALTH_RETENTION_RECEIPT_PROJECTION_CONFLICT

variable {ρ δ : Type}

def compactNoSessionState (observation : NoSessionObservationResult δ) : CompactNoSessionState δ where
  classification := observation.classification
  classificationBasis := observation.classificationBasis
  surfaceOutcome := observation.surfaceOutcome
  blocker := observation.blocker
  details := observation.details

/-- The part of the receipt and the observation that a retention scope is made of. -/
def retentionScope (receipt : ProjectionReceipt ρ) (observation : NoSessionObservationResult δ) :
    RetentionScope where
  providerId := observation.providerId
  surfaceId := observation.surfaceId
  targetKey := observation.targetKey
  strategyId := observation.strategyId
  strategyRevision := observation.strategyRevision
  browserFamily := receipt.browserFamily
  profileRevisionId := receipt.profileRevisionId
  profileRevision := receipt.profileRevision

section Hash

variable (hashJson : HashInput δ → String)

def normalizedNoSessionResultSha256 (observation : NoSessionObservationResult δ) : String :=
  hashJson (.compact (compactNoSessionState observation))

def noSessionRetentionScopeSha256 (receipt : ProjectionReceipt ρ)
    (observation : NoSessionObservationResult δ) : String :=
  hashJson (.scope (retentionScope receipt observation))

end Hash

/-- The time of an observation with its run, which decide between two observations. -/
structure Sighting (ρ : Type) where
  observedAt : Int
  runId : ρ
deriving DecidableEq

section Order

/-! The texts of run ids and the uuids have one order. -/

variable [LinearOrder ρ]

/-- `isAfter(at, runId, otherAt, otherRunId)`. -/
def isAfter (sighting other : Sighting ρ) : Bool :=
  other.observedAt < sighting.observedAt ||
    (sighting.observedAt = other.observedAt && other.runId < sighting.runId)

def RecentState.sighting (row : RecentState ρ δ) : Sighting ρ := ⟨row.lastSeenAt, row.latestRunId⟩

def ScopeState.sighting (state : ScopeState ρ) : Sighting ρ :=
  ⟨state.latestObservedAt, state.latestRunId⟩

/-- What a projection writes of its observation. -/
structure Incoming (ρ δ : Type) where
  scopeSha256 : String
  normalizedResultSha256 : String
  observation : NoSessionObservationResult δ
  receipt : ProjectionReceipt ρ
  observedAt : Int

def Incoming.sighting (incoming : Incoming ρ δ) : Sighting ρ :=
  ⟨incoming.observedAt, incoming.receipt.runId⟩

/-- The state row that the first observation of a scope inserts. -/
def Incoming.state (incoming : Incoming ρ δ) : ScopeState ρ where
  scopeSha256 := incoming.scopeSha256
  providerId := incoming.observation.providerId
  observationSurfaceId := incoming.observation.surfaceId
  targetKey := incoming.observation.targetKey
  strategyId := incoming.observation.strategyId
  strategyRevision := incoming.observation.strategyRevision
  browserFamily := incoming.receipt.browserFamily
  latestRunId := incoming.receipt.runId
  latestNormalizedResultSha256 := incoming.normalizedResultSha256
  latestHealthState := incoming.observation.classification
  latestClassificationBasis := incoming.observation.classificationBasis
  latestSurfaceOutcome := incoming.observation.surfaceOutcome
  latestBlocker := incoming.observation.blocker
  latestObservedAt := incoming.observedAt
  lastAttemptAt := incoming.receipt.completedAt
  lastVerifiedAt :=
    if incoming.observation.classification = .UNKNOWN then none else some incoming.observedAt

/-- `INSERT … ON CONFLICT (scope_sha256) DO NOTHING`. -/
def insertScopeState (states : List (ScopeState ρ)) (state : ScopeState ρ) : List (ScopeState ρ) :=
  if states.any (·.scopeSha256 = state.scopeSha256) then states else states ++ [state]

/-- Whether a state row is not of the scope that its digest stands for. -/
def identityConflict (state : ScopeState ρ) (incoming : Incoming ρ δ) : Bool :=
  state.providerId ≠ incoming.observation.providerId ||
  state.observationSurfaceId ≠ incoming.observation.surfaceId ||
  state.targetKey ≠ incoming.observation.targetKey ||
  state.strategyId ≠ incoming.observation.strategyId ||
  state.strategyRevision ≠ incoming.observation.strategyRevision ||
  state.browserFamily ≠ incoming.receipt.browserFamily

/-- The update of a state row by a later observation of its scope. -/
def ScopeState.observed (state : ScopeState ρ) (incoming : Incoming ρ δ) : ScopeState ρ :=
  let newest := isAfter incoming.sighting state.sighting
  let lastAttemptAt :=
    if state.lastAttemptAt < incoming.receipt.completedAt then incoming.receipt.completedAt
    else state.lastAttemptAt
  let lastVerifiedAt :=
    if incoming.observation.classification ≠ .UNKNOWN ∧
        state.lastVerifiedAt.all (· < incoming.observedAt) = true then some incoming.observedAt
    else state.lastVerifiedAt
  { state with
    latestRunId := if newest then incoming.receipt.runId else state.latestRunId
    latestNormalizedResultSha256 :=
      if newest then incoming.normalizedResultSha256 else state.latestNormalizedResultSha256
    latestHealthState :=
      if newest then incoming.observation.classification else state.latestHealthState
    latestClassificationBasis :=
      if newest then incoming.observation.classificationBasis else state.latestClassificationBasis
    latestSurfaceOutcome :=
      if newest then incoming.observation.surfaceOutcome else state.latestSurfaceOutcome
    latestBlocker := if newest then incoming.observation.blocker else state.latestBlocker
    latestObservedAt := if newest then incoming.observedAt else state.latestObservedAt
    lastAttemptAt
    lastVerifiedAt }

/-! The recent states of a scope. -/

/-- The row of a new result in a slot. -/
def Incoming.entry (incoming : Incoming ρ δ) (slot : Nat) : RecentState ρ δ where
  scopeSha256 := incoming.scopeSha256
  slot := slot
  normalizedResultSha256 := incoming.normalizedResultSha256
  healthState := incoming.observation.classification
  classificationBasis := incoming.observation.classificationBasis
  surfaceOutcome := incoming.observation.surfaceOutcome
  blocker := incoming.observation.blocker
  summary := compactNoSessionState incoming.observation
  firstSeenAt := incoming.observedAt
  lastSeenAt := incoming.observedAt
  repeatCount := 1
  latestRunId := incoming.receipt.runId

/-- The update of a row whose result is seen again. -/
def RecentState.repeated (row : RecentState ρ δ) (incoming : Incoming ρ δ) (replaceLatest : Bool) :
    RecentState ρ δ :=
  { row with
    firstSeenAt :=
      if incoming.observedAt < row.firstSeenAt then incoming.observedAt else row.firstSeenAt
    lastSeenAt := if row.lastSeenAt < incoming.observedAt then incoming.observedAt else row.lastSeenAt
    repeatCount := row.repeatCount + 1
    latestRunId := if replaceLatest then incoming.receipt.runId else row.latestRunId
    healthState := if replaceLatest then incoming.observation.classification else row.healthState
    classificationBasis :=
      if replaceLatest then incoming.observation.classificationBasis else row.classificationBasis
    surfaceOutcome :=
      if replaceLatest then incoming.observation.surfaceOutcome else row.surfaceOutcome
    blocker := if replaceLatest then incoming.observation.blocker else row.blocker
    summary := if replaceLatest then compactNoSessionState incoming.observation else row.summary }

/-- `ORDER BY last_seen_at,latest_run_id,slot`. -/
def rowLe (a b : RecentState ρ δ) : Bool :=
  isAfter b.sighting a.sighting || (a.sighting = b.sighting && a.slot ≤ b.slot)

def freeSlot (rows : List (RecentState ρ δ)) : Option Nat :=
  [1, 2, 3].find? fun slot => !(rows.map (·.slot)).contains slot

def oldestUnknown (sorted : List (RecentState ρ δ)) : Option (RecentState ρ δ) :=
  sorted.find? (·.healthState = .UNKNOWN)

def latestDecisive (sorted : List (RecentState ρ δ)) : Option (RecentState ρ δ) :=
  (sorted.filter (·.healthState ≠ .UNKNOWN)).getLast?

def Incoming.isDecisive (incoming : Incoming ρ δ) : Bool :=
  incoming.observation.classification ≠ .UNKNOWN

/-- The row that a new result may take the place of. -/
def replacement (sorted : List (RecentState ρ δ)) (incoming : Incoming ρ δ) :
    Option (RecentState ρ δ) :=
  let advancesDecisive := incoming.isDecisive &&
    (latestDecisive sorted).all fun row => isAfter incoming.sighting row.sighting
  if incoming.isDecisive then
    if advancesDecisive then (oldestUnknown sorted).orElse fun _ => sorted.head? else none
  else (oldestUnknown sorted).orElse fun _ => sorted.head?

/-- Whether it takes it; the replacement is the oldest unknown row when there is one. -/
def mayReplace (sorted : List (RecentState ρ δ)) (incoming : Incoming ρ δ)
    (row : RecentState ρ δ) : Bool :=
  if incoming.isDecisive && (oldestUnknown sorted).isSome then true
  else isAfter incoming.sighting row.sighting

/-- The part of the transaction on the recent states. -/
def recordRecent (table : List (RecentState ρ δ)) (incoming : Incoming ρ δ) :
    List (RecentState ρ δ) :=
  let rows := table.filter (·.scopeSha256 = incoming.scopeSha256)
  match rows.find? (·.normalizedResultSha256 = incoming.normalizedResultSha256) with
  | some matching =>
    updateWhere
      (fun row => row.scopeSha256 = incoming.scopeSha256 &&
        row.normalizedResultSha256 = incoming.normalizedResultSha256)
      (·.repeated incoming (isAfter incoming.sighting matching.sighting)) table
  | none =>
    match freeSlot rows with
    | some slot => table ++ [incoming.entry slot]
    | none =>
      let sorted := rows.mergeSort rowLe
      match replacement sorted incoming with
      | none => table
      | some row =>
        if mayReplace sorted incoming row then
          updateWhere (fun old => old.scopeSha256 = incoming.scopeSha256 && old.slot = row.slot)
            (fun old => incoming.entry old.slot) table
        else table

/-- The update of the receipt, which a replay finds done. -/
def applyReceipt (receipts : List (RunReceipt ρ)) (incoming : Incoming ρ δ) (projectedAt : Int) :
    Except CompactFailure (List (RunReceipt ρ)) :=
  let open' := fun row : RunReceipt ρ => row.runId = incoming.receipt.runId &&
    row.normalizedResultSha256.isNone && row.projectionAppliedAt.isNone
  if receipts.any open' then
    .ok (updateWhere open' (fun row => { row with
      normalizedResultSha256 := some incoming.normalizedResultSha256
      projectionAppliedAt := some projectedAt }) receipts)
  else if ((receipts.find? (·.runId = incoming.receipt.runId)).bind (·.normalizedResultSha256)) ≠
      some incoming.normalizedResultSha256 then
    .error .HEALTH_RETENTION_RECEIPT_PROJECTION_CONFLICT
  else .ok receipts

/-- The transaction after its checks of the observation. -/
def recordIncoming (db : CompactDatabase ρ δ) (incoming : Incoming ρ δ) (projectedAt : Int) :
    Except CompactFailure (CompactDatabase ρ δ) :=
  let states := insertScopeState db.scopeStates incoming.state
  match states.find? (·.scopeSha256 = incoming.scopeSha256) with
  | none => .error .HEALTH_RETENTION_SCOPE_STATE_MISSING
  | some state =>
    if identityConflict state incoming then .error .HEALTH_RETENTION_SCOPE_IDENTITY_CONFLICT
    else
      (applyReceipt db.receipts incoming projectedAt).map fun receipts =>
        { scopeStates := updateWhere (·.scopeSha256 = incoming.scopeSha256)
            (fun _ => state.observed incoming) states
          recentStates := recordRecent db.recentStates incoming
          receipts }

/-- `recordNoSessionCompactStateInTransaction`; a failure rolls the transaction back. -/
def recordNoSessionCompactStateInTransaction (hashJson : HashInput δ → String)
    (db : CompactDatabase ρ δ) (receipt : ProjectionReceipt ρ)
    (observation : NoSessionObservationResult δ) (projectedAt : Int) :
    Except CompactFailure (String × CompactDatabase ρ δ) :=
  if observation.classification ≠ receipt.healthState then
    .error .HEALTH_RETENTION_CLASSIFICATION_MISMATCH
  else match observation.observedAt with
    | none => .error .HEALTH_RETENTION_OBSERVED_AT_INVALID
    | some observedAt =>
      let normalizedResultSha256 := normalizedNoSessionResultSha256 hashJson observation
      let incoming : Incoming ρ δ :=
        { scopeSha256 := noSessionRetentionScopeSha256 hashJson receipt observation
          normalizedResultSha256, observation, receipt, observedAt }
      (recordIncoming db incoming projectedAt).map fun db => (normalizedResultSha256, db)

end Order

end SellerAgents.HealthRetention
