import SellerAgents.Health.ComparisonLaws
import SellerAgents.Sync.State

namespace SellerAgents.Health

open Js
open Sync (bounded isUuid safeNat)

inductive EvaluationPhase where
  | H4_CANDIDATE | H5_CANARY | H5_POST_ROLLOUT
deriving DecidableEq

inductive EvaluationMonitoringLayer where
  | NO_SESSION | AUTHENTICATED_DEEP
deriving DecidableEq

inductive EvaluationOutcome where
  | PASS | FAIL | INCONCLUSIVE | ENVIRONMENT_BLOCKED | INVALID_CANDIDATE | NOT_APPLICABLE
deriving DecidableEq

inductive H5Recommendation where
  | CONTINUE | HOLD | RESTRICT | ROLLBACK_RECOMMENDED | INCONCLUSIVE
deriving DecidableEq

inductive H5Outcome where
  | STABLE | REGRESSION | RECOVERED | INCONCLUSIVE | CANARY_ASSESSMENT
deriving DecidableEq

inductive CandidateReadiness where
  | PROFILE_CANDIDATE_AVAILABLE | NO_PRODUCT_PROFILE_AUTHORITY | CANDIDATE_NOT_PRESENT
  | NOT_OBSERVABLE_IN_THIS_LAYER | SESSION_REQUIRED_FOR_DEEP_EVALUATION
deriving DecidableEq

inductive CandidateProfileState where
  | CANDIDATE | PUBLISHED
deriving DecidableEq

inductive EvaluationError where
  | SCHEMA | H4_PHASE_REQUIRED | H5_PHASE_REQUIRED | H5_REQUIRES_PRODUCT_OWNED_PUBLISHED_PROFILE

structure RevisionReference where
  id : JsString
  revision : Nat
  contentSha256 : JsString

/-- What an identity and the scope of an observation have in common. -/
structure EvaluationScope where
  provider : JsString
  surface : JsString
  target : JsString
  variant : Option JsString
  monitoringLayer : EvaluationMonitoringLayer
  browserFamily : JsString
  browserVersion : JsString
  environmentClass : JsString
  healthSuiteMachineKey : JsString
  healthSuiteRevision : Nat
deriving DecidableEq

/-- Which revisions an evaluation compares, and where. -/
structure EvaluationIdentity : Type extends EvaluationScope where
  baselineProfileRevisionId : JsString
  candidateProfileRevisionId : JsString
  phase : EvaluationPhase

structure EvaluationObservationScope : Type extends EvaluationScope where
  profileRevisionId : JsString

/-- `HealthRunSnapshotSchema`, with what a comparison reads of it. -/
structure EvaluatedRun (Evidence : Type) : Type extends HealthRunSnapshot Evidence where
  executionId : JsString
  scope : EvaluationObservationScope
  operatorMaintenance : Bool
  evaluatedAt : Int

structure SuiteAuthority where
  machineKey : JsString
  revision : Nat

structure H4EvaluationResult (Evidence : Type) where
  evaluationKey : JsString
  identity : EvaluationIdentity
  outcome : EvaluationOutcome
  baseline : EvaluatedRun Evidence
  candidate : EvaluatedRun Evidence
  comparison : Option (H4Comparison Evidence)
  candidateRevision : RevisionReference
  suiteAuthority : SuiteAuthority
  environmentAuthority : JsString
  changedDeclarativeFieldPaths : List JsString
  decisiveReason : JsString
  evaluatedAt : Int
  executionIds : List JsString

structure H5EvaluationResult (Evidence : Type) where
  evaluationKey : JsString
  identity : EvaluationIdentity
  phase : EvaluationPhase
  outcome : H5Outcome
  recommendation : H5Recommendation
  h4Comparison : Option (H4Comparison Evidence)
  evidenceReferences : List Evidence
  executionIds : List JsString
  executionAuthority : Bool
  evaluatedAt : Int

/-- The names of `BrowserFamilies`. -/
def browserFamilies : List JsString :=
  ["chrome", "opera", "yandex_chromium", "firefox", "safari"].map units

def EvaluationScope.isValid (scope : EvaluationScope) : Bool :=
  bounded 64 scope.provider && bounded 128 scope.surface && bounded 128 scope.target &&
  scope.variant.all (bounded 128) && browserFamilies.contains scope.browserFamily &&
  bounded 64 scope.browserVersion && bounded 128 scope.environmentClass &&
  bounded 64 scope.healthSuiteMachineKey && 1 ≤ scope.healthSuiteRevision &&
  safeNat scope.healthSuiteRevision

/-- `EvaluationIdentitySchema`. -/
def EvaluationIdentity.isValid (identity : EvaluationIdentity) : Bool :=
  identity.toEvaluationScope.isValid && isUuid identity.baselineProfileRevisionId &&
  isUuid identity.candidateProfileRevisionId

def EvaluatedRun.isValid {Evidence : Type} (run : EvaluatedRun Evidence) : Bool :=
  isUuid run.executionId && run.scope.toEvaluationScope.isValid &&
  isUuid run.scope.profileRevisionId && run.contours.all (·.isValid) &&
  run.contours.length ≤ 13 && run.evidence.length ≤ 104

/-- `H4EvaluationResultSchema`, for a result of parsed runs. -/
def H4EvaluationResult.isValid {Evidence : Type} (value : H4EvaluationResult Evidence) : Bool :=
  value.changedDeclarativeFieldPaths.all (bounded 256) &&
  value.changedDeclarativeFieldPaths.length ≤ 64 && bounded 512 value.decisiveReason

def parse {α : Type} (isValid : α → Bool) (value : α) : Except EvaluationError α :=
  if isValid value then .ok value else .error .SCHEMA

variable {Evidence : Type}

/-- `comparable`; the texts it compares hold the common fields in one order. -/
def comparable (identity : EvaluationIdentity) (baseline candidate : EvaluatedRun Evidence) :
    Bool :=
  baseline.scope.toEvaluationScope = identity.toEvaluationScope &&
  candidate.scope.toEvaluationScope = identity.toEvaluationScope &&
  baseline.scope.profileRevisionId = identity.baselineProfileRevisionId &&
  candidate.scope.profileRevisionId = identity.candidateProfileRevisionId

def readinessName : CandidateReadiness → JsString
  | .PROFILE_CANDIDATE_AVAILABLE => units "PROFILE_CANDIDATE_AVAILABLE"
  | .NO_PRODUCT_PROFILE_AUTHORITY => units "NO_PRODUCT_PROFILE_AUTHORITY"
  | .CANDIDATE_NOT_PRESENT => units "CANDIDATE_NOT_PRESENT"
  | .NOT_OBSERVABLE_IN_THIS_LAYER => units "NOT_OBSERVABLE_IN_THIS_LAYER"
  | .SESSION_REQUIRED_FOR_DEEP_EVALUATION => units "SESSION_REQUIRED_FOR_DEEP_EVALUATION"

/-- What is left abstract of the modules of profiles and adapters: the digest of an identity, and
the check of a candidate profile with the message it throws. -/
structure EvaluationPorts (Profile : Type) where
  evaluationKey : EvaluationIdentity → JsString
  validateH0ProfileCandidate : Profile → Except JsString RevisionReference

section Evaluate

variable {Profile : Type} (ports : EvaluationPorts Profile)

def validateCandidateReference (identity : EvaluationIdentity) (candidateProfile : Profile) :
    Except JsString RevisionReference := do
  let reference ← ports.validateH0ProfileCandidate candidateProfile
  if reference.id ≠ identity.candidateProfileRevisionId then
    throw (units "H4_CANDIDATE_REVISION_ID_MISMATCH")
  return reference

def noRevision (identity : EvaluationIdentity) : RevisionReference :=
  { id := identity.candidateProfileRevisionId, revision := 1, contentSha256 := List.replicate 64 48 }

/-- `result` of an evaluation, before its own parse. -/
def h4Result (identity : EvaluationIdentity) (baseline candidate : EvaluatedRun Evidence)
    (candidateRevision : RevisionReference) (comparison : Option (H4Comparison Evidence))
    (outcome : EvaluationOutcome) (decisiveReason : JsString)
    (changedDeclarativeFieldPaths : List JsString) : H4EvaluationResult Evidence :=
  { evaluationKey := ports.evaluationKey identity
    identity, outcome, baseline, candidate, comparison, candidateRevision
    suiteAuthority :=
      { machineKey := identity.healthSuiteMachineKey, revision := identity.healthSuiteRevision }
    environmentAuthority := identity.environmentClass
    changedDeclarativeFieldPaths, decisiveReason
    evaluatedAt := candidate.evaluatedAt
    executionIds := [baseline.executionId, candidate.executionId] }

/-- Whether uncertainty of the environment stands behind an unknown state. -/
def environmentBlocked (baseline candidate : EvaluatedRun Evidence) : Bool :=
  (baseline.state = .UNKNOWN || candidate.state = .UNKNOWN) &&
  (baseline.contours ++ candidate.contours).any (·.environmentStatus = .UNCERTAIN)

def comparisonOutcome (comparison : H4Comparison Evidence) : EvaluationOutcome :=
  if comparison.contourRegressions.length > 0 then .FAIL
  else
    match comparison.matrixDecision with
    | .PASS => .PASS
    | .FAIL => .FAIL
    | .INCONCLUSIVE => .INCONCLUSIVE

def outcomeReason (outcome : EvaluationOutcome) : JsString :=
  if outcome = .PASS then units "candidate is no worse on every comparable contour"
  else if outcome = .FAIL then units "candidate regression proven by state or contour comparison"
  else units "comparability or environment evidence is insufficient"

/-- The evaluation of parsed inputs, before the parse of the result. -/
def assessCandidate (identity : EvaluationIdentity) (candidateProfile : Profile)
    (baseline candidate : EvaluatedRun Evidence) (changedDeclarativeFieldPaths : List JsString)
    (readiness : Option CandidateReadiness) : H4EvaluationResult Evidence :=
  match readiness.filter (· ≠ .PROFILE_CANDIDATE_AVAILABLE) with
  | some readiness =>
    h4Result ports identity baseline candidate (noRevision identity) none .NOT_APPLICABLE
      (readinessName readiness) changedDeclarativeFieldPaths
  | none =>
    match validateCandidateReference ports identity candidateProfile with
    | .error message =>
      h4Result ports identity baseline candidate (noRevision identity) none .INVALID_CANDIDATE
        (message.take 256) changedDeclarativeFieldPaths
    | .ok candidateRevision =>
      if baseline.operatorMaintenance || candidate.operatorMaintenance then
        h4Result ports identity baseline candidate candidateRevision none .INCONCLUSIVE
          (units "maintenance is not candidate quality") changedDeclarativeFieldPaths
      else if !comparable identity baseline candidate then
        h4Result ports identity baseline candidate candidateRevision none .INCONCLUSIVE
          (units "baseline and candidate observations are not comparable")
          changedDeclarativeFieldPaths
      else if environmentBlocked baseline candidate then
        h4Result ports identity baseline candidate candidateRevision none .ENVIRONMENT_BLOCKED
          (units "environment uncertainty prevents candidate comparison")
          changedDeclarativeFieldPaths
      else
        let comparison := makeComparison baseline.toHealthRunSnapshot candidate.toHealthRunSnapshot
        let outcome := comparisonOutcome comparison
        h4Result ports identity baseline candidate candidateRevision (some comparison) outcome
          (outcomeReason outcome) changedDeclarativeFieldPaths

def evaluateH4Candidate (identity : EvaluationIdentity) (candidateProfile : Profile)
    (baseline candidate : EvaluatedRun Evidence) (changedDeclarativeFieldPaths : List JsString)
    (readiness : Option CandidateReadiness) :
    Except EvaluationError (H4EvaluationResult Evidence) := do
  let identity ← parse (·.isValid) identity
  if identity.phase ≠ .H4_CANDIDATE then throw .H4_PHASE_REQUIRED
  let baseline ← parse (·.isValid) baseline
  let candidate ← parse (·.isValid) candidate
  parse (·.isValid)
    (assessCandidate ports identity candidateProfile baseline candidate
      changedDeclarativeFieldPaths readiness)

def h5Result (identity : EvaluationIdentity) (outcome : H5Outcome)
    (recommendation : H5Recommendation) (baseline candidate : EvaluatedRun Evidence)
    (comparison : Option (H4Comparison Evidence)) : H5EvaluationResult Evidence :=
  { evaluationKey := ports.evaluationKey identity
    identity, phase := identity.phase, outcome, recommendation
    h4Comparison := comparison
    evidenceReferences := (comparison.map (·.evidenceReferences)).getD []
    executionIds := [baseline.executionId, candidate.executionId]
    executionAuthority := false
    evaluatedAt := candidate.evaluatedAt }

def postRolloutOutcome (baseline candidate : EvaluatedRun Evidence)
    (comparison : H4Comparison Evidence) : H5Outcome :=
  if comparison.matrixDecision = .INCONCLUSIVE then .INCONCLUSIVE
  else if candidate.state = .HEALTHY && baseline.state ≠ .HEALTHY then .RECOVERED
  else if comparison.matrixDecision = .PASS then .STABLE
  else .REGRESSION

def postRolloutRecommendation (outcome : H5Outcome) : H5Recommendation :=
  if outcome = .INCONCLUSIVE then .INCONCLUSIVE
  else if outcome = .REGRESSION then .RESTRICT
  else .CONTINUE

def canaryRecommendation (candidate : EvaluatedRun Evidence) (comparison : H4Comparison Evidence) :
    H5Recommendation :=
  let hasCoreRegression := comparison.contourRegressions.any (·.severity = .CORE)
  if comparison.matrixDecision = .INCONCLUSIVE then .INCONCLUSIVE
  else if candidate.state = .BROKEN || hasCoreRegression then .ROLLBACK_RECOMMENDED
  else if candidate.state = .DEGRADED || comparison.contourRegressions.length > 0 then .RESTRICT
  else if candidate.state = .DRIFT then .HOLD
  else .CONTINUE

def evaluateH5 (identity : EvaluationIdentity) (candidateProfileState : CandidateProfileState)
    (baseline candidate : EvaluatedRun Evidence) :
    Except EvaluationError (H5EvaluationResult Evidence) := do
  let identity ← parse (·.isValid) identity
  if identity.phase = .H4_CANDIDATE then throw .H5_PHASE_REQUIRED
  if candidateProfileState ≠ .PUBLISHED then throw .H5_REQUIRES_PRODUCT_OWNED_PUBLISHED_PROFILE
  let baseline ← parse (·.isValid) baseline
  let candidate ← parse (·.isValid) candidate
  if baseline.operatorMaintenance || candidate.operatorMaintenance ||
      !comparable identity baseline candidate then
    return h5Result ports identity .INCONCLUSIVE .INCONCLUSIVE baseline candidate none
  let comparison := makeComparison baseline.toHealthRunSnapshot candidate.toHealthRunSnapshot
  if identity.phase = .H5_POST_ROLLOUT then
    let outcome := postRolloutOutcome baseline candidate comparison
    return h5Result ports identity outcome (postRolloutRecommendation outcome) baseline candidate
      (some comparison)
  return h5Result ports identity .CANARY_ASSESSMENT (canaryRecommendation candidate comparison)
    baseline candidate (some comparison)

end Evaluate

end SellerAgents.Health
