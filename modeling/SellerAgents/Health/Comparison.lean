import SellerAgents.Health.Classifier

namespace SellerAgents.Health

open Js

/-- What a comparison reads of the snapshot of a run. -/
structure HealthRunSnapshot (Evidence : Type) where
  state : HealthState
  contours : List HealthContourResult
  evidence : List Evidence

/-- How a contour came out. -/
inductive ContourOutcome where
  | PASS | DRIFT | DEGRADED | BROKEN | UNKNOWN
deriving DecidableEq

/-- The outcomes from good to bad; what is unknown is worst. -/
def contourRank : ContourOutcome → Nat
  | .PASS => 0
  | .DRIFT => 1
  | .DEGRADED => 2
  | .BROKEN => 3
  | .UNKNOWN => 4

/-- The verdict on a result, without the suite. -/
def contourOutcome (result : Option HealthContourResult) : ContourOutcome :=
  match result.filter (·.environmentStatus ≠ .UNCERTAIN) with
  | none => .UNKNOWN
  | some result =>
    if result.observationStatus ≠ .PRESENT then
      if result.required && result.failureSeverity = .CORE then .BROKEN else .DEGRADED
    else if result.passed then .PASS
    else if result.selectsFallback && result.fallbackQuality = .APPROVED_EQUIVALENT &&
        (result.fallbackStrategyOutcomes.any fun attempt =>
          result.selectedStrategyId = some attempt.strategyId && attempt.outcome = .PASS) &&
        result.structuralOutcome = .PASS && result.behavioralOutcome = .PASS then .DRIFT
    else if result.required && result.failureSeverity = .CORE then .BROKEN
    else .DEGRADED

inductive H4MatrixDecision where
  | PASS | FAIL | INCONCLUSIVE
deriving DecidableEq

/-- `H4_COMPARISON_MATRIX`. -/
def comparisonMatrix (baseline candidate : HealthState) : H4MatrixDecision :=
  if baseline = .MAINTENANCE || candidate = .MAINTENANCE || baseline = .UNKNOWN ||
      candidate = .UNKNOWN then .INCONCLUSIVE
  else if baseline = .HEALTHY then
    if candidate = .HEALTHY then .PASS else .FAIL
  else if candidate = .HEALTHY then .PASS
  else if baseline = .DRIFT then
    if candidate = .DRIFT then .INCONCLUSIVE else .FAIL
  else .INCONCLUSIVE

/-- A contour that came out worse for the candidate. -/
structure ContourRegression where
  contourKey : BaselineContourKey
  baselineOutcome : ContourOutcome
  candidateOutcome : ContourOutcome
  severity : ContourFailureSeverity
  reason : String

/-- The comparison of a candidate with its baseline. -/
structure H4Comparison (Evidence : Type) where
  baselineState : HealthState
  candidateState : HealthState
  matrixDecision : H4MatrixDecision
  contourRegressions : List ContourRegression
  decisiveContours : List BaselineContourKey
  evidenceReferences : List Evidence

/-- The regression of one contour. -/
def contourRegression (baselineByKey candidateByKey : JsMap BaselineContourKey HealthContourResult)
    (key : BaselineContourKey) : Option ContourRegression :=
  let before := contourOutcome (baselineByKey.get key)
  let after := contourOutcome (candidateByKey.get key)
  if contourRank before < contourRank after then
    let result := (candidateByKey.get key).or (baselineByKey.get key)
    some
      { contourKey := key, baselineOutcome := before, candidateOutcome := after
        severity := (result.map (·.failureSeverity)).getD .CORE
        reason := "candidate contour is worse than baseline" }
  else none

/-- The keys of two maps, each at its first occurrence. -/
def comparedKeys (baselineByKey candidateByKey : JsMap BaselineContourKey HealthContourResult) :
    List BaselineContourKey :=
  let keys := baselineByKey.entries.map Prod.fst
  keys ++ (candidateByKey.entries.map Prod.fst).filter (· ∉ keys)

variable {Evidence : Type}

/-- Compares two runs contour by contour. -/
def makeComparison (baseline candidate : HealthRunSnapshot Evidence) : H4Comparison Evidence :=
  let baselineByKey := mapOf (·.contourKey) baseline.contours
  let candidateByKey := mapOf (·.contourKey) candidate.contours
  let contourRegressions :=
    (comparedKeys baselineByKey candidateByKey).filterMap
      (contourRegression baselineByKey candidateByKey)
  { baselineState := baseline.state
    candidateState := candidate.state
    matrixDecision := comparisonMatrix baseline.state candidate.state
    contourRegressions
    decisiveContours := contourRegressions.map (·.contourKey)
    evidenceReferences := (baseline.evidence ++ candidate.evidence).take 208 }

end SellerAgents.Health
