import SellerAgents.Health.Suite

namespace SellerAgents.Health

open Js

inductive HealthError where
  | SCHEMA | DUPLICATE_CONTOUR_RESULT | UNKNOWN_CONTOUR_RESULT | CONTOUR_RESULT_DEFINITION_MISMATCH
  | SELECTED_FALLBACK_NOT_DECLARED | SELECTED_FALLBACK_RESULT_MISSING
  | CONTOUR_RESULT_UNKNOWN_FALLBACK | MISSING_REQUIRED_CONTOUR_RESULT
  | INCOHERENT_ENVIRONMENT_OBSERVATION

/-- `new Map(items.map((item) => [key(item), item]))`. -/
def mapOf {κ α : Type} [DecidableEq κ] (key : α → κ) (items : List α) : JsMap κ α :=
  items.foldl (fun m item => m.set (key item) item) .empty

/-- What a map of results has under each key. -/
abbrev ByKey : Type := BaselineContourKey → Option HealthContourResult

section Suite

variable (contour : HealthContourDefinition) (suite : HealthSuiteDefinition)

def isRequiredForScope : Bool :=
  contour.required || suite.scope.variant.any contour.requiredForVariantIds.contains

def absenceAllowed : Bool :=
  if isRequiredForScope contour suite || contour.absencePolicy = .FORBIDDEN then false
  else
    match contour.absencePolicy with
    | .ALLOWED_FOR_VARIANTS variantIds => suite.scope.variant.any variantIds.contains
    | _ => true

end Suite

/-- What the suite asks of one result. -/
def checkResult (suite : HealthSuiteDefinition) (definition : HealthContourDefinition)
    (result : HealthContourResult) : Except HealthError Unit := do
  if result.required ≠ isRequiredForScope definition suite ||
      result.failureSeverity ≠ definition.failureSeverity ||
      result.primaryStrategyId ≠ definition.primaryStrategyId then
    throw .CONTOUR_RESULT_DEFINITION_MISMATCH
  if result.selectsFallback then
    if !result.selectedStrategyId.any definition.fallbackStrategyIds.contains then
      throw .SELECTED_FALLBACK_NOT_DECLARED
    let selectedFallbackResults := result.fallbackStrategyOutcomes.filter fun attempt =>
      result.selectedStrategyId = some attempt.strategyId
    if selectedFallbackResults.length ≠ 1 then
      throw .SELECTED_FALLBACK_RESULT_MISSING
  if (result.fallbackStrategyOutcomes.map (·.strategyId)).any
      fun id => !definition.fallbackStrategyIds.contains id then
    throw .CONTOUR_RESULT_UNKNOWN_FALLBACK

/-- One round of the loop over the results. -/
def addResult (suite : HealthSuiteDefinition) (byKey : JsMap BaselineContourKey HealthContourResult)
    (result : HealthContourResult) :
    Except HealthError (JsMap BaselineContourKey HealthContourResult) :=
  if byKey.has result.contourKey then .error .DUPLICATE_CONTOUR_RESULT
  else
    match (mapOf (·.key) suite.contours).get result.contourKey with
    | none => .error .UNKNOWN_CONTOUR_RESULT
    | some definition => do
      checkResult suite definition result
      return byKey.set result.contourKey result

/-- Whether a contour has no result although its absence is not allowed. -/
def missingResult (suite : HealthSuiteDefinition)
    (byKey : JsMap BaselineContourKey HealthContourResult) : Bool :=
  suite.contours.any fun contour => !byKey.has contour.key && !absenceAllowed contour suite

def validateResultsAgainstSuite (suite : HealthSuiteDefinition) (results : List HealthContourResult) :
    Except HealthError (JsMap BaselineContourKey HealthContourResult) := do
  let byKey ← results.foldlM (addResult suite) .empty
  if missingResult suite byKey then .error .MISSING_REQUIRED_CONTOUR_RESULT else .ok byKey

/-- The attempt of the selected strategy, when this is not the primary one. -/
def selectedFallback (result : HealthContourResult) : Option FallbackStrategyOutcome :=
  if result.selectsFallback then
    result.fallbackStrategyOutcomes.find? fun attempt =>
      result.selectedStrategyId = some attempt.strategyId
  else none

/-- Whether the selected fallback mends a failed primary strategy with some quality. -/
def mendedBy (result : HealthContourResult) (quality : FallbackQuality) : Bool :=
  result.primaryStrategyOutcome ≠ .PASS && (selectedFallback result).any (·.outcome = .PASS) &&
  result.fallbackQuality = quality && result.structuralOutcome = .PASS &&
  result.behavioralOutcome = .PASS

def contourFinding (contour : HealthContourDefinition) (required : Bool)
    (result : HealthContourResult) : Option ProductFinding :=
  if result.observationStatus ≠ .PRESENT then
    if !required then none
    else if contour.failureSeverity = .CORE then some .BROKEN
    else some .DEGRADED
  else if result.passed then none
  else if mendedBy result .APPROVED_EQUIVALENT then some .DRIFT
  else if mendedBy result .MATERIALLY_DEGRADED then some .DEGRADED
  else if required && contour.failureSeverity = .CORE then some .BROKEN
  else some .DEGRADED

/-- The finding of one contour; what is uncertain gives none. -/
def productFinding (suite : HealthSuiteDefinition) (byKey : ByKey)
    (contour : HealthContourDefinition) : Option HealthProductFinding := do
  let result ← (byKey contour.key).filter (·.environmentStatus ≠ .UNCERTAIN)
  let finding ← contourFinding contour (isRequiredForScope contour suite) result
  return { contourKey := contour.key, finding }

def productFindings (suite : HealthSuiteDefinition) (byKey : ByKey) : List HealthProductFinding :=
  suite.contours.filterMap (productFinding suite byKey)

def confidentPageIdentity (byKey : ByKey) : Bool :=
  (byKey .C01_PAGE_IDENTITY).any fun identity =>
    identity.observationStatus = .PRESENT &&
    (identity.passed ||
      ((selectedFallback identity).any (·.outcome = .PASS) &&
        identity.fallbackQuality = .APPROVED_EQUIVALENT && identity.structuralOutcome = .PASS &&
        identity.behavioralOutcome = .PASS))

def permittedOptionalAbsence (suite : HealthSuiteDefinition) (byKey : ByKey) : Bool :=
  suite.contours.any fun contour =>
    absenceAllowed contour suite &&
      !(byKey contour.key).any (·.observationStatus = .PRESENT)

structure EnvironmentAssessment where
  reasons : List (Option EnvironmentUncertaintyReason) := []
  unknownBasis : Option HealthClassificationBasis := none
  productPrecedence : Bool := false

def PRE_IDENTITY_ENVIRONMENT_REASONS : List EnvironmentUncertaintyReason :=
  [.NETWORK_FAILURE_BEFORE_PAGE_IDENTITY, .CONTROLLED_BROWSER_UNAVAILABLE]

def AUTH_OR_SECURITY_ENVIRONMENT_REASONS : List EnvironmentUncertaintyReason :=
  [.LOGIN_EXPIRED, .VERIFICATION_CHECKPOINT, .CAPTCHA_SECURITY_CHECKPOINT, .ACCOUNT_BLOCKED]

/-- The findings that do not hang on the page's identity or on what blocks it. -/
def independentFindings (byKey : ByKey) (findings : List HealthProductFinding) :
    List HealthProductFinding :=
  findings.filter fun finding =>
    finding.contourKey ≠ .C01_PAGE_IDENTITY && finding.contourKey ≠ .C13_BLOCKING_STATE &&
    (byKey finding.contourKey).any (·.observationStatus = .PRESENT)

def uncertainResults (results : List HealthContourResult) : List HealthContourResult :=
  results.filter (·.environmentStatus = .UNCERTAIN)

/-- Whether a result is the one uncertain observation that a run may have. -/
def coherentBlocker (result : HealthContourResult) : Bool :=
  result.contourKey = .C13_BLOCKING_STATE && result.observationStatus = .PRESENT &&
  result.primaryStrategyOutcome = .UNCERTAIN && result.fallbackStrategyOutcomes.isEmpty &&
  result.selectedStrategyId.isNone && result.structuralOutcome = .UNCERTAIN &&
  result.behavioralOutcome = .UNCERTAIN && result.fallbackQuality = .NOT_APPLICABLE

/-- The assessment of a single blocking observation. -/
def assessBlocker (reasons : List (Option EnvironmentUncertaintyReason))
    (reason : EnvironmentUncertaintyReason) (pageIdentityIsConfident independent : Bool) :
    Except HealthError EnvironmentAssessment :=
  if PRE_IDENTITY_ENVIRONMENT_REASONS.contains reason then
    if pageIdentityIsConfident && independent then
      .ok { reasons, productPrecedence := true }
    else if pageIdentityIsConfident || independent then
      .error .INCOHERENT_ENVIRONMENT_OBSERVATION
    else
      .ok { reasons, unknownBasis := some .UNKNOWN_PRE_IDENTITY_ENVIRONMENT }
  else if !AUTH_OR_SECURITY_ENVIRONMENT_REASONS.contains reason then
    .error .INCOHERENT_ENVIRONMENT_OBSERVATION
  else if !pageIdentityIsConfident && independent then
    .error .INCOHERENT_ENVIRONMENT_OBSERVATION
  else
    .ok
      { reasons
        unknownBasis := if independent then none else some .UNKNOWN_AUTH_OR_SECURITY_BLOCKER
        productPrecedence := independent }

def assessEnvironment (results : List HealthContourResult) (byKey : ByKey)
    (findings : List HealthProductFinding) : Except HealthError EnvironmentAssessment :=
  match uncertainResults results with
  | [] => .ok {}
  | [blocker] =>
    match blocker.uncertaintyReason with
    | some reason =>
      if coherentBlocker blocker then
        assessBlocker [some reason] reason (confidentPageIdentity byKey)
          (!(independentFindings byKey findings).isEmpty)
      else .error .INCOHERENT_ENVIRONMENT_OBSERVATION
    | none => .error .INCOHERENT_ENVIRONMENT_OBSERVATION
  | _ => .error .INCOHERENT_ENVIRONMENT_OBSERVATION

def basisForFindings (findings : List HealthProductFinding) :
    HealthState × HealthClassificationBasis :=
  if findings.any (·.finding = .BROKEN) then (.BROKEN, .BROKEN_REQUIRED_CORE_FAILURE)
  else if findings.any (·.finding = .DEGRADED) then (.DEGRADED, .DEGRADED_NON_CORE_FAILURE)
  else if findings.any (·.finding = .DRIFT) then (.DRIFT, .DRIFT_APPROVED_FALLBACK)
  else (.HEALTHY, .HEALTHY_PRIMARY)

def materialFallbackPresent (findings : List HealthProductFinding) (byKey : ByKey) : Bool :=
  findings.any fun finding =>
    finding.finding = .DEGRADED &&
    (byKey finding.contourKey).any (·.fallbackQuality = .MATERIALLY_DEGRADED)

/-- The parse of a result before it is frozen. -/
def immutableResult (result : HealthClassificationResult) :
    Except HealthError HealthClassificationResult :=
  if result.isValid then .ok result else .error .SCHEMA

/-- The classification of findings in an environment. -/
def classification (suite : HealthSuiteDefinition) (byKey : ByKey) (operatorMaintenance : Bool)
    (findings : List HealthProductFinding) (environment : EnvironmentAssessment) :
    HealthClassificationResult :=
  let environmentUncertaintyReasons := environment.reasons.filterMap id
  let findingContourKeys := findings.map (·.contourKey)
  if operatorMaintenance then
    { state := .MAINTENANCE, basis := .MAINTENANCE_OPERATOR, findingContourKeys
      productFindings := findings, environmentUncertaintyReasons, operatorMaintenance := true }
  else
    match if environment.productPrecedence then none else environment.unknownBasis with
    | some basis =>
      { state := .UNKNOWN, basis, findingContourKeys := [], productFindings := []
        environmentUncertaintyReasons, operatorMaintenance := false }
    | none =>
      let (state, basis) := basisForFindings findings
      { state
        basis :=
          if state = .HEALTHY && permittedOptionalAbsence suite byKey then
            .HEALTHY_ALLOWED_OPTIONAL_ABSENCE
          else if state = .DEGRADED && materialFallbackPresent findings byKey then
            .DEGRADED_MATERIAL_FALLBACK
          else basis
        findingContourKeys, productFindings := findings, environmentUncertaintyReasons
        operatorMaintenance := false }

/-- `HealthClassificationInputSchema.parse`. -/
def parseInput (input : HealthClassificationInput) : Except HealthError HealthClassificationInput :=
  if input.isValid then .ok input else .error .SCHEMA

def classifyHealthDetailed (input : HealthClassificationInput) :
    Except HealthError HealthClassificationResult := do
  let parsed ← parseInput input
  let byKey ← validateResultsAgainstSuite parsed.suite parsed.results
  let findings := productFindings parsed.suite byKey.get
  let environment ← assessEnvironment parsed.results byKey.get findings
  immutableResult
    (classification parsed.suite byKey.get parsed.operatorMaintenance findings environment)

end SellerAgents.Health
