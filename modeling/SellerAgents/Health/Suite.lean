import SellerAgents.Js.Map

namespace SellerAgents.Health

inductive HealthState where
  | HEALTHY | DRIFT | DEGRADED | BROKEN | UNKNOWN | MAINTENANCE
deriving DecidableEq

inductive HealthClassificationBasis where
  | HEALTHY_PRIMARY | HEALTHY_ALLOWED_OPTIONAL_ABSENCE | DRIFT_APPROVED_FALLBACK
  | DEGRADED_NON_CORE_FAILURE | DEGRADED_MATERIAL_FALLBACK | BROKEN_REQUIRED_CORE_FAILURE
  | UNKNOWN_PRE_IDENTITY_ENVIRONMENT | UNKNOWN_AUTH_OR_SECURITY_BLOCKER | MAINTENANCE_OPERATOR
  | INCOHERENT_ENVIRONMENT_OBSERVATION
deriving DecidableEq

inductive BaselineContourKey where
  | C01_PAGE_IDENTITY | C02_CONVERSATION_ROOT | C03_COMPOSER_ROOT | C04_COMPOSER_INPUT
  | C05_SEND_CONTROL | C06_BUSY_STOP_STATE | C07_ASSISTANT_MESSAGE | C08_MESSAGE_COMPLETION
  | C09_COMMAND_CODE_BLOCK_SURFACE | C10_NATIVE_COPY_CONTROL | C11_CONVERSATION_IDENTITY
  | C12_DELIVERY_INSERTION_PATH | C13_BLOCKING_STATE
deriving DecidableEq

inductive ContourFailureSeverity where
  | CORE | IMPORTANT_NON_CORE
deriving DecidableEq

inductive PackagedStrategyId where
  | PAGE_HOST_MARKER | SURFACE_MARKER | CONVERSATION_ANCHOR | ACTIVE_CONVERSATION_REGION
  | COMPOSER_CONTAINER | ACTIVE_COMPOSER_REGION | EDITABLE_INPUT | ACCESSIBILITY_TEXTBOX
  | SEMANTIC_SEND_CONTROL | COMPOSER_ACTION_CONTROL | BUSY_INDICATOR | RESPONSE_STATE_MARKER
  | ASSISTANT_MESSAGE_REGION | MESSAGE_ASSOCIATION_MARKER | COMPLETION_MARKER | RESPONSE_IDLE_STATE
  | COMMAND_SURFACE | CODE_BLOCK_DISCOVERY | NATIVE_COPY_CONTROL | COPY_ANCHOR_ASSOCIATION
  | CONVERSATION_IDENTIFIER | CONVERSATION_URL_IDENTITY | DELIVERY_TARGET | BLOCKING_MARKER
  | SESSION_PRECONDITION
deriving DecidableEq

/-- Where a suite lets a contour be absent. -/
inductive ContourAbsencePolicy where
  | FORBIDDEN
  | ALLOWED_FOR_SCOPE
  | ALLOWED_FOR_VARIANTS (variantIds : List String)
deriving DecidableEq

structure HealthContourDefinition where
  key : BaselineContourKey
  required : Bool
  requiredForVariantIds : List String
  failureSeverity : ContourFailureSeverity
  absencePolicy : ContourAbsencePolicy
  primaryStrategyId : PackagedStrategyId
  fallbackStrategyIds : List PackagedStrategyId
deriving DecidableEq

/-- What the suites and the incidents read of a scope; of a variant, its machine key. -/
structure HealthScope where
  adapterFamilyKey : String
  surfaceKey : String
  variant : Option String
  browserFamily : String
  profileId : String
  healthSuiteMachineKey : String
deriving DecidableEq

/-- The contours that a run of a suite checks. -/
structure HealthSuiteDefinition where
  scope : HealthScope
  contours : List HealthContourDefinition
deriving DecidableEq

inductive HealthObservationOutcome where
  | PASS | FAIL | NOT_ATTEMPTED | UNCERTAIN
deriving DecidableEq

inductive HealthAssertionOutcome where
  | PASS | FAIL | NOT_RUN | UNCERTAIN
deriving DecidableEq

inductive HealthObservationStatus where
  | PRESENT | ABSENT | NOT_OBSERVED
deriving DecidableEq

inductive EnvironmentUncertaintyReason where
  | LOGIN_EXPIRED | VERIFICATION_CHECKPOINT | CAPTCHA_SECURITY_CHECKPOINT | ACCOUNT_BLOCKED
  | NETWORK_FAILURE_BEFORE_PAGE_IDENTITY | CONTROLLED_BROWSER_UNAVAILABLE
deriving DecidableEq

inductive FallbackQuality where
  | NOT_APPLICABLE | APPROVED_EQUIVALENT | MATERIALLY_DEGRADED
deriving DecidableEq

inductive EnvironmentStatus where
  | VALID | UNCERTAIN
deriving DecidableEq

structure FallbackStrategyOutcome where
  strategyId : PackagedStrategyId
  outcome : HealthObservationOutcome
deriving DecidableEq

/-- What a run observed of one contour. -/
structure HealthContourResult where
  contourKey : BaselineContourKey
  required : Bool
  failureSeverity : ContourFailureSeverity
  observationStatus : HealthObservationStatus
  primaryStrategyId : PackagedStrategyId
  primaryStrategyOutcome : HealthObservationOutcome
  fallbackStrategyOutcomes : List FallbackStrategyOutcome
  selectedStrategyId : Option PackagedStrategyId
  structuralOutcome : HealthAssertionOutcome
  behavioralOutcome : HealthAssertionOutcome
  fallbackQuality : FallbackQuality
  environmentStatus : EnvironmentStatus
  uncertaintyReason : Option EnvironmentUncertaintyReason
deriving DecidableEq

/-- `ContourAbsencePolicySchema`. -/
def ContourAbsencePolicy.isValid : ContourAbsencePolicy → Bool
  | .ALLOWED_FOR_VARIANTS variantIds =>
    1 ≤ variantIds.length && variantIds.length ≤ 16 && decide variantIds.Nodup
  | _ => true

/-- `HealthContourDefinitionSchema`. -/
def HealthContourDefinition.isValid (value : HealthContourDefinition) : Bool :=
  value.requiredForVariantIds.length ≤ 16 && decide value.requiredForVariantIds.Nodup &&
  value.absencePolicy.isValid &&
  value.fallbackStrategyIds.length ≤ 8 && decide value.fallbackStrategyIds.Nodup &&
  !value.fallbackStrategyIds.contains value.primaryStrategyId &&
  !(value.required && value.absencePolicy ≠ .FORBIDDEN) &&
  !(!value.required && value.absencePolicy = .FORBIDDEN)

/-- `HealthSuiteDefinitionSchema`. -/
def HealthSuiteDefinition.isValid (value : HealthSuiteDefinition) : Bool :=
  value.contours.all (·.isValid) && 1 ≤ value.contours.length && value.contours.length ≤ 13 &&
  decide (value.contours.map (·.key)).Nodup

namespace HealthContourResult

variable (value : HealthContourResult)

/-- Whether a fallback that was tried is the selected strategy. -/
def triedSelected : Bool :=
  value.fallbackStrategyOutcomes.any fun attempt => value.selectedStrategyId = some attempt.strategyId

/-- Whether a result holds nothing of an execution. -/
def unexecuted : Bool :=
  value.primaryStrategyOutcome = .NOT_ATTEMPTED && value.fallbackStrategyOutcomes.isEmpty &&
  value.selectedStrategyId.isNone && value.structuralOutcome = .NOT_RUN &&
  value.behavioralOutcome = .NOT_RUN && value.fallbackQuality = .NOT_APPLICABLE

/-- Whether the selected strategy is one other than the primary. -/
def selectsFallback : Bool :=
  value.selectedStrategyId.isSome && value.selectedStrategyId ≠ some value.primaryStrategyId

/-- `HealthContourResultSchema`. -/
def isValid : Bool :=
  value.fallbackStrategyOutcomes.length ≤ 8 &&
  decide (value.fallbackStrategyOutcomes.map (·.strategyId)).Nodup &&
  !(value.environmentStatus = .VALID && value.uncertaintyReason.isSome) &&
  !(value.environmentStatus = .UNCERTAIN && value.uncertaintyReason.isNone) &&
  (value.observationStatus = .PRESENT || value.unexecuted) &&
  (value.fallbackQuality = .NOT_APPLICABLE || value.triedSelected) &&
  (!value.selectsFallback || value.triedSelected)

/-- The primary strategy, the structure and the behaviour all pass. -/
def passed : Bool :=
  value.primaryStrategyOutcome = .PASS && value.structuralOutcome = .PASS &&
  value.behavioralOutcome = .PASS

end HealthContourResult

/-- A suite with the results of a run. -/
structure HealthClassificationInput where
  suite : HealthSuiteDefinition
  results : List HealthContourResult
  operatorMaintenance : Bool

/-- `HealthClassificationInputSchema`. -/
def HealthClassificationInput.isValid (value : HealthClassificationInput) : Bool :=
  value.suite.isValid && value.results.all (·.isValid)

inductive ProductFinding where
  | BROKEN | DEGRADED | DRIFT
deriving DecidableEq

structure HealthProductFinding where
  contourKey : BaselineContourKey
  finding : ProductFinding

/-- The verdict on a run with its findings. -/
structure HealthClassificationResult where
  state : HealthState
  basis : HealthClassificationBasis
  findingContourKeys : List BaselineContourKey
  productFindings : List HealthProductFinding
  environmentUncertaintyReasons : List EnvironmentUncertaintyReason
  operatorMaintenance : Bool

/-- `HealthClassificationResultSchema`. -/
def HealthClassificationResult.isValid (value : HealthClassificationResult) : Bool :=
  value.findingContourKeys.length ≤ 13 && decide value.findingContourKeys.Nodup &&
  value.productFindings.length ≤ 13 && decide (value.productFindings.map (·.contourKey)).Nodup &&
  value.environmentUncertaintyReasons.length ≤ 6 && decide value.environmentUncertaintyReasons.Nodup

end SellerAgents.Health
