import SellerAgents.Health.Evaluation
import SellerAgents.Js.Fallible

namespace SellerAgents.Health

open Js

theorem parse_eq_ok {α : Type} {isValid : α → Bool} {value parsed : α} :
    parse isValid value = .ok parsed ↔ isValid value = true ∧ parsed = value := by
  unfold parse
  by_cases h : isValid value = true
  · simp [h, eq_comm]
  · simp [h]

theorem parse_bind_eq_ok {α β : Type} {isValid : α → Bool} {value : α}
    {f : α → Except EvaluationError β} {b : β} :
    (parse isValid value >>= f) = .ok b ↔ isValid value = true ∧ f value = .ok b := by
  rw [bind_eq_ok]
  constructor
  · rintro ⟨parsed, hparse, h⟩
    obtain ⟨hvalid, rfl⟩ := parse_eq_ok.mp hparse
    exact ⟨hvalid, h⟩
  · rintro ⟨hvalid, h⟩
    exact ⟨value, parse_eq_ok.mpr ⟨hvalid, rfl⟩, h⟩

/-- The verdict of a run on a contour: that of the last result for it. -/
def verdictOn (contours : List HealthContourResult) (key : BaselineContourKey) : ContourOutcome :=
  contourOutcome ((mapOf (·.contourKey) contours).get key)

/-- The states that speak of a product, from the best to the worst. -/
def stateRank : HealthState → Option Nat
  | .HEALTHY => some 0
  | .DRIFT => some 1
  | .DEGRADED => some 2
  | .BROKEN => some 3
  | .UNKNOWN | .MAINTENANCE => none

/-- Both states speak of the product and the candidate's is no worse. -/
def NoWorseState (baseline candidate : HealthState) : Prop :=
  ∃ before after, stateRank baseline = some before ∧ stateRank candidate = some after ∧
    after ≤ before

section Runs

variable {Evidence : Type}

/-- A contour is worse in the candidate. -/
def Regressed (baseline candidate : EvaluatedRun Evidence) (key : BaselineContourKey) : Prop :=
  contourRank (verdictOn baseline.contours key) < contourRank (verdictOn candidate.contours key)

variable {baseline candidate : EvaluatedRun Evidence}

theorem no_contourRegressions_iff :
    (makeComparison baseline.toHealthRunSnapshot candidate.toHealthRunSnapshot).contourRegressions =
        [] ↔ ∀ key, ¬ Regressed baseline candidate key := by
  rw [contourRegressions_eq_nil]
  exact forall_congr' fun key => Nat.not_lt.symm

theorem comparisonMatrix_pass {before after : HealthState} :
    comparisonMatrix before after = .PASS ↔
      after = .HEALTHY ∧ before ≠ .UNKNOWN ∧ before ≠ .MAINTENANCE := by
  cases before <;> cases after <;> decide

theorem noWorseState_of_pass {before after : HealthState}
    (h : comparisonMatrix before after = .PASS) : NoWorseState before after := by
  obtain ⟨rfl, hunknown, hmaintenance⟩ := comparisonMatrix_pass.mp h
  cases before with
  | HEALTHY => exact ⟨0, 0, rfl, rfl, Nat.le_refl 0⟩
  | DRIFT => exact ⟨1, 0, rfl, rfl, Nat.zero_le 1⟩
  | DEGRADED => exact ⟨2, 0, rfl, rfl, Nat.zero_le 2⟩
  | BROKEN => exact ⟨3, 0, rfl, rfl, Nat.zero_le 3⟩
  | UNKNOWN => exact absurd rfl hunknown
  | MAINTENANCE => exact absurd rfl hmaintenance

variable {comparison : H4Comparison Evidence} {paths : List JsString}
  {readiness : Option CandidateReadiness}

theorem comparisonOutcome_pass (h : comparisonOutcome comparison = .PASS) :
    comparison.contourRegressions = [] ∧ comparison.matrixDecision = .PASS := by
  unfold comparisonOutcome at h
  by_cases hregressions : comparison.contourRegressions.length > 0
  · rw [if_pos hregressions] at h
    cases h
  · rw [if_neg hregressions] at h
    refine ⟨List.length_eq_zero_iff.mp (by omega), ?_⟩
    cases hmatrix : comparison.matrixDecision with
    | PASS => rfl
    | FAIL =>
      rw [hmatrix] at h
      cases h
    | INCONCLUSIVE =>
      rw [hmatrix] at h
      cases h

/-- What the healthy verdict after a rollout rests on. -/
theorem postRollout_continue
    (hmatrix : comparison.matrixDecision = comparisonMatrix baseline.state candidate.state) :
    postRolloutRecommendation (postRolloutOutcome baseline candidate comparison) = .CONTINUE ↔
      comparisonMatrix baseline.state candidate.state = .PASS := by
  unfold postRolloutRecommendation postRolloutOutcome
  rw [hmatrix]
  cases baseline.state <;> cases candidate.state <;> decide

theorem canary_continue (h : canaryRecommendation candidate comparison = .CONTINUE) :
    comparison.contourRegressions = [] := by
  unfold canaryRecommendation at h
  by_contra hregressions
  have hlength : comparison.contourRegressions.length > 0 := List.length_pos_iff.mpr hregressions
  simp only [hlength, decide_true, Bool.or_true, if_true] at h
  split at h
  · cases h
  · split at h <;> cases h

variable {Profile : Type} {ports : EvaluationPorts Profile} {profile : Profile}
  {identity : EvaluationIdentity}

/-- A candidate that passes was compared, and the comparison shows nothing worse. -/
theorem assessCandidate_pass
    (h : (assessCandidate ports identity profile baseline candidate paths readiness).outcome =
      .PASS) :
    comparable identity baseline candidate = true ∧
      comparisonOutcome (makeComparison baseline.toHealthRunSnapshot candidate.toHealthRunSnapshot) =
        .PASS := by
  unfold assessCandidate at h
  split at h
  · cases h
  · split at h
    · cases h
    · split at h
      · cases h
      · split at h
        · cases h
        · rename_i hcomparable
          split at h
          · cases h
          · exact ⟨by simpa using hcomparable, h⟩

theorem evaluateH4Candidate_ok {result : H4EvaluationResult Evidence}
    (h : evaluateH4Candidate ports identity profile baseline candidate paths readiness =
      .ok result) :
    result = assessCandidate ports identity profile baseline candidate paths readiness := by
  rw [evaluateH4Candidate, parse_bind_eq_ok] at h
  dsimp only at h
  rw [check_eq_ok, parse_bind_eq_ok, parse_bind_eq_ok, parse_eq_ok] at h
  exact h.2.2.2.2.2

/-- The inputs on which an assessment of a published profile compares the runs. -/
structure Assessed (identity : EvaluationIdentity) (profileState : CandidateProfileState)
    (baseline candidate : EvaluatedRun Evidence) : Prop where
  accepted : identity.isValid = true ∧ baseline.isValid = true ∧ candidate.isValid = true
  phase : identity.phase ≠ .H4_CANDIDATE
  published : profileState = .PUBLISHED
  operated : baseline.operatorMaintenance = false ∧ candidate.operatorMaintenance = false
  comparable : comparable identity baseline candidate = true

/-- The recommendation of a phase. -/
def recommendationFor (phase : EvaluationPhase) (baseline candidate : EvaluatedRun Evidence) :
    H5Recommendation :=
  let comparison := makeComparison baseline.toHealthRunSnapshot candidate.toHealthRunSnapshot
  if phase = .H5_POST_ROLLOUT then
    postRolloutRecommendation (postRolloutOutcome baseline candidate comparison)
  else canaryRecommendation candidate comparison

theorem evaluateH5_assessed {profileState : CandidateProfileState}
    (h : Assessed identity profileState baseline candidate) :
    ∃ result, evaluateH5 ports identity profileState baseline candidate = .ok result ∧
      result.recommendation = recommendationFor identity.phase baseline candidate := by
  obtain ⟨⟨hidentity, hbaseline, hcandidate⟩, hphase, hpublished, hoperated, hcomparable⟩ := h
  simp only [evaluateH5, parse, hidentity, hbaseline, hcandidate, hphase, hpublished, hoperated.1,
    hoperated.2, hcomparable, bind, Except.bind, pure, Except.pure, if_true, if_false, ne_eq,
    not_true_eq_false, Bool.or_false, Bool.not_true, Bool.false_eq_true, recommendationFor]
  by_cases hrollout : identity.phase = .H5_POST_ROLLOUT
  · simp only [if_pos hrollout]
    exact ⟨_, rfl, rfl⟩
  · simp only [if_neg hrollout]
    exact ⟨_, rfl, rfl⟩

theorem evaluateH5_continue_iff {profileState : CandidateProfileState} :
    (∃ result, evaluateH5 ports identity profileState baseline candidate = .ok result ∧
        result.recommendation = .CONTINUE) ↔
      Assessed identity profileState baseline candidate ∧
        recommendationFor identity.phase baseline candidate = .CONTINUE := by
  constructor
  · rintro ⟨result, h, hcontinue⟩
    rw [evaluateH5, parse_bind_eq_ok] at h
    dsimp only at h
    rw [check_eq_ok, check_eq_ok, parse_bind_eq_ok, parse_bind_eq_ok] at h
    obtain ⟨hidentity, hphase, hpublished, hbaseline, hcandidate, h⟩ := h
    split at h
    · cases h
      cases hcontinue
    · rename_i hcompared
      simp only [Bool.or_eq_true, Bool.not_eq_true', not_or, Bool.not_eq_true,
        Bool.not_eq_false] at hcompared
      refine ⟨⟨⟨hidentity, hbaseline, hcandidate⟩, hphase, not_not.mp hpublished, hcompared.1,
        hcompared.2⟩, ?_⟩
      unfold recommendationFor
      split at h
      · rename_i hrollout
        cases h
        rw [if_pos hrollout]
        exact hcontinue
      · rename_i hcanary
        cases h
        rw [if_neg hcanary]
        exact hcontinue
  · rintro ⟨hassessed, hcontinue⟩
    obtain ⟨result, hresult, hrecommendation⟩ := evaluateH5_assessed hassessed
    exact ⟨result, hresult, hrecommendation.trans hcontinue⟩

theorem recommendation_postRollout (hrollout : identity.phase = .H5_POST_ROLLOUT) :
    recommendationFor identity.phase baseline candidate = .CONTINUE ↔
      candidate.state = .HEALTHY ∧ baseline.state ≠ .UNKNOWN ∧ baseline.state ≠ .MAINTENANCE := by
  rw [recommendationFor, if_pos hrollout, postRollout_continue rfl, comparisonMatrix_pass]

theorem certain_of_known {result : Option HealthContourResult}
    (h : contourOutcome result ≠ .UNKNOWN) :
    ∃ r, result = some r ∧ r.environmentStatus = .VALID := by
  cases result with
  | none => exact absurd rfl h
  | some r =>
    refine ⟨r, rfl, certain_of_not_uncertain ?_⟩
    intro huncertain
    refine h ?_
    rw [contourOutcome, Option.filter_some, if_neg (by simp [huncertain])]

/-- No contour that the baseline knows is missing or uncertain in a candidate without regression. -/
theorem known_of_not_regressed {key : BaselineContourKey} (h : ¬ Regressed baseline candidate key)
    (hknown : verdictOn baseline.contours key ≠ .UNKNOWN) :
    ∃ r, (mapOf (·.contourKey) candidate.contours).get key = some r ∧
      r.environmentStatus = .VALID := by
  refine certain_of_known ?_
  intro hunknown
  refine h ?_
  rw [Regressed, verdictOn, verdictOn, hunknown]
  rw [verdictOn] at hknown
  revert hknown
  cases contourOutcome ((mapOf (·.contourKey) baseline.contours).get key) <;> decide

/-- A candidate passes, and a rollout continues, only without a regression of the contours that are
asked about. -/
structure PassesWithoutRegression (ports : EvaluationPorts Profile) (identity : EvaluationIdentity)
    (profileState : CandidateProfileState) (baseline candidate : EvaluatedRun Evidence)
    (contours : List HealthContourDefinition) : Prop where
  pass : ∀ profile paths readiness result,
    evaluateH4Candidate ports identity profile baseline candidate paths readiness = .ok result →
    result.outcome = .PASS →
      comparable identity baseline candidate = true ∧
        NoWorseState baseline.state candidate.state ∧
        ∀ key, ¬ Regressed baseline candidate key ∧
          (verdictOn baseline.contours key ≠ .UNKNOWN →
            ∃ r, (mapOf (·.contourKey) candidate.contours).get key = some r ∧
              r.environmentStatus = .VALID)
  continues : ∀ result,
    evaluateH5 ports identity profileState baseline candidate = .ok result →
    result.recommendation = .CONTINUE →
      ∀ contour ∈ contours, contour.failureSeverity = .CORE →
        ¬ Regressed baseline candidate contour.key

/-- A published profile after its rollout whose state is healthy although a core contour is worse
than before. -/
structure HealthyDespiteRegression (identity : EvaluationIdentity)
    (profileState : CandidateProfileState) (baseline candidate : EvaluatedRun Evidence)
    (contours : List HealthContourDefinition) : Prop where
  assessed : Assessed identity profileState baseline candidate
  rollout : identity.phase = .H5_POST_ROLLOUT
  healthy : candidate.state = .HEALTHY
  known : baseline.state ≠ .UNKNOWN ∧ baseline.state ≠ .MAINTENANCE
  regressed : ∃ contour ∈ contours, contour.failureSeverity = .CORE ∧
    Regressed baseline candidate contour.key

theorem evaluateH4Candidate_pass {result : H4EvaluationResult Evidence}
    (h : evaluateH4Candidate ports identity profile baseline candidate paths readiness = .ok result)
    (hpass : result.outcome = .PASS) :
    comparable identity baseline candidate = true ∧
      NoWorseState baseline.state candidate.state ∧
      ∀ key, ¬ Regressed baseline candidate key := by
  rw [evaluateH4Candidate_ok h] at hpass
  obtain ⟨hcomparable, houtcome⟩ := assessCandidate_pass hpass
  obtain ⟨hregressions, hmatrix⟩ := comparisonOutcome_pass houtcome
  exact ⟨hcomparable, noWorseState_of_pass hmatrix, no_contourRegressions_iff.mp hregressions⟩

theorem canary_keeps_contours (h : recommendationFor identity.phase baseline candidate = .CONTINUE)
    (hcanary : identity.phase ≠ .H5_POST_ROLLOUT) :
    ∀ key, ¬ Regressed baseline candidate key := by
  rw [recommendationFor, if_neg hcanary] at h
  exact no_contourRegressions_iff.mp (canary_continue h)

/-- A pass in any phase means that no contour regressed, except where a rollout is healthy and its
matrix alone hides a regression. -/
theorem passes_without_regression_iff (ports : EvaluationPorts Profile)
    (identity : EvaluationIdentity) (profileState : CandidateProfileState)
    (baseline candidate : EvaluatedRun Evidence) (contours : List HealthContourDefinition) :
    PassesWithoutRegression ports identity profileState baseline candidate contours ↔
      ¬ HealthyDespiteRegression identity profileState baseline candidate contours := by
  constructor
  · rintro hpasses ⟨hassessed, hrollout, hhealthy, hknown, contour, hcontour, hcore, hworse⟩
    have hcontinue := (recommendation_postRollout hrollout).mpr ⟨hhealthy, hknown⟩
    obtain ⟨result, hresult, hrecommendation⟩ :=
      evaluateH5_continue_iff.mpr ⟨hassessed, hcontinue⟩
    exact hpasses.continues result hresult hrecommendation contour hcontour hcore hworse
  · intro hcondition
    constructor
    · intro profile paths readiness result hresult hpass
      obtain ⟨hcomparable, hstate, hcontours⟩ := evaluateH4Candidate_pass hresult hpass
      exact ⟨hcomparable, hstate, fun key => ⟨hcontours key, known_of_not_regressed (hcontours key)⟩⟩
    · intro result hresult hrecommendation contour hcontour hcore hworse
      obtain ⟨hassessed, hcontinue⟩ :=
        evaluateH5_continue_iff.mp ⟨result, hresult, hrecommendation⟩
      by_cases hrollout : identity.phase = .H5_POST_ROLLOUT
      · obtain ⟨hhealthy, hknown⟩ := (recommendation_postRollout hrollout).mp hcontinue
        exact hcondition ⟨hassessed, hrollout, hhealthy, hknown, contour, hcontour, hcore, hworse⟩
      · exact canary_keeps_contours hcontinue hrollout contour.key hworse

end Runs

/-! A core contour that a suite lets be absent is shown before the rollout and not after it. -/

def coreContour : HealthContourDefinition where
  key := .C10_NATIVE_COPY_CONTROL
  required := false
  requiredForVariantIds := []
  failureSeverity := .CORE
  absencePolicy := .ALLOWED_FOR_SCOPE
  primaryStrategyId := .NATIVE_COPY_CONTROL
  fallbackStrategyIds := []

def coreSuite : HealthSuiteDefinition := { copySuite with contours := [coreContour] }

def coreShown : HealthContourResult := { copyShown with failureSeverity := .CORE }

def coreAbsent : HealthContourResult :=
  { coreShown with
    observationStatus := .ABSENT, primaryStrategyOutcome := .NOT_ATTEMPTED
    selectedStrategyId := none, structuralOutcome := .NOT_RUN, behavioralOutcome := .NOT_RUN }

def rolloutIdentity (phase : EvaluationPhase) : EvaluationIdentity where
  provider := units "chatgpt"
  surface := units "CHATGPT_STANDARD"
  target := units "chatgpt-standard"
  variant := none
  monitoringLayer := .NO_SESSION
  browserFamily := units "chrome"
  browserVersion := units "120"
  environmentClass := units "DISPOSABLE"
  healthSuiteMachineKey := units "baseline"
  healthSuiteRevision := 1
  baselineProfileRevisionId := units "00000000-0000-0000-0000-000000000000"
  candidateProfileRevisionId := units "ffffffff-ffff-ffff-ffff-ffffffffffff"
  phase := phase

def rolloutRun (profileRevisionId : JsString) (contours : List HealthContourResult) :
    EvaluatedRun Unit where
  state := .HEALTHY
  contours := contours
  evidence := []
  executionId := units "00000000-0000-0000-0000-000000000000"
  scope :=
    { toEvaluationScope := (rolloutIdentity .H5_POST_ROLLOUT).toEvaluationScope, profileRevisionId }
  operatorMaintenance := false
  evaluatedAt := 0

def baselineRun : EvaluatedRun Unit :=
  rolloutRun (rolloutIdentity .H5_POST_ROLLOUT).baselineProfileRevisionId [coreShown]

def candidateRun : EvaluatedRun Unit :=
  rolloutRun (rolloutIdentity .H5_POST_ROLLOUT).candidateProfileRevisionId [coreAbsent]

def refusingPorts : EvaluationPorts Unit where
  evaluationKey _ := []
  validateH0ProfileCandidate _ := .error (units "H0_PROFILE_INVALID")

/-- Both runs are what the classifier calls healthy on one suite. -/
theorem rollout_continues_despite_regression :
    (classifyHealthDetailed ⟨coreSuite, [coreShown], false⟩).toOption.map (·.state) =
        some .HEALTHY ∧
      (classifyHealthDetailed ⟨coreSuite, [coreAbsent], false⟩).toOption.map (·.state) =
        some .HEALTHY ∧
      ¬ PassesWithoutRegression refusingPorts (rolloutIdentity .H5_POST_ROLLOUT) .PUBLISHED
          baselineRun candidateRun coreSuite.contours := by
  refine ⟨by decide +kernel, by decide +kernel, ?_⟩
  intro hpasses
  have hassessed :
      Assessed (rolloutIdentity .H5_POST_ROLLOUT) .PUBLISHED baselineRun candidateRun :=
    ⟨by decide +kernel, by decide, rfl, by decide, by decide⟩
  obtain ⟨result, hresult, hrecommendation⟩ := evaluateH5_assessed hassessed
  have hcontinue : result.recommendation = .CONTINUE :=
    hrecommendation.trans ((recommendation_postRollout rfl).mpr ⟨rfl, by decide, by decide⟩)
  have hregressed : contourRank (verdictOn baselineRun.contours coreContour.key) <
      contourRank (verdictOn candidateRun.contours coreContour.key) := by decide +kernel
  exact hpasses.continues result hresult hcontinue coreContour List.mem_cons_self rfl hregressed

end SellerAgents.Health
