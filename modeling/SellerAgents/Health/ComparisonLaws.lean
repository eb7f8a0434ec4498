import SellerAgents.Health.ClassifierLaws

namespace SellerAgents.Health

open Js

variable {suite : HealthSuiteDefinition} {results : List HealthContourResult}

/-- Whether some result shows a contour as present. -/
def ShowsPresent (results : List HealthContourResult) (key : BaselineContourKey) : Prop :=
  ∃ r ∈ results, r.contourKey = key ∧ r.observationStatus = .PRESENT

/-- Whether some result speaks of a contour. -/
def Records (results : List HealthContourResult) (key : BaselineContourKey) : Prop :=
  ∃ r ∈ results, r.contourKey = key

theorem Defined.required {r : HealthContourResult} (h : Defined suite r)
    (hnodup : (suite.contours.map (·.key)).Nodup) :
    ∃ contour ∈ suite.contours, r.contourKey = contour.key ∧
      r.required = isRequiredForScope contour suite := by
  obtain ⟨contour, hget, hcheck⟩ := h
  obtain ⟨hcontour, hkey⟩ := (mapOf_get_iff hnodup).mp hget
  refine ⟨contour, hcontour, hkey.symm, ?_⟩
  by_contra hmismatch
  unfold checkResult at hcheck
  simp [hmismatch, bind, Except.bind, throw, throwThe, MonadExceptOf.throw] at hcheck

/-- The verdict of a comparison on a contour of a healthy run. -/
theorem Healthy.contourOutcome_eq (h : Healthy suite results)
    (hnodup : (suite.contours.map (·.key)).Nodup) {r : HealthContourResult} (hr : r ∈ results) :
    contourOutcome (some r) = if r.observationStatus = .PRESENT then .PASS else .DEGRADED := by
  have hvalid := h.certain r hr
  obtain ⟨contour, hcontour, hkey, hrequired⟩ := (h.accepted.defined r hr).required hnodup
  rw [contourOutcome, Option.filter_some, if_pos (by simp [hvalid])]
  dsimp only
  rcases h.sound contour hcontour r hr hkey with ⟨habsent, hoptional⟩ | ⟨hpresent, hpassed⟩
  · rw [if_pos habsent, if_neg habsent, hrequired, hoptional]
    rfl
  · rw [if_neg (not_not.mpr hpresent), if_pos hpassed, if_pos hpresent]

theorem Healthy.rank_get (h : Healthy suite results)
    (hnodup : (suite.contours.map (·.key)).Nodup) (key : BaselineContourKey) :
    (ShowsPresent results key ∧
        contourRank (contourOutcome ((mapOf (·.contourKey) results).get key)) = 0) ∨
      (¬ ShowsPresent results key ∧ Records results key ∧
        contourRank (contourOutcome ((mapOf (·.contourKey) results).get key)) = 2) ∨
      (¬ Records results key ∧
        contourRank (contourOutcome ((mapOf (·.contourKey) results).get key)) = 4) := by
  cases hget : (mapOf (·.contourKey) results).get key with
  | none =>
    refine .inr (.inr ⟨?_, rfl⟩)
    rintro ⟨r, hr, hkey⟩
    rw [(mapOf_get_iff h.accepted.nodup).mpr ⟨hr, hkey⟩] at hget
    cases hget
  | some r =>
    obtain ⟨hr, hkey⟩ := (mapOf_get_iff h.accepted.nodup).mp hget
    rw [h.contourOutcome_eq hnodup hr]
    by_cases hpresent : r.observationStatus = .PRESENT
    · rw [if_pos hpresent]
      exact .inl ⟨⟨r, hr, hkey, hpresent⟩, rfl⟩
    · rw [if_neg hpresent]
      refine .inr (.inl ⟨?_, ⟨r, hr, hkey⟩, rfl⟩)
      rintro ⟨other, hother, hotherKey, hotherPresent⟩
      have hsame := (mapOf_get_iff h.accepted.nodup).mpr ⟨hother, hotherKey⟩
      rw [hget] at hsame
      cases hsame
      exact hpresent hotherPresent

theorem Records.of_showsPresent {key : BaselineContourKey} (h : ShowsPresent results key) :
    Records results key := by
  obtain ⟨r, hr, hkey, -⟩ := h
  exact ⟨r, hr, hkey⟩

section Comparison

variable {Evidence : Type} {baseline candidate : HealthRunSnapshot Evidence}

theorem contourRegression_eq_none
    {baselineByKey candidateByKey : JsMap BaselineContourKey HealthContourResult}
    {key : BaselineContourKey} :
    contourRegression baselineByKey candidateByKey key = none ↔
      contourRank (contourOutcome (candidateByKey.get key)) ≤
        contourRank (contourOutcome (baselineByKey.get key)) := by
  rw [contourRegression]
  dsimp only
  split
  · simpa
  · simpa using Nat.le_of_not_lt (by assumption)

theorem mem_keys_of_get {m : JsMap BaselineContourKey HealthContourResult}
    {key : BaselineContourKey} (h : m.get key ≠ none) : key ∈ m.entries.map Prod.fst := by
  by_contra hmem
  exact h (Properties.get_eq_none hmem)

/-- No regression is reported exactly when no contour ranks worse. -/
theorem contourRegressions_eq_nil :
    (makeComparison baseline candidate).contourRegressions = [] ↔
      ∀ key, contourRank (contourOutcome ((mapOf (·.contourKey) candidate.contours).get key)) ≤
        contourRank (contourOutcome ((mapOf (·.contourKey) baseline.contours).get key)) := by
  rw [makeComparison, List.filterMap_eq_nil_iff]
  constructor
  · intro h key
    by_cases hcompared : key ∈ comparedKeys (mapOf (·.contourKey) baseline.contours)
        (mapOf (·.contourKey) candidate.contours)
    · exact contourRegression_eq_none.mp (h key hcompared)
    · have hbaseline : (mapOf (·.contourKey) baseline.contours).get key = none := by
        by_contra hget
        exact hcompared (List.mem_append_left _ (mem_keys_of_get hget))
      have hcandidate : (mapOf (·.contourKey) candidate.contours).get key = none := by
        by_contra hget
        refine hcompared (List.mem_append_right _ (List.mem_filter.mpr ⟨mem_keys_of_get hget, ?_⟩))
        exact decide_eq_true fun hkeys => hcompared (List.mem_append_left _ hkeys)
      exact Nat.le_of_eq (by rw [hbaseline, hcandidate])
  · intro h key _
    exact contourRegression_eq_none.mpr (h key)

theorem Healthy.contourRegressions_iff (hbaseline : Healthy suite baseline.contours)
    (hcandidate : Healthy suite candidate.contours) (hnodup : (suite.contours.map (·.key)).Nodup) :
    (makeComparison baseline candidate).contourRegressions = [] ↔
      ∀ key, (ShowsPresent baseline.contours key → ShowsPresent candidate.contours key) ∧
        (Records baseline.contours key → Records candidate.contours key) := by
  rw [contourRegressions_eq_nil]
  refine forall_congr' fun key => ?_
  have hbefore := hbaseline.rank_get hnodup key
  have hafter := hcandidate.rank_get hnodup key
  have hshownBefore : ShowsPresent baseline.contours key → Records baseline.contours key :=
    Records.of_showsPresent
  have hshownAfter : ShowsPresent candidate.contours key → Records candidate.contours key :=
    Records.of_showsPresent
  generalize contourRank (contourOutcome ((mapOf (·.contourKey) baseline.contours).get key)) = before
    at hbefore ⊢
  generalize contourRank (contourOutcome ((mapOf (·.contourKey) candidate.contours).get key)) = after
    at hafter ⊢
  rcases hbefore with ⟨hb, rfl⟩ | ⟨hb, hb', rfl⟩ | ⟨hb, rfl⟩ <;>
    rcases hafter with ⟨ha, rfl⟩ | ⟨ha, ha', rfl⟩ | ⟨ha, rfl⟩ <;> simp <;> tauto

end Comparison

theorem passed_iff {r : HealthContourResult} :
    r.passed = true ↔ r.primaryStrategyOutcome = .PASS ∧ r.structuralOutcome = .PASS ∧
      r.behavioralOutcome = .PASS := by
  simp [HealthContourResult.passed, and_assoc]

/-- The verdicts of a suite. Healthy asks every required contour to pass, broken a required core
contour that fails in a certain environment with no fallback that mends it, and the order of the
results does not count. A comparison of two healthy runs reports no regression exactly when the
candidate shows every contour that the baseline shows and speaks of every contour that the baseline
speaks of. -/
theorem healthy_verdicts (suite : HealthSuiteDefinition) :
    (∀ results m out, classifyHealthDetailed ⟨suite, results, m⟩ = .ok out →
      (out.state = .HEALTHY → ∀ contour ∈ suite.contours,
        isRequiredForScope contour suite = true →
          ∃ r ∈ results, r.contourKey = contour.key ∧ r.observationStatus = .PRESENT ∧
            r.environmentStatus = .VALID ∧ r.primaryStrategyOutcome = .PASS ∧
            r.structuralOutcome = .PASS ∧ r.behavioralOutcome = .PASS) ∧
      (out.state = .BROKEN → ∃ contour ∈ suite.contours,
        isRequiredForScope contour suite = true ∧ contour.failureSeverity = .CORE ∧
          ∃ r ∈ results, r.contourKey = contour.key ∧ r.environmentStatus = .VALID ∧
            (r.observationStatus = .PRESENT → r.passed = false) ∧
              contourFinding contour (isRequiredForScope contour suite) r = some .BROKEN) ∧
      ∀ others, results.Perm others → classifyHealthDetailed ⟨suite, others, m⟩ = .ok out) ∧
    ∀ (Evidence : Type) (baseline candidate : HealthRunSnapshot Evidence) (m m' : Bool) out out',
      classifyHealthDetailed ⟨suite, baseline.contours, m⟩ = .ok out → out.state = .HEALTHY →
      classifyHealthDetailed ⟨suite, candidate.contours, m'⟩ = .ok out' → out'.state = .HEALTHY →
      ((makeComparison baseline candidate).contourRegressions = [] ↔
        ∀ key, (ShowsPresent baseline.contours key → ShowsPresent candidate.contours key) ∧
          (Records baseline.contours key → Records candidate.contours key)) := by
  constructor
  · intro results m out h
    refine ⟨fun hhealthy contour hcontour hrequired => ?_, broken_of_classify h,
      fun others hperm => classifyHealthDetailed_perm hperm h⟩
    obtain ⟨r, hr, hkey, hpresent, hvalid, hpassed⟩ :=
      (healthy_of_classify h hhealthy).required_passed hcontour hrequired
    exact ⟨r, hr, hkey, hpresent, hvalid, passed_iff.mp hpassed⟩
  · intro Evidence baseline candidate m m' out out' h hhealthy h' hhealthy'
    obtain ⟨hvalid, -⟩ := classifyHealthDetailed_iff.mp h
    have hnodup : (suite.contours.map (·.key)).Nodup := by
      simp only [HealthClassificationInput.isValid, HealthSuiteDefinition.isValid,
        Bool.and_eq_true, decide_eq_true_eq] at hvalid
      exact hvalid.1.2
    exact (healthy_of_classify h hhealthy).contourRegressions_iff
      (healthy_of_classify h' hhealthy') hnodup

/-- A suite whose one contour may be absent. -/
def copySuite : HealthSuiteDefinition where
  scope :=
    { adapterFamilyKey := "chat", surfaceKey := "web", variant := none, browserFamily := "chrome"
      profileId := "p", healthSuiteMachineKey := "baseline" }
  contours :=
    [{ key := .C10_NATIVE_COPY_CONTROL, required := false, requiredForVariantIds := []
       failureSeverity := .IMPORTANT_NON_CORE, absencePolicy := .ALLOWED_FOR_SCOPE
       primaryStrategyId := .NATIVE_COPY_CONTROL, fallbackStrategyIds := [] }]

def copyShown : HealthContourResult where
  contourKey := .C10_NATIVE_COPY_CONTROL
  required := false
  failureSeverity := .IMPORTANT_NON_CORE
  observationStatus := .PRESENT
  primaryStrategyId := .NATIVE_COPY_CONTROL
  primaryStrategyOutcome := .PASS
  fallbackStrategyOutcomes := []
  selectedStrategyId := some .NATIVE_COPY_CONTROL
  structuralOutcome := .PASS
  behavioralOutcome := .PASS
  fallbackQuality := .NOT_APPLICABLE
  environmentStatus := .VALID
  uncertaintyReason := none

/-- A snapshot of a healthy run, without evidence. -/
def healthySnapshot (contours : List HealthContourResult) : HealthRunSnapshot Unit :=
  { state := .HEALTHY, contours, evidence := [] }

/-- A contour that is allowed to be absent is healthy with it and without it, and a regression. -/
theorem allowed_absence_regresses :
    (classifyHealthDetailed ⟨copySuite, [copyShown], false⟩).toOption.map (·.state) = some .HEALTHY ∧
    (classifyHealthDetailed ⟨copySuite, [], false⟩).toOption.map (fun out => (out.state, out.basis)) =
      some (.HEALTHY, .HEALTHY_ALLOWED_OPTIONAL_ABSENCE) ∧
    (makeComparison (healthySnapshot [copyShown]) (healthySnapshot [])).contourRegressions ≠ [] := by
  decide +kernel

end SellerAgents.Health
