import SellerAgents.Health.Comparison

namespace SellerAgents.Health

open Js
open HealthClassificationInput (isValid)

section Map

variable {κ α : Type} [DecidableEq κ] {key : α → κ} {items : List α} {k : κ} {x : α}

theorem foldl_set_other (m : JsMap κ α) (h : k ∉ items.map key) :
    (items.foldl (fun m item => m.set (key item) item) m).get k = m.get k := by
  induction items generalizing m with
  | nil => rfl
  | cons item rest ih =>
    rw [List.map_cons, List.mem_cons, not_or] at h
    rw [List.foldl_cons, ih _ h.2, JsMap.get_set_other _ _ h.1]

theorem foldl_set_get {m : JsMap κ α}
    (h : (items.foldl (fun m item => m.set (key item) item) m).get k = some x) :
    (x ∈ items ∧ key x = k) ∨ m.get k = some x := by
  induction items generalizing m with
  | nil => exact .inr h
  | cons item rest ih =>
    rw [List.foldl_cons] at h
    rcases ih h with ⟨hmem, hkey⟩ | hset
    · exact .inl ⟨List.mem_cons_of_mem _ hmem, hkey⟩
    · rw [JsMap.get_set] at hset
      by_cases hk : k = key item
      · rw [if_pos hk] at hset
        cases hset
        exact .inl ⟨List.mem_cons_self, hk.symm⟩
      · rw [if_neg hk] at hset
        exact .inr hset

theorem mapOf_get_iff (hnodup : (items.map key).Nodup) :
    (mapOf key items).get k = some x ↔ x ∈ items ∧ key x = k := by
  constructor
  · intro h
    rcases foldl_set_get h with hmem | hempty
    · exact hmem
    · cases hempty
  · rintro ⟨hmem, rfl⟩
    unfold mapOf
    generalize JsMap.empty = m
    induction items generalizing m with
    | nil => cases hmem
    | cons item rest ih =>
      rw [List.map_cons, List.nodup_cons] at hnodup
      rw [List.foldl_cons]
      rcases List.mem_cons.mp hmem with rfl | hrest
      · rw [foldl_set_other _ hnodup.1, JsMap.get_set_self]
      · exact ih hnodup.2 hrest _

/-- The lookups of a map do not depend on the order of its items. -/
theorem mapOf_get_perm {others : List α} (h : items.Perm others) (hnodup : (items.map key).Nodup) :
    (mapOf key items).get = (mapOf key others).get := by
  funext k
  apply Option.ext
  intro x
  have hothers : (others.map key).Nodup := (h.map key).nodup_iff.mp hnodup
  rw [mapOf_get_iff hnodup, mapOf_get_iff hothers, h.mem_iff]

theorem mapOf_has {items : List α} (hnodup : (items.map key).Nodup) :
    (mapOf key items).has k = true ↔ ∃ x ∈ items, key x = k := by
  rw [JsMap.has, Option.isSome_iff_exists]
  exact exists_congr fun x => mapOf_get_iff hnodup

end Map

variable {suite : HealthSuiteDefinition} {results : List HealthContourResult}

/-- A result that its suite defines. -/
def Defined (suite : HealthSuiteDefinition) (result : HealthContourResult) : Prop :=
  ∃ definition, (mapOf (·.key) suite.contours).get result.contourKey = some definition ∧
    checkResult suite definition result = .ok ()

theorem addResult_iff {m m' : JsMap BaselineContourKey HealthContourResult}
    {result : HealthContourResult} :
    addResult suite m result = .ok m' ↔
      m.get result.contourKey = none ∧ Defined suite result ∧
        m' = m.set result.contourKey result := by
  unfold addResult Defined
  rw [JsMap.has]
  cases hget : m.get result.contourKey with
  | some old => simp
  | none =>
    cases hdefinition : (mapOf (·.key) suite.contours).get result.contourKey with
    | none => simp
    | some definition =>
      cases hcheck : checkResult suite definition result with
      | error e => simp [hcheck, bind, Except.bind]
      | ok u => simp [hcheck, bind, Except.bind, pure, Except.pure, eq_comm]

theorem foldlM_addResult_iff {m m' : JsMap BaselineContourKey HealthContourResult} :
    results.foldlM (addResult suite) m = .ok m' ↔
      (∀ r ∈ results, m.get r.contourKey = none ∧ Defined suite r) ∧
        (results.map (·.contourKey)).Nodup ∧
        m' = results.foldl (fun m r => m.set r.contourKey r) m := by
  induction results generalizing m with
  | nil => simp [pure, Except.pure, eq_comm]
  | cons r rest ih =>
    rw [List.foldlM_cons, List.foldl_cons, List.map_cons, List.nodup_cons]
    constructor
    · intro h
      cases hadd : addResult suite m r with
      | error e =>
        rw [hadd] at h
        cases h
      | ok next =>
        obtain ⟨hfresh, hdefined, rfl⟩ := addResult_iff.mp hadd
        rw [hadd] at h
        obtain ⟨hall, hnodup, hm'⟩ := ih.mp h
        have hdistinct : ∀ x ∈ rest, x.contourKey ≠ r.contourKey := by
          intro x hx heq
          have hnone := (hall x hx).1
          rw [heq, JsMap.get_set_self] at hnone
          cases hnone
        refine ⟨?_, ⟨?_, hnodup⟩, hm'⟩
        · intro x hx
          rcases List.mem_cons.mp hx with rfl | hx
          · exact ⟨hfresh, hdefined⟩
          · have hnone := (hall x hx).1
            rw [JsMap.get_set_other _ _ (hdistinct x hx)] at hnone
            exact ⟨hnone, (hall x hx).2⟩
        · intro hmem
          obtain ⟨x, hx, heq⟩ := List.mem_map.mp hmem
          exact hdistinct x hx heq
    · rintro ⟨hall, ⟨hfresh, hnodup⟩, hm'⟩
      obtain ⟨hnone, hdefined⟩ := hall r List.mem_cons_self
      rw [addResult_iff.mpr ⟨hnone, hdefined, rfl⟩]
      refine ih.mpr ⟨?_, hnodup, hm'⟩
      intro x hx
      have hdistinct : x.contourKey ≠ r.contourKey := by
        intro heq
        exact hfresh (heq ▸ List.mem_map_of_mem hx)
      rw [JsMap.get_set_other _ _ hdistinct]
      exact hall x (List.mem_cons_of_mem _ hx)

/-- Results that a suite accepts: one for each contour that it defines, and none missing whose
absence it does not allow. -/
structure Accepted (suite : HealthSuiteDefinition) (results : List HealthContourResult) : Prop where
  defined : ∀ r ∈ results, Defined suite r
  nodup : (results.map (·.contourKey)).Nodup
  complete : ∀ contour ∈ suite.contours, absenceAllowed contour suite = false →
    ∃ r ∈ results, r.contourKey = contour.key

theorem missingResult_iff (hnodup : (results.map (·.contourKey)).Nodup) :
    missingResult suite (mapOf (·.contourKey) results) = false ↔
      ∀ contour ∈ suite.contours, absenceAllowed contour suite = false →
        ∃ r ∈ results, r.contourKey = contour.key := by
  rw [missingResult, List.any_eq_false]
  refine forall₂_congr fun contour _ => ?_
  rw [← mapOf_has hnodup]
  cases (mapOf (·.contourKey) results).has contour.key <;> simp

theorem validateResultsAgainstSuite_iff {byKey : JsMap BaselineContourKey HealthContourResult} :
    validateResultsAgainstSuite suite results = .ok byKey ↔
      Accepted suite results ∧ byKey = mapOf (·.contourKey) results := by
  unfold validateResultsAgainstSuite
  constructor
  · intro h
    cases hfold : results.foldlM (addResult suite) .empty with
    | error e =>
      rw [hfold] at h
      cases h
    | ok collected =>
      obtain ⟨hall, hnodup, hcollected⟩ := foldlM_addResult_iff.mp hfold
      rw [← mapOf] at hcollected
      subst hcollected
      rw [hfold] at h
      dsimp only [bind, Except.bind] at h
      split at h
      · cases h
      · rename_i hcomplete
        cases h
        exact ⟨⟨fun r hr => (hall r hr).2, hnodup,
          (missingResult_iff hnodup).mp (eq_false_of_ne_true hcomplete)⟩, rfl⟩
  · rintro ⟨haccepted, rfl⟩
    have hall : ∀ r ∈ results,
        (JsMap.empty : JsMap BaselineContourKey HealthContourResult).get r.contourKey = none ∧
          Defined suite r :=
      fun r hr => ⟨rfl, haccepted.defined r hr⟩
    have hcomplete := (missingResult_iff haccepted.nodup).mpr haccepted.complete
    rw [foldlM_addResult_iff.mpr ⟨hall, haccepted.nodup, rfl⟩, ← mapOf]
    dsimp only [bind, Except.bind]
    rw [if_neg (by simp [hcomplete])]

variable {m : Bool} {environment : EnvironmentAssessment} {out : HealthClassificationResult}
  {contour : HealthContourDefinition} {r : HealthContourResult} {others : List HealthContourResult}
  {findings : List HealthProductFinding}

theorem Accepted.perm (h : Accepted suite results) (hperm : results.Perm others) :
    Accepted suite others where
  defined r hr := h.defined r (hperm.mem_iff.mpr hr)
  nodup := (hperm.map _).nodup_iff.mp h.nodup
  complete contour hcontour habsence := by
    obtain ⟨r, hr, hkey⟩ := h.complete contour hcontour habsence
    exact ⟨r, hperm.mem_iff.mp hr, hkey⟩

/-- Two uncertain results are as incoherent as two others. -/
theorem assessEnvironment_perm (hperm : results.Perm others) (byKey : ByKey)
    (findings : List HealthProductFinding) :
    assessEnvironment results byKey findings = assessEnvironment others byKey findings := by
  have huncertain : (uncertainResults results).Perm (uncertainResults others) := hperm.filter _
  unfold assessEnvironment
  generalize uncertainResults results = left at huncertain ⊢
  generalize uncertainResults others = right at huncertain ⊢
  match left with
  | [] => rw [huncertain.nil_eq]
  | [blocker] => rw [huncertain.singleton_eq]
  | first :: second :: rest =>
    have hlength := huncertain.length_eq
    match right with
    | [] => cases hlength
    | [blocker] => cases hlength
    | _ :: _ :: _ => rfl

theorem HealthClassificationInput.isValid_perm (hperm : results.Perm others) :
    isValid ⟨suite, results, m⟩ =
      isValid ⟨suite, others, m⟩ := by
  rw [Bool.eq_iff_iff]
  simp [isValid, hperm.mem_iff]

/-- What an accepted input goes through. -/
theorem classifyHealthDetailed_iff :
    classifyHealthDetailed ⟨suite, results, m⟩ = .ok out ↔
      isValid ⟨suite, results, m⟩ = true ∧ Accepted suite results ∧
        ∃ environment,
          assessEnvironment results (mapOf (·.contourKey) results).get
            (productFindings suite (mapOf (·.contourKey) results).get) = .ok environment ∧
          immutableResult (classification suite (mapOf (·.contourKey) results).get m
            (productFindings suite (mapOf (·.contourKey) results).get) environment) = .ok out := by
  unfold classifyHealthDetailed parseInput
  constructor
  · intro h
    by_cases hvalid : isValid ⟨suite, results, m⟩ = true
    · rw [if_pos hvalid] at h
      dsimp only [bind, Except.bind] at h
      cases hbyKey : validateResultsAgainstSuite suite results with
      | error e =>
        rw [hbyKey] at h
        cases h
      | ok byKey =>
        obtain ⟨haccepted, rfl⟩ := validateResultsAgainstSuite_iff.mp hbyKey
        rw [hbyKey] at h
        dsimp only at h
        cases henvironment : assessEnvironment results (mapOf (·.contourKey) results).get
            (productFindings suite (mapOf (·.contourKey) results).get) with
        | error e =>
          rw [henvironment] at h
          cases h
        | ok environment =>
          rw [henvironment] at h
          exact ⟨hvalid, haccepted, environment, rfl, h⟩
    · rw [if_neg hvalid] at h
      cases h
  · rintro ⟨hvalid, haccepted, environment, henvironment, hout⟩
    rw [if_pos hvalid]
    dsimp only [bind, Except.bind]
    rw [validateResultsAgainstSuite_iff.mpr ⟨haccepted, rfl⟩]
    dsimp only
    rw [henvironment]
    exact hout

/-- The order of the results changes nothing. -/
theorem classifyHealthDetailed_perm (hperm : results.Perm others)
    (h : classifyHealthDetailed ⟨suite, results, m⟩ = .ok out) :
    classifyHealthDetailed ⟨suite, others, m⟩ = .ok out := by
  obtain ⟨hvalid, haccepted, environment, henvironment, hout⟩ := classifyHealthDetailed_iff.mp h
  have hget := mapOf_get_perm hperm haccepted.nodup
  rw [HealthClassificationInput.isValid_perm hperm] at hvalid
  rw [hget, assessEnvironment_perm hperm] at henvironment
  rw [hget] at hout
  exact classifyHealthDetailed_iff.mpr
    ⟨hvalid, haccepted.perm hperm, environment, henvironment, hout⟩

theorem basisForFindings_healthy (h : (basisForFindings findings).1 = .HEALTHY) :
    findings = [] := by
  unfold basisForFindings at h
  cases findings with
  | nil => rfl
  | cons first rest =>
    obtain ⟨key, finding⟩ := first
    cases finding <;> simp at h <;> split at h <;> (try split at h) <;> cases h

theorem basisForFindings_broken (h : (basisForFindings findings).1 = .BROKEN) :
    ∃ finding ∈ findings, finding.finding = .BROKEN := by
  unfold basisForFindings at h
  by_cases hbroken : findings.any (·.finding = .BROKEN) = true
  · simpa using hbroken
  · rw [if_neg hbroken] at h
    split at h
    · cases h
    · split at h <;> cases h

/-- A state that is neither maintenance nor unknown is that of the findings. -/
theorem classification_state {byKey : ByKey} {state : HealthState}
    (h : (classification suite byKey m findings environment).state = state)
    (hmaintenance : state ≠ .MAINTENANCE) (hunknown : state ≠ .UNKNOWN) :
    (basisForFindings findings).1 = state ∧
      (environment.productPrecedence = true ∨ environment.unknownBasis = none) := by
  obtain ⟨reasons, unknownBasis, productPrecedence⟩ := environment
  unfold classification at h
  cases m with
  | true => exact absurd h.symm hmaintenance
  | false =>
    cases productPrecedence with
    | true => exact ⟨h, .inl rfl⟩
    | false =>
      cases unknownBasis with
      | some basis => exact absurd h.symm hunknown
      | none => exact ⟨h, .inr rfl⟩

theorem immutableResult_ok {result : HealthClassificationResult}
    (h : immutableResult result = .ok out) : out = result := by
  unfold immutableResult at h
  split at h
  · exact (Except.ok.inj h).symm
  · cases h

/-- Without independent findings a blocker leaves the state unknown. -/
theorem assessBlocker_blocks {reasons : List (Option EnvironmentUncertaintyReason)}
    {reason : EnvironmentUncertaintyReason} {confident : Bool}
    (h : assessBlocker reasons reason confident false = .ok environment) :
    environment.productPrecedence = false ∧ environment.unknownBasis ≠ none := by
  unfold assessBlocker at h
  split at h
  · cases confident with
    | true => cases h
    | false =>
      cases h
      exact ⟨rfl, by simp⟩
  · split at h
    · cases h
    · cases confident <;> cases h <;> exact ⟨rfl, by simp⟩

/-- An environment that leaves the findings their say, without any, is a certain one. -/
theorem assessEnvironment_certain {byKey : ByKey}
    (h : assessEnvironment results byKey [] = .ok environment)
    (hproduct : environment.productPrecedence = true ∨ environment.unknownBasis = none) :
    uncertainResults results = [] := by
  unfold assessEnvironment at h
  split at h
  · assumption
  · split at h
    · split at h
      · obtain ⟨hprecedence, hbasis⟩ := assessBlocker_blocks h
        rcases hproduct with hproduct | hproduct
        · rw [hprecedence] at hproduct
          cases hproduct
        · exact absurd hproduct hbasis
      · cases h
    · cases h
  · cases h

theorem mem_uncertainResults :
    r ∈ uncertainResults results ↔ r ∈ results ∧ r.environmentStatus = .UNCERTAIN := by
  simp [uncertainResults]

theorem certain_of_not_uncertain (h : r.environmentStatus ≠ .UNCERTAIN) :
    r.environmentStatus = .VALID := by
  cases hstatus : r.environmentStatus with
  | VALID => rfl
  | UNCERTAIN => exact absurd hstatus h

theorem contourFinding_eq_none {required : Bool} (h : contourFinding contour required r = none) :
    (r.observationStatus ≠ .PRESENT ∧ required = false) ∨
      (r.observationStatus = .PRESENT ∧ r.passed = true) := by
  unfold contourFinding at h
  split at h
  · rename_i habsent
    refine .inl ⟨habsent, ?_⟩
    cases required with
    | false => rfl
    | true =>
      rw [if_neg (by decide)] at h
      split at h <;> cases h
  · rename_i hpresent
    refine .inr ⟨not_not.mp hpresent, ?_⟩
    by_contra hpassed
    rw [if_neg hpassed] at h
    split at h
    · cases h
    · split at h
      · cases h
      · split at h <;> cases h

theorem contourFinding_broken {required : Bool}
    (h : contourFinding contour required r = some .BROKEN) :
    required = true ∧ contour.failureSeverity = .CORE ∧
      (r.observationStatus = .PRESENT → r.passed = false) := by
  unfold contourFinding at h
  split at h
  · rename_i habsent
    cases required with
    | false => cases h
    | true =>
      by_cases hcore : contour.failureSeverity = .CORE
      · exact ⟨rfl, hcore, fun hpresent => absurd hpresent habsent⟩
      · simp [hcore] at h
  · split at h
    · cases h
    · rename_i hfailed
      split at h
      · cases h
      · split at h
        · cases h
        · split at h
          · rename_i hcore
            rw [Bool.and_eq_true, decide_eq_true_eq] at hcore
            exact ⟨hcore.1, hcore.2, fun _ => eq_false_of_ne_true hfailed⟩
          · cases h

/-- The finding of a contour, from its result. -/
theorem productFinding_of_result (haccepted : Accepted suite results) (hr : r ∈ results)
    (hkey : r.contourKey = contour.key) (hcertain : r.environmentStatus ≠ .UNCERTAIN) :
    productFinding suite (mapOf (·.contourKey) results).get contour =
      (contourFinding contour (isRequiredForScope contour suite) r).map
        fun finding => { contourKey := contour.key, finding } := by
  have hget : (mapOf (·.contourKey) results).get contour.key = some r :=
    (mapOf_get_iff haccepted.nodup).mpr ⟨hr, hkey⟩
  rw [productFinding, hget, Option.filter_some, if_pos (by simpa using hcertain)]
  dsimp only [bind, Option.bind]
  cases contourFinding contour (isRequiredForScope contour suite) r <;> rfl

/-- What it takes for a run to be healthy. -/
structure Healthy (suite : HealthSuiteDefinition) (results : List HealthContourResult) : Prop where
  accepted : Accepted suite results
  certain : ∀ r ∈ results, r.environmentStatus = .VALID
  sound : ∀ contour ∈ suite.contours, ∀ r ∈ results, r.contourKey = contour.key →
    (r.observationStatus ≠ .PRESENT ∧ isRequiredForScope contour suite = false) ∨
      (r.observationStatus = .PRESENT ∧ r.passed = true)

theorem healthy_of_classify (h : classifyHealthDetailed ⟨suite, results, m⟩ = .ok out)
    (hstate : out.state = .HEALTHY) :
    Healthy suite results := by
  obtain ⟨hvalid, haccepted, environment, henvironment, hout⟩ := classifyHealthDetailed_iff.mp h
  rw [immutableResult_ok hout] at hstate
  obtain ⟨hbasis, hproduct⟩ := classification_state hstate (by decide) (by decide)
  have hfindings := basisForFindings_healthy hbasis
  rw [hfindings] at henvironment
  have huncertain := assessEnvironment_certain henvironment hproduct
  have hcertain : ∀ r ∈ results, r.environmentStatus ≠ .UNCERTAIN := by
    intro r hr hstatus
    have hmem := mem_uncertainResults.mpr ⟨hr, hstatus⟩
    rw [huncertain] at hmem
    cases hmem
  refine ⟨haccepted, fun r hr => certain_of_not_uncertain (hcertain r hr), ?_⟩
  intro contour hcontour r hr hkey
  have hnone : productFinding suite (mapOf (·.contourKey) results).get contour = none :=
    List.filterMap_eq_nil_iff.mp hfindings contour hcontour
  rw [productFinding_of_result haccepted hr hkey (hcertain r hr), Option.map_eq_none_iff] at hnone
  exact contourFinding_eq_none hnone

/-- A required contour may not be absent. -/
theorem absenceAllowed_of_required (h : isRequiredForScope contour suite = true) :
    absenceAllowed contour suite = false := by
  simp [absenceAllowed, h]

theorem Healthy.required_passed (h : Healthy suite results) (hcontour : contour ∈ suite.contours)
    (hrequired : isRequiredForScope contour suite = true) :
    ∃ r ∈ results, r.contourKey = contour.key ∧ r.observationStatus = .PRESENT ∧
      r.environmentStatus = .VALID ∧ r.passed = true := by
  obtain ⟨r, hr, hkey⟩ := h.accepted.complete contour hcontour (absenceAllowed_of_required hrequired)
  rcases h.sound contour hcontour r hr hkey with ⟨-, hoptional⟩ | ⟨hpresent, hpassed⟩
  · rw [hrequired] at hoptional
    cases hoptional
  · exact ⟨r, hr, hkey, hpresent, h.certain r hr, hpassed⟩

/-- A broken run has a required core contour that failed in a certain environment. -/
theorem broken_of_classify (h : classifyHealthDetailed ⟨suite, results, m⟩ = .ok out)
    (hstate : out.state = .BROKEN) :
    ∃ contour ∈ suite.contours, isRequiredForScope contour suite = true ∧
      contour.failureSeverity = .CORE ∧ ∃ r ∈ results, r.contourKey = contour.key ∧
        r.environmentStatus = .VALID ∧ (r.observationStatus = .PRESENT → r.passed = false) ∧
          contourFinding contour (isRequiredForScope contour suite) r = some .BROKEN := by
  obtain ⟨hvalid, haccepted, environment, henvironment, hout⟩ := classifyHealthDetailed_iff.mp h
  rw [immutableResult_ok hout] at hstate
  obtain ⟨hbasis, -⟩ := classification_state hstate (by decide) (by decide)
  obtain ⟨finding, hmem, hfinding⟩ := basisForFindings_broken hbasis
  obtain ⟨contour, hcontour, hproduct⟩ := List.mem_filterMap.mp hmem
  cases hget : (mapOf (·.contourKey) results).get contour.key with
  | none =>
    rw [productFinding, hget] at hproduct
    cases hproduct
  | some r =>
    obtain ⟨hr, hkey⟩ := (mapOf_get_iff haccepted.nodup).mp hget
    by_cases huncertain : r.environmentStatus = .UNCERTAIN
    · rw [productFinding, hget, Option.filter_some, if_neg (by simpa using huncertain)] at hproduct
      cases hproduct
    · rw [productFinding_of_result haccepted hr hkey huncertain] at hproduct
      obtain ⟨kind, hkind, rfl⟩ := Option.map_eq_some_iff.mp hproduct
      obtain rfl : kind = .BROKEN := hfinding
      obtain ⟨hrequired, hcore, hfailed⟩ := contourFinding_broken hkind
      exact ⟨contour, hcontour, hrequired, hcore, r, hr, hkey,
        certain_of_not_uncertain huncertain, hfailed, hkind⟩

end SellerAgents.Health
