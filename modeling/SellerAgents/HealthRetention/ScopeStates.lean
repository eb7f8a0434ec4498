import SellerAgents.HealthRetention.RecentStates

open Relational SellerAgents.Health

namespace SellerAgents.HealthRetention

variable {ρ δ : Type} [LinearOrder ρ] {seen : List (Incoming ρ δ)} {incoming : Incoming ρ δ}

/-- The recent states of a scope after one of its observations. -/
theorem recordRecent_scope {table : List (RecentState ρ δ)}
    (hdistinct : Distinct (seen ++ [incoming]))
    (h : RecentOf seen (table.filter (·.scopeSha256 = incoming.scopeSha256))) :
    RecentOf (seen ++ [incoming])
      ((recordRecent table incoming).filter (·.scopeSha256 = incoming.scopeSha256)) := by
  have hscope : ∀ row ∈ table.filter (·.scopeSha256 = incoming.scopeSha256),
      row.scopeSha256 = incoming.scopeSha256 := by
    intro row hmem
    simpa using (List.mem_filter.mp hmem).2
  rw [recordRecent]
  generalize hrows : table.filter (·.scopeSha256 = incoming.scopeSha256) = rows at h hscope
  cases hmatching : rows.find? (·.normalizedResultSha256 = incoming.normalizedResultSha256) with
  | some matching =>
    have hmem := List.mem_of_find?_eq_some hmatching
    have hresult : matching.normalizedResultSha256 = incoming.normalizedResultSha256 := by
      simpa using List.find?_some hmatching
    simp only
    rw [filter_updateWhere, hrows]
    · refine h.repeats hdistinct hmem hresult fun row hrow => ?_
      simp [hscope row hrow]
    · exact fun _ _ => rfl
  | none =>
    have hnew : ∀ row ∈ rows, row.normalizedResultSha256 ≠ incoming.normalizedResultSha256 := by
      intro row hrow
      simpa using List.find?_eq_none.mp hmatching row hrow
    simp only
    cases hfree : freeSlot rows with
    | some slot =>
      simp only
      rw [List.filter_append, hrows, List.filter_singleton]
      simp only [Incoming.entry, decide_true]
      exact h.inserts hfree hnew
    | none =>
      simp only
      cases hreplaced : replacement (rows.mergeSort rowLe) incoming with
      | none =>
        simp only
        rw [hrows]
        refine h.unchanged fun hnewest => ?_
        obtain ⟨row, -, hsome, -⟩ := replacement_newest h hdistinct hnewest hfree
        rw [hreplaced] at hsome
        cases hsome
      | some row =>
        have hmem := replacement_mem hreplaced
        simp only
        split
        · rw [filter_updateWhere, hrows]
          · refine h.replaces hmem hnew ?_ fun old hold => by simp [hscope old hold]
            intro o ho _ hshows
            exact replacement_spares h hdistinct ho hfree hmem hshows hreplaced
          · intro old hold
            rw [Bool.and_eq_true, decide_eq_true_eq] at hold
            simp [Incoming.entry, hold.1]
        · rename_i hmay
          rw [hrows]
          refine h.unchanged fun hnewest => hmay ?_
          obtain ⟨other, -, hsome, hother⟩ := replacement_newest h hdistinct hnewest hfree
          rw [hreplaced] at hsome
          cases hsome
          exact hother

/-- The rows of the other scopes stay as they are. -/
theorem recordRecent_other (table : List (RecentState ρ δ)) {scope : String}
    (hscope : scope ≠ incoming.scopeSha256) :
    (recordRecent table incoming).filter (·.scopeSha256 = scope) =
      table.filter (·.scopeSha256 = scope) := by
  have hupdate : ∀ (q : RecentState ρ δ → Bool) (f : RecentState ρ δ → RecentState ρ δ),
      (∀ row, row.scopeSha256 = incoming.scopeSha256 →
        (f row).scopeSha256 = incoming.scopeSha256) →
      (updateWhere (fun row => row.scopeSha256 = incoming.scopeSha256 && q row) f table).filter
        (·.scopeSha256 = scope) = table.filter (·.scopeSha256 = scope) := by
    intro q f hf
    rw [filter_updateWhere, updateWhere_of_none]
    · intro row hrow
      have hrowScope : row.scopeSha256 = scope := by simpa using (List.mem_filter.mp hrow).2
      simp [hrowScope, hscope]
    · intro row hp
      rw [Bool.and_eq_true, decide_eq_true_eq] at hp
      simp [hp.1, hf row hp.1]
  rw [recordRecent]
  dsimp only
  split
  · exact hupdate _ _ fun _ h => h
  · split
    · rw [List.filter_append, List.filter_singleton]
      simp [Incoming.entry, hscope.symm]
    · split
      · rfl
      · split
        · exact hupdate _ _ fun _ _ => rfl
        · rfl

section ScopeStates

/-- The latest columns of a state row are of an observation. -/
structure ScopeState.Latest (state : ScopeState ρ) (o : Incoming ρ δ) : Prop where
  run : state.latestRunId = o.receipt.runId
  result : state.latestNormalizedResultSha256 = o.normalizedResultSha256
  healthState : state.latestHealthState = o.observation.classification
  classificationBasis : state.latestClassificationBasis = o.observation.classificationBasis
  surfaceOutcome : state.latestSurfaceOutcome = o.observation.surfaceOutcome
  blocker : state.latestBlocker = o.observation.blocker
  observedAt : state.latestObservedAt = o.observedAt

/-- The greatest time of a decisive observation, none when there is no such observation. -/
def IsLastVerified (seen : List (Incoming ρ δ)) : Option Int → Prop
  | none => ∀ o ∈ seen, o.isDecisive = false
  | some at' => (∃ o ∈ seen, o.isDecisive = true ∧ o.observedAt = at') ∧
      ∀ o ∈ seen, o.isDecisive = true → o.observedAt ≤ at'

/-- What the state row of a scope says of the observations that the scope has seen. -/
structure ScopeOf (seen : List (Incoming ρ δ)) (state : ScopeState ρ) : Prop where
  latest : ∃ o, IsNewest seen (fun _ => true) o ∧ state.Latest o
  attempted : (∃ o ∈ seen, o.receipt.completedAt = state.lastAttemptAt) ∧
    ∀ o ∈ seen, o.receipt.completedAt ≤ state.lastAttemptAt
  verified : IsLastVerified seen state.lastVerifiedAt
  identity : ∀ o ∈ seen, identityConflict state o = false

variable {state : ScopeState ρ}

omit [LinearOrder ρ] in
theorem ScopeState.Latest.sighting {o : Incoming ρ δ} (h : state.Latest o) :
    state.sighting = o.sighting := by
  rw [ScopeState.sighting, h.run, h.observedAt]
  rfl

omit [LinearOrder ρ] in
theorem identityConflict_state (incoming : Incoming ρ δ) :
    identityConflict incoming.state incoming = false := by
  simp [identityConflict, Incoming.state]

/-- The row that the first observation of a scope inserts. -/
theorem scopeOf_first (incoming : Incoming ρ δ) : ScopeOf [incoming] incoming.state where
  latest := by
    refine ⟨incoming, ⟨⟨List.mem_singleton_self _, rfl⟩, ?_⟩, rfl, rfl, rfl, rfl, rfl, rfl, rfl⟩
    intro other hother _
    rw [List.mem_singleton.mp hother]
    exact isAfter_irrefl _
  attempted := by
    refine ⟨⟨incoming, List.mem_singleton_self _, rfl⟩, fun o ho => ?_⟩
    rw [List.mem_singleton.mp ho]
    exact le_refl _
  verified := by
    simp only [Incoming.state]
    split
    · rename_i hunknown
      intro o ho
      rw [List.mem_singleton.mp ho, Incoming.isDecisive, decide_eq_false_iff_not, not_not]
      exact hunknown
    · rename_i hdecisive
      refine ⟨⟨incoming, List.mem_singleton_self _, decide_eq_true hdecisive, rfl⟩, fun o ho _ => ?_⟩
      rw [List.mem_singleton.mp ho]
  identity := by
    intro o ho
    rw [List.mem_singleton.mp ho]
    exact identityConflict_state incoming

/-- An update by the observation that a row was made of changes nothing. -/
theorem observed_state (incoming : Incoming ρ δ) :
    incoming.state.observed incoming = incoming.state := by
  have hsame : isAfter incoming.sighting incoming.state.sighting = false :=
    isAfter_irrefl incoming.sighting
  rw [ScopeState.observed]
  simp only [hsame, Bool.false_eq_true, if_false]
  have hverified : (if incoming.observation.classification ≠ .UNKNOWN ∧
      incoming.state.lastVerifiedAt.all (· < incoming.observedAt) = true then
        some incoming.observedAt else incoming.state.lastVerifiedAt) =
      incoming.state.lastVerifiedAt := by
    simp only [Incoming.state]
    by_cases hunknown : incoming.observation.classification = .UNKNOWN
    · simp [hunknown]
    · simp [hunknown]
  rw [hverified]
  simp [Incoming.state]

theorem IsNewest.append {o : Incoming ρ δ} (h : IsNewest seen (fun _ => true) o) :
    IsNewest (seen ++ [incoming]) (fun _ => true)
      (if isAfter incoming.sighting o.sighting then incoming else o) := by
  obtain ⟨⟨hmem, -⟩, hmax⟩ := h
  split
  · rename_i hafter
    refine ⟨⟨by simp, rfl⟩, fun other hother _ => ?_⟩
    rcases List.mem_append.mp hother with hother | hother
    · exact isAfter_asymm (isAfter_of_le hafter (hmax other hother rfl))
    · rw [List.mem_singleton.mp hother]
      exact isAfter_irrefl _
  · rename_i hafter
    refine ⟨⟨List.mem_append_left _ hmem, rfl⟩, fun other hother _ => ?_⟩
    rcases List.mem_append.mp hother with hother | hother
    · exact hmax other hother rfl
    · rw [List.mem_singleton.mp hother]
      simpa using hafter

theorem observed_latest {o : Incoming ρ δ} (h : state.Latest o) :
    (state.observed incoming).Latest
      (if isAfter incoming.sighting o.sighting then incoming else o) := by
  have hsighting := h.sighting
  cases hafter : isAfter incoming.sighting o.sighting with
  | true => constructor <;> simp [ScopeState.observed, hsighting, hafter]
  | false =>
    obtain ⟨hrun, hresult, hstate, hbasis, houtcome, hblocker, hat⟩ := h
    constructor <;> simp [ScopeState.observed, *]

theorem IsLastVerified.observed (h : IsLastVerified seen state.lastVerifiedAt) :
    IsLastVerified (seen ++ [incoming]) (state.observed incoming).lastVerifiedAt := by
  have hat : (state.observed incoming).lastVerifiedAt =
      if incoming.isDecisive = true ∧ state.lastVerifiedAt.all (· < incoming.observedAt) = true then
        some incoming.observedAt
      else state.lastVerifiedAt := by
    simp only [ScopeState.observed, Incoming.isDecisive, decide_eq_true_eq]
  rw [hat]
  cases hprior : state.lastVerifiedAt with
  | none =>
    rw [hprior] at h
    cases hdecisive : incoming.isDecisive with
    | true =>
      refine ⟨⟨incoming, by simp, hdecisive, rfl⟩, fun o ho hother => ?_⟩
      rcases List.mem_append.mp ho with ho | ho
      · rw [h o ho] at hother
        cases hother
      · rw [List.mem_singleton.mp ho]
    | false =>
      intro o ho
      rcases List.mem_append.mp ho with ho | ho
      · exact h o ho
      · rw [List.mem_singleton.mp ho]
        exact hdecisive
  | some prior =>
    rw [hprior] at h
    obtain ⟨⟨o, ho, hdecisive, heq⟩, hmax⟩ := h
    split
    · rename_i hlater
      have hlt : prior < incoming.observedAt := by simpa using hlater.2
      refine ⟨⟨incoming, by simp, hlater.1, rfl⟩, fun other hother hdec => ?_⟩
      rcases List.mem_append.mp hother with hother | hother
      · have hle := hmax other hother hdec
        omega
      · rw [List.mem_singleton.mp hother]
    · rename_i hlater
      refine ⟨⟨o, List.mem_append_left _ ho, hdecisive, heq⟩, fun other hother hdec => ?_⟩
      rcases List.mem_append.mp hother with hother | hother
      · exact hmax other hother hdec
      · rw [List.mem_singleton.mp hother] at hdec ⊢
        by_contra hlt
        exact hlater ⟨hdec, by simpa using hlt⟩

/-- The state row of a scope after one more of its observations. -/
theorem ScopeOf.observed (h : ScopeOf seen state) (hsame : identityConflict state incoming = false) :
    ScopeOf (seen ++ [incoming]) (state.observed incoming) where
  latest := by
    obtain ⟨o, hnewest, hlatest⟩ := h.latest
    exact ⟨_, hnewest.append, observed_latest hlatest⟩
  attempted := by
    obtain ⟨⟨o, ho, heq⟩, hmax⟩ := h.attempted
    have hat : (state.observed incoming).lastAttemptAt =
        if state.lastAttemptAt < incoming.receipt.completedAt then incoming.receipt.completedAt
        else state.lastAttemptAt := rfl
    rw [hat]
    split
    · refine ⟨⟨incoming, by simp, rfl⟩, fun other hother => ?_⟩
      rcases List.mem_append.mp hother with hother | hother
      · have hle := hmax other hother
        omega
      · rw [List.mem_singleton.mp hother]
    · refine ⟨⟨o, List.mem_append_left _ ho, heq⟩, fun other hother => ?_⟩
      rcases List.mem_append.mp hother with hother | hother
      · exact hmax other hother
      · rw [List.mem_singleton.mp hother]
        omega
  verified := h.verified.observed
  identity := by
    intro o ho
    rcases List.mem_append.mp ho with ho | ho
    · exact h.identity o ho
    · rw [List.mem_singleton.mp ho]
      exact hsame

end ScopeStates

section Receipts

/-- A receipt that no projection has been written to. -/
def RunReceipt.Open (row : RunReceipt ρ) : Prop :=
  row.normalizedResultSha256 = none ∧ row.projectionAppliedAt = none

theorem applyReceipt_open {receipts : List (RunReceipt ρ)} {projectedAt : Int}
    (h : ∃ row ∈ receipts, row.runId = incoming.receipt.runId ∧ row.Open) :
    ∃ receipts', applyReceipt receipts incoming projectedAt = .ok receipts' := by
  obtain ⟨row, hmem, hrun, hresult, hat⟩ := h
  rw [applyReceipt, if_pos (List.any_eq_true.mpr ⟨row, hmem, by simp [hrun, hresult, hat]⟩)]
  exact ⟨_, rfl⟩

/-- The receipts of other runs stay open. -/
theorem applyReceipt_other {receipts receipts' : List (RunReceipt ρ)} {projectedAt : Int}
    (h : applyReceipt receipts incoming projectedAt = .ok receipts') {runId : ρ}
    (hother : runId ≠ incoming.receipt.runId)
    (hopen : ∃ row ∈ receipts, row.runId = runId ∧ row.Open) :
    ∃ row ∈ receipts', row.runId = runId ∧ row.Open := by
  obtain ⟨row, hmem, hrun, hrow⟩ := hopen
  simp only [applyReceipt] at h
  split at h
  · cases h
    exact ⟨row, mem_updateWhere.mpr (.inl ⟨hmem, by simp [hrun, hother]⟩), hrun, hrow⟩
  · split at h
    · cases h
    · cases h
      exact ⟨row, hmem, hrun, hrow⟩

end Receipts

end SellerAgents.HealthRetention
