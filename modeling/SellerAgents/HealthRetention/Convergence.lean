import Mathlib.Data.Countable.Basic
import Mathlib.Logic.Equiv.List
import Mathlib.Tactic.DeriveCountable
import SellerAgents.HealthRetention.ScopeStates

open Relational SellerAgents.Health

namespace SellerAgents.HealthRetention

variable {ρ δ : Type} [LinearOrder ρ]

/-- The arguments of one projection. -/
structure Projection (ρ δ : Type) where
  receipt : ProjectionReceipt ρ
  observation : NoSessionObservationResult δ
  projectedAt : Int

/-- Projections in the order in which they are made. -/
def projectAll (hashJson : HashInput δ → String) (db : CompactDatabase ρ δ)
    (projections : List (Projection ρ δ)) : Except CompactFailure (CompactDatabase ρ δ) :=
  projections.foldlM (fun db projection =>
    (recordNoSessionCompactStateInTransaction hashJson db projection.receipt projection.observation
      projection.projectedAt).map Prod.snd) db

section Observations

variable (hashJson : HashInput δ → String)

/-- What a projection with a valid time writes. -/
def Projection.incoming (projection : Projection ρ δ) : Option (Incoming ρ δ) :=
  projection.observation.observedAt.map fun observedAt =>
    { scopeSha256 := noSessionRetentionScopeSha256 hashJson projection.receipt projection.observation
      normalizedResultSha256 := normalizedNoSessionResultSha256 hashJson projection.observation
      observation := projection.observation
      receipt := projection.receipt
      observedAt }

/-- The observations of a retention scope among those that are projected. -/
def observationsOf (projections : List (Projection ρ δ)) (scope : String) : List (Incoming ρ δ) :=
  (projections.filterMap (·.incoming hashJson)).filter (·.scopeSha256 = scope)

end Observations

/-- The state row of a scope, which the first of its observations makes. -/
def ScopeRow (seen : List (Incoming ρ δ)) (rows : List (ScopeState ρ)) : Prop :=
  (seen = [] ∧ rows = []) ∨ ∃ state, rows = [state] ∧ ScopeOf seen state

/-- The state tables after some projections. -/
structure Projected (hashJson : HashInput δ → String) (db : CompactDatabase ρ δ)
    (projections : List (Projection ρ δ)) : Prop where
  states : ∀ scope, ScopeRow (observationsOf hashJson projections scope)
    (db.scopeStates.filter (·.scopeSha256 = scope))
  recent : ∀ scope, RecentOf (observationsOf hashJson projections scope)
    (db.recentStates.filter (·.scopeSha256 = scope))

section Step

variable {hashJson : HashInput δ → String} {db db' : CompactDatabase ρ δ}
  {projections : List (Projection ρ δ)} {projection : Projection ρ δ} {incoming : Incoming ρ δ}

omit [LinearOrder ρ] in
theorem incoming_eq_some : projection.incoming hashJson = some incoming ↔
    ∃ observedAt, projection.observation.observedAt = some observedAt ∧
      { scopeSha256 := noSessionRetentionScopeSha256 hashJson projection.receipt
          projection.observation
        normalizedResultSha256 := normalizedNoSessionResultSha256 hashJson projection.observation
        observation := projection.observation
        receipt := projection.receipt
        observedAt } = incoming := by
  rw [Projection.incoming, Option.map_eq_some_iff]

omit [LinearOrder ρ] in
/-- Observations of one scope agree on what a state row is of. -/
theorem identityConflict_of_scope (hinj : Function.Injective hashJson) {other : Projection ρ δ}
    {first : Incoming ρ δ} (hfirst : other.incoming hashJson = some first)
    (hincoming : projection.incoming hashJson = some incoming)
    (hscope : first.scopeSha256 = incoming.scopeSha256) {state : ScopeState ρ}
    (hstate : identityConflict state first = false) : identityConflict state incoming = false := by
  obtain ⟨_, -, rfl⟩ := incoming_eq_some.mp hfirst
  obtain ⟨_, -, rfl⟩ := incoming_eq_some.mp hincoming
  have hsame := hinj hscope
  simp only [HashInput.scope.injEq, retentionScope, RetentionScope.mk.injEq] at hsame
  obtain ⟨hprovider, hsurface, htarget, hstrategy, hrevision, hbrowser, -, -⟩ := hsame
  rw [← hstate]
  simp only [identityConflict, hprovider, hsurface, htarget, hstrategy, hrevision, hbrowser]

omit [LinearOrder ρ] in
theorem mem_observationsOf {scope : String} : incoming ∈ observationsOf hashJson projections scope ↔
    (∃ projection ∈ projections, projection.incoming hashJson = some incoming) ∧
      incoming.scopeSha256 = scope := by
  simp [observationsOf]

omit [LinearOrder ρ] in
theorem observationsOf_append (hincoming : projection.incoming hashJson = some incoming)
    (scope : String) : observationsOf hashJson (projections ++ [projection]) scope =
      if incoming.scopeSha256 = scope then observationsOf hashJson projections scope ++ [incoming]
      else observationsOf hashJson projections scope := by
  rw [observationsOf, List.filterMap_append, List.filter_append, ← observationsOf]
  simp only [List.filterMap_cons, List.filterMap_nil, hincoming, List.filter_singleton]
  split <;> simp_all

omit [LinearOrder ρ] in
/-- The observations of a scope are told apart by their runs, and a result has one state. -/
theorem distinct_observationsOf (hinj : Function.Injective hashJson)
    (hruns : (projections.map (·.receipt.runId)).Nodup) (scope : String) :
    Distinct (observationsOf hashJson projections scope) where
  runs := by
    have hsub : ((observationsOf hashJson projections scope).map (·.receipt.runId)).Sublist
        (projections.map (·.receipt.runId)) := by
      have hmap : ∀ projections : List (Projection ρ δ),
          ((projections.filterMap (·.incoming hashJson)).map (·.receipt.runId)).Sublist
            (projections.map (·.receipt.runId)) := by
        intro projections
        induction projections with
        | nil => exact List.Sublist.slnil
        | cons projection rest ih =>
          cases hincoming : projection.incoming hashJson with
          | none =>
            rw [List.filterMap_cons_none hincoming, List.map_cons]
            exact ih.cons _
          | some incoming =>
            obtain ⟨_, -, rfl⟩ := incoming_eq_some.mp hincoming
            rw [List.filterMap_cons_some hincoming, List.map_cons, List.map_cons]
            exact ih.cons_cons _
      exact (List.filter_sublist.map _).trans (hmap projections)
    exact hruns.sublist hsub
  classified := by
    intro a ha b hb hresult
    obtain ⟨⟨first, -, hfirst⟩, -⟩ := mem_observationsOf.mp ha
    obtain ⟨⟨second, -, hsecond⟩, -⟩ := mem_observationsOf.mp hb
    obtain ⟨_, -, rfl⟩ := incoming_eq_some.mp hfirst
    obtain ⟨_, -, rfl⟩ := incoming_eq_some.mp hsecond
    have hsame := hinj hresult
    simp only [HashInput.compact.injEq, compactNoSessionState, CompactNoSessionState.mk.injEq]
      at hsame
    exact hsame.1

theorem record_eq (hstate : projection.observation.classification = projection.receipt.healthState)
    (hincoming : projection.incoming hashJson = some incoming) :
    (recordNoSessionCompactStateInTransaction hashJson db projection.receipt
      projection.observation projection.projectedAt).map Prod.snd =
      recordIncoming db incoming projection.projectedAt := by
  obtain ⟨observedAt, hat, rfl⟩ := incoming_eq_some.mp hincoming
  rw [recordNoSessionCompactStateInTransaction, if_neg (not_not.mpr hstate), hat]
  simp only
  generalize recordIncoming db _ projection.projectedAt = result
  cases result with
  | error failure => rfl
  | ok done => rfl

/-- What a projection that succeeds has done. -/
theorem record_ok (h : (recordNoSessionCompactStateInTransaction hashJson db projection.receipt
      projection.observation projection.projectedAt).map Prod.snd = .ok db') :
    ∃ incoming, projection.incoming hashJson = some incoming ∧
      recordIncoming db incoming projection.projectedAt = .ok db' := by
  by_cases hstate : projection.observation.classification = projection.receipt.healthState
  · cases hincoming : projection.incoming hashJson with
    | some incoming => exact ⟨incoming, rfl, (record_eq hstate hincoming).symm.trans h⟩
    | none =>
      rw [Projection.incoming, Option.map_eq_none_iff] at hincoming
      rw [recordNoSessionCompactStateInTransaction, if_neg (not_not.mpr hstate), hincoming] at h
      cases h
  · rw [recordNoSessionCompactStateInTransaction, if_pos hstate] at h
    cases h

omit [LinearOrder ρ] in
theorem insertScopeState_self (states : List (ScopeState ρ)) (row : ScopeState ρ) :
    (insertScopeState states row).filter (·.scopeSha256 = row.scopeSha256) =
      if states.filter (·.scopeSha256 = row.scopeSha256) = [] then [row]
      else states.filter (·.scopeSha256 = row.scopeSha256) := by
  rw [insertScopeState]
  by_cases hany : states.any (·.scopeSha256 = row.scopeSha256) = true
  · have hfound : states.filter (·.scopeSha256 = row.scopeSha256) ≠ [] := by
      intro hnil
      obtain ⟨found, hmem, hscope⟩ := List.any_eq_true.mp hany
      exact List.filter_eq_nil_iff.mp hnil found hmem hscope
    rw [if_pos hany, if_neg hfound]
  · have hnone : states.filter (·.scopeSha256 = row.scopeSha256) = [] := by
      rw [List.filter_eq_nil_iff]
      intro found hmem hscope
      exact hany (List.any_eq_true.mpr ⟨found, hmem, hscope⟩)
    rw [if_neg hany, if_pos hnone, List.filter_append, hnone]
    simp

omit [LinearOrder ρ] in
theorem insertScopeState_other {states : List (ScopeState ρ)} {row : ScopeState ρ} {scope : String}
    (h : row.scopeSha256 ≠ scope) :
    (insertScopeState states row).filter (·.scopeSha256 = scope) =
      states.filter (·.scopeSha256 = scope) := by
  rw [insertScopeState]
  split
  · rfl
  · simp [List.filter_append, h]

/-- The state rows after an observation. -/
theorem scopeRow_step (hinj : Function.Injective hashJson) (h : Projected hashJson db projections)
    (hincoming : projection.incoming hashJson = some incoming) {state : ScopeState ρ}
    (hfind : (insertScopeState db.scopeStates incoming.state).find?
      (·.scopeSha256 = incoming.scopeSha256) = some state) :
    identityConflict state incoming = false ∧
      ∀ scope, ScopeRow (observationsOf hashJson (projections ++ [projection]) scope)
        ((updateWhere (·.scopeSha256 = incoming.scopeSha256) (fun _ => state.observed incoming)
          (insertScopeState db.scopeStates incoming.state)).filter (·.scopeSha256 = scope)) := by
  have hscope : state.scopeSha256 = incoming.scopeSha256 := by simpa using List.find?_some hfind
  have hself := insertScopeState_self db.scopeStates incoming.state
  rw [← List.head?_filter] at hfind
  have hupdate : ∀ scope, (updateWhere (·.scopeSha256 = incoming.scopeSha256)
      (fun _ => state.observed incoming) (insertScopeState db.scopeStates incoming.state)).filter
        (·.scopeSha256 = scope) = updateWhere (·.scopeSha256 = incoming.scopeSha256)
          (fun _ => state.observed incoming)
          ((insertScopeState db.scopeStates incoming.state).filter (·.scopeSha256 = scope)) := by
    intro scope
    rw [filter_updateWhere]
    intro row hrow
    have hrowScope : row.scopeSha256 = incoming.scopeSha256 := by simpa using hrow
    simp [ScopeState.observed, hscope, hrowScope]
  have hone : updateWhere (·.scopeSha256 = incoming.scopeSha256) (fun _ => state.observed incoming)
      [state] = [state.observed incoming] := by
    simp [updateWhere, hscope]
  have hown : identityConflict state incoming = false ∧
      ScopeRow (observationsOf hashJson projections incoming.scopeSha256 ++ [incoming])
        (updateWhere (·.scopeSha256 = incoming.scopeSha256) (fun _ => state.observed incoming)
          ((insertScopeState db.scopeStates incoming.state).filter
            (·.scopeSha256 = incoming.scopeSha256))) := by
    rcases h.states incoming.scopeSha256 with ⟨hseen, hrows⟩ | ⟨prior, hrows, hprior⟩
    · -- The first observation of its scope.
      have hinserted : (insertScopeState db.scopeStates incoming.state).filter
          (·.scopeSha256 = incoming.scopeSha256) = [incoming.state] := by
        rw [show incoming.scopeSha256 = incoming.state.scopeSha256 from rfl, hself]
        exact if_pos hrows
      rw [hinserted] at hfind ⊢
      cases hfind
      refine ⟨identityConflict_state incoming, .inr ⟨incoming.state, ?_, ?_⟩⟩
      · rw [hone, observed_state]
      · rw [hseen]
        exact scopeOf_first incoming
    · have hkept : (insertScopeState db.scopeStates incoming.state).filter
          (·.scopeSha256 = incoming.scopeSha256) = [prior] := by
        rw [← hrows, show incoming.scopeSha256 = incoming.state.scopeSha256 from rfl, hself]
        refine if_neg ?_
        rw [show incoming.state.scopeSha256 = incoming.scopeSha256 from rfl, hrows]
        exact List.cons_ne_nil _ _
      rw [hkept] at hfind ⊢
      cases hfind
      obtain ⟨o, ⟨⟨ho, -⟩, -⟩, -⟩ := hprior.latest
      obtain ⟨⟨other, -, hother⟩, hsame⟩ := mem_observationsOf.mp ho
      have hconflict := identityConflict_of_scope hinj hother hincoming hsame (hprior.identity o ho)
      exact ⟨hconflict, .inr ⟨_, hone, hprior.observed hconflict⟩⟩
  refine ⟨hown.1, fun scope => ?_⟩
  rw [hupdate, observationsOf_append hincoming]
  by_cases heq : incoming.scopeSha256 = scope
  · subst heq
    rw [if_pos rfl]
    exact hown.2
  · rw [if_neg heq, insertScopeState_other heq, updateWhere_of_none]
    · exact h.states scope
    · intro row hrow
      have hrowScope : row.scopeSha256 = scope := by simpa using (List.mem_filter.mp hrow).2
      simpa [hrowScope] using Ne.symm heq

omit [LinearOrder ρ] in
theorem find?_insertScopeState (states : List (ScopeState ρ)) (row : ScopeState ρ) :
    ∃ state, (insertScopeState states row).find? (·.scopeSha256 = row.scopeSha256) = some state := by
  rw [← Option.isSome_iff_exists, List.find?_isSome, insertScopeState]
  split
  · rename_i hany
    simpa using hany
  · exact ⟨row, by simp, by simp⟩

/-- One projection more. -/
theorem Projected.step (hinj : Function.Injective hashJson) (h : Projected hashJson db projections)
    (hruns : ((projections ++ [projection]).map (·.receipt.runId)).Nodup)
    (hok : (recordNoSessionCompactStateInTransaction hashJson db projection.receipt
      projection.observation projection.projectedAt).map Prod.snd = .ok db') :
    Projected hashJson db' (projections ++ [projection]) := by
  obtain ⟨incoming, hincoming, hrecord⟩ := record_ok hok
  obtain ⟨state, hfind⟩ := find?_insertScopeState db.scopeStates incoming.state
  obtain ⟨hconflict, hstates⟩ := scopeRow_step hinj h hincoming hfind
  simp only [recordIncoming, show incoming.scopeSha256 = incoming.state.scopeSha256 from rfl, hfind,
    hconflict, Bool.false_eq_true, if_false] at hrecord
  cases hreceipts : applyReceipt db.receipts incoming projection.projectedAt with
  | error failure =>
    rw [hreceipts] at hrecord
    cases hrecord
  | ok receipts =>
    rw [hreceipts] at hrecord
    cases hrecord
    refine ⟨hstates, fun scope => ?_⟩
    have hdistinct := distinct_observationsOf hinj hruns scope
    rw [observationsOf_append hincoming] at hdistinct ⊢
    by_cases heq : incoming.scopeSha256 = scope
    · subst heq
      rw [if_pos rfl] at hdistinct ⊢
      exact recordRecent_scope hdistinct (h.recent _)
    · rw [if_neg heq, recordRecent_other _ (Ne.symm heq)]
      exact h.recent scope

/-- What lets a projection succeed: it agrees with its receipt, to which nothing was written yet. -/
structure Projection.Ready (projection : Projection ρ δ) (receipts : List (RunReceipt ρ)) : Prop where
  classification : projection.observation.classification = projection.receipt.healthState
  observedAt : projection.observation.observedAt ≠ none
  receipt : ∃ row ∈ receipts, row.runId = projection.receipt.runId ∧ row.Open

section

variable (hinj : Function.Injective hashJson) (h : Projected hashJson db projections)
include hinj h

theorem Projected.succeeds (hready : projection.Ready db.receipts) :
    ∃ db', (recordNoSessionCompactStateInTransaction hashJson db projection.receipt
      projection.observation projection.projectedAt).map Prod.snd = .ok db' ∧
      ∀ other : Projection ρ δ, other.receipt.runId ≠ projection.receipt.runId →
        other.Ready db.receipts → other.Ready db'.receipts := by
  obtain ⟨observedAt, hat⟩ := Option.ne_none_iff_exists'.mp hready.observedAt
  obtain ⟨incoming, hincoming⟩ : ∃ incoming, projection.incoming hashJson = some incoming :=
    ⟨_, incoming_eq_some.mpr ⟨observedAt, hat, rfl⟩⟩
  have hreceipt : incoming.receipt = projection.receipt := by
    obtain ⟨_, -, rfl⟩ := incoming_eq_some.mp hincoming
    rfl
  obtain ⟨state, hfind⟩ := find?_insertScopeState db.scopeStates incoming.state
  have hconflict := (scopeRow_step hinj h hincoming hfind).1
  obtain ⟨receipts, hreceipts⟩ : ∃ receipts,
      applyReceipt db.receipts incoming projection.projectedAt = .ok receipts :=
    applyReceipt_open (hreceipt ▸ hready.receipt)
  rw [record_eq hready.classification hincoming]
  simp only [recordIncoming, show incoming.scopeSha256 = incoming.state.scopeSha256 from rfl, hfind,
    hconflict, Bool.false_eq_true, if_false, hreceipts]
  refine ⟨_, rfl, fun other hother hotherReady => ?_⟩
  exact ⟨hotherReady.classification, hotherReady.observedAt,
    applyReceipt_other hreceipts (hreceipt ▸ hother) hotherReady.receipt⟩

/-- Projections after others. -/
theorem Projected.run {later : List (Projection ρ δ)}
    (hruns : ((projections ++ later).map (·.receipt.runId)).Nodup)
    (hok : projectAll hashJson db later = .ok db') :
    Projected hashJson db' (projections ++ later) := by
  induction later generalizing db projections with
  | nil =>
    cases hok
    rw [List.append_nil]
    exact h
  | cons projection rest ih =>
    rw [projectAll, List.foldlM_cons] at hok
    rw [List.append_cons] at hruns ⊢
    have hprefix : ((projections ++ [projection]).map (·.receipt.runId)).Nodup := by
      rw [List.map_append] at hruns
      exact hruns.of_append_left
    cases hfirst : (recordNoSessionCompactStateInTransaction hashJson db projection.receipt
        projection.observation projection.projectedAt).map Prod.snd with
    | error failure =>
      rw [hfirst] at hok
      cases hok
    | ok next =>
      rw [hfirst] at hok
      exact ih (h.step hinj hprefix hfirst) hruns hok

/-- Projections that are ready all succeed. -/
theorem Projected.completes {later : List (Projection ρ δ)}
    (hruns : ((projections ++ later).map (·.receipt.runId)).Nodup)
    (hready : ∀ projection ∈ later, projection.Ready db.receipts) :
    ∃ db', projectAll hashJson db later = .ok db' := by
  induction later generalizing db projections with
  | nil => exact ⟨db, rfl⟩
  | cons projection rest ih =>
    obtain ⟨next, hfirst, hothers⟩ := h.succeeds hinj (hready projection List.mem_cons_self)
    rw [List.append_cons] at hruns
    have hprefix : ((projections ++ [projection]).map (·.receipt.runId)).Nodup := by
      rw [List.map_append] at hruns
      exact hruns.of_append_left
    have hrest : ∀ other ∈ rest, other.Ready next.receipts := by
      intro other hother
      refine hothers other (fun heq => ?_) (hready other (List.mem_cons_of_mem _ hother))
      rw [List.map_append, List.nodup_append] at hruns
      exact hruns.2.2 projection.receipt.runId (by simp) other.receipt.runId
        (List.mem_map_of_mem hother) heq.symm
    obtain ⟨db', hok⟩ := ih (h.step hinj hprefix hfirst) hruns hrest
    refine ⟨db', ?_⟩
    rw [projectAll, List.foldlM_cons, hfirst]
    exact hok

end

end Step

section Convergence

/-- Where a condition holds of an observation, it holds of a newest one. -/
theorem exists_newest {seen : List (Incoming ρ δ)} {p : Incoming ρ δ → Bool}
    (h : ∃ o ∈ seen, p o = true) : ∃ o, IsNewest seen p o := by
  induction seen with
  | nil =>
    obtain ⟨o, ho, -⟩ := h
    cases ho
  | cons first rest ih =>
    by_cases hrest : ∃ o ∈ rest, p o = true
    · obtain ⟨o, ⟨hmem, hp⟩, hmax⟩ := ih hrest
      by_cases hlater : p first = true ∧ isAfter first.sighting o.sighting = true
      · refine ⟨first, ⟨List.mem_cons_self, hlater.1⟩, fun other hother hpOther => ?_⟩
        rcases List.mem_cons.mp hother with rfl | hother
        · exact isAfter_irrefl _
        · exact isAfter_asymm (isAfter_of_le hlater.2 (hmax other hother hpOther))
      · refine ⟨o, ⟨List.mem_cons_of_mem _ hmem, hp⟩, fun other hother hpOther => ?_⟩
        rcases List.mem_cons.mp hother with rfl | hother
        · simpa using fun h => hlater ⟨hpOther, h⟩
        · exact hmax other hother hpOther
    · obtain ⟨o, ho, hp⟩ := h
      rcases List.mem_cons.mp ho with rfl | ho
      · refine ⟨o, ⟨List.mem_cons_self, hp⟩, fun other hother hpOther => ?_⟩
        rcases List.mem_cons.mp hother with rfl | hother
        · exact isAfter_irrefl _
        · exact absurd ⟨other, hother, hpOther⟩ hrest
      · exact absurd ⟨o, ho, hp⟩ hrest

/-- What the compact state of a scope is to keep of the observations that the scope has seen. -/
structure CompactDatabase.Keeps (db : CompactDatabase ρ δ) (scope : String)
    (seen : List (Incoming ρ δ)) : Prop where
  state : seen ≠ [] → ∃ state, db.scopeStates.filter (·.scopeSha256 = scope) = [state] ∧
    ScopeOf seen state
  three : (db.recentStates.filter (·.scopeSha256 = scope)).length ≤ 3
  results : ((db.recentStates.filter (·.scopeSha256 = scope)).map (·.normalizedResultSha256)).Nodup
  slots : ((db.recentStates.filter (·.scopeSha256 = scope)).map (·.slot)).Nodup
  decisive : (∃ o ∈ seen, o.isDecisive = true) → ∃ o, IsNewest seen Incoming.isDecisive o ∧
    ∃ row ∈ db.recentStates.filter (·.scopeSha256 = scope),
      row.normalizedResultSha256 = o.normalizedResultSha256 ∧ row.lastSeenAt = o.observedAt

variable {hashJson : HashInput δ → String} {db : CompactDatabase ρ δ}
  {projections : List (Projection ρ δ)}

theorem Projected.keeps (h : Projected hashJson db projections) (scope : String) :
    db.Keeps scope (observationsOf hashJson projections scope) where
  state := by
    intro hseen
    rcases h.states scope with ⟨hnil, -⟩ | hstate
    · exact absurd hnil hseen
    · exact hstate
  three := by
    have hslots : ((db.recentStates.filter (·.scopeSha256 = scope)).map (·.slot)).Subperm [1, 2, 3] := by
      refine (h.recent scope).slots.subperm fun slot hslot => ?_
      obtain ⟨row, hrow, rfl⟩ := List.mem_map.mp hslot
      exact (h.recent scope).range row hrow
    have hlength := hslots.length_le
    rwa [List.length_map] at hlength
  results := (h.recent scope).results
  slots := (h.recent scope).slots
  decisive := by
    intro hdecisive
    obtain ⟨o, ho⟩ := exists_newest hdecisive
    obtain ⟨row, hrow, hshows⟩ := (h.recent scope).newest o ho
    exact ⟨o, ho, row, hrow, hshows.result, congrArg Sighting.observedAt hshows.sighting⟩

/-- Whatever the order of its projections, the compact state of a scope keeps what matters. -/
theorem compact_state_converges (hashJson : HashInput δ → String)
    (hinj : Function.Injective hashJson) (db : CompactDatabase ρ δ) (hstates : db.scopeStates = [])
    (hrecent : db.recentStates = []) (projections : List (Projection ρ δ))
    (hruns : (projections.map (·.receipt.runId)).Nodup) :
    ((∀ projection ∈ projections, projection.Ready db.receipts) →
      ∃ db', projectAll hashJson db projections = .ok db') ∧
    ∀ db', projectAll hashJson db projections = .ok db' →
      ∀ scope, db'.Keeps scope (observationsOf hashJson projections scope) := by
  have hempty : Projected hashJson db [] := by
    refine ⟨fun scope => .inl ⟨rfl, ?_⟩, fun scope => ?_⟩
    · rw [hstates, List.filter_nil]
    · rw [hrecent, List.filter_nil]
      refine ⟨?_, List.nodup_nil, List.nodup_nil, ?_, ?_⟩
      · exact fun _ hmem => absurd hmem List.not_mem_nil
      · exact fun _ hmem => absurd hmem List.not_mem_nil
      · exact fun _ ho => absurd ho.1.1 List.not_mem_nil
  exact ⟨fun hready => hempty.completes hinj hruns hready,
    fun db' hok => (hempty.run hinj hruns hok).keeps⟩

end Convergence

section Late

instance instCountableString : Countable String :=
  Function.Injective.countable (f := fun s : String => s.toList.map Char.toNat) fun _ _ h =>
    String.toList_injective (List.map_injective_iff.mpr (fun _ _ => Char.toNat_inj.mp) h)

deriving instance Countable for HealthState
deriving instance Countable for CompactNoSessionState
deriving instance Countable for RetentionScope
deriving instance Countable for HashInput

/-- There are digests for all that is digested. -/
theorem exists_injective_hash (δ : Type) [Countable δ] :
    ∃ hashJson : HashInput δ → String, Function.Injective hashJson := by
  obtain ⟨number, hnumber⟩ := exists_injective_nat (HashInput δ)
  refine ⟨fun input => String.ofList (List.replicate (number input) '0'), fun a b h => ?_⟩
  have hlists := String.ofList_injective h
  exact hnumber (by simpa using congrArg List.length hlists)

def sampleProjection (runId : Nat) (observedAt : Int) (state : HealthState) (blocker : String) :
    Projection Nat Unit where
  receipt :=
    { runId, healthState := state, browserFamily := "chromium", profileRevisionId := "p1"
      profileRevision := 1, completedAt := observedAt + 1 }
  observation :=
    { providerId := "chatgpt", surfaceId := "chat", targetKey := "t", strategyId := "s"
      strategyRevision := 1, classification := state, classificationBasis := "", surfaceOutcome := ""
      blocker, observedAt := some observedAt, details := () }
  projectedAt := 0

/-- Four different results, of which the newest decisive one comes first. -/
def lateProjections : List (Projection Nat Unit) :=
  [sampleProjection 1 40 .BROKEN "NONE", sampleProjection 2 10 .HEALTHY "NONE",
    sampleProjection 3 20 .UNKNOWN "NETWORK", sampleProjection 4 30 .UNKNOWN "CAPTCHA"]

def openReceipts : CompactDatabase Nat Unit where
  receipts := [⟨1, none, none⟩, ⟨2, none, none⟩, ⟨3, none, none⟩, ⟨4, none, none⟩]

theorem compact_state_late : ∃ hashJson : HashInput Unit → String, ∃ db,
    projectAll hashJson openReceipts lateProjections = .ok db ∧
      ∀ scope, db.Keeps scope (observationsOf hashJson lateProjections scope) := by
  obtain ⟨hashJson, hinj⟩ := exists_injective_hash Unit
  have hlaws := compact_state_converges hashJson hinj openReceipts rfl rfl lateProjections (by decide)
  have hready : ∀ projection ∈ lateProjections, projection.Ready openReceipts.receipts := by
    intro projection hmem
    simp only [lateProjections, List.mem_cons, List.not_mem_nil, or_false] at hmem
    rcases hmem with rfl | rfl | rfl | rfl
    all_goals exact ⟨rfl, Option.some_ne_none _,
      by simp [openReceipts, sampleProjection, RunReceipt.Open]⟩
  obtain ⟨db, hok⟩ := hlaws.1 hready
  exact ⟨hashJson, db, hok, hlaws.2 db hok⟩

end Late

end SellerAgents.HealthRetention
