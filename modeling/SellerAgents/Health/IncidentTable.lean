import SellerAgents.Concurrent.Episode
import SellerAgents.Health.Incident

open SellerAgents.Concurrent (Episode Phase Sight)

namespace SellerAgents.Health

open Subscriptions (Date)

variable {Id Digest : Type} [LinearOrder Id]

def HealthRun.stamp (run : HealthRun Id) : Stamp Id := toLex (run.completedAt, run.id)

theorem isAfter_iff {at' otherAt : Date} {runId otherRunId : Id} :
    isAfter at' runId otherAt otherRunId = true ↔
      toLex (otherAt, otherRunId) < toLex (at', runId) := by
  simp only [isAfter, Prod.Lex.toLex_lt_toLex, Bool.or_eq_true, Bool.and_eq_true,
    decide_eq_true_eq, eq_comm (a := at')]

namespace IncidentRow

variable (row : IncidentRow Id Digest)

/-- When a row was last seen failing. -/
def lastSeen : Stamp Id := toLex (row.lastSeenAt, row.latestSeenRunId)

/-- A row in one of the statuses that runs alone put an active incident into. -/
def Live : Prop := row.status = .OPEN ∨ row.status = .MAINTENANCE

/-- The phase of the episode that a row is. -/
def phase : Phase := if row.status = .MAINTENANCE then .maintained else .failing

/-- A row after a run's observation of it. -/
def seenBy (run : HealthRun Id) (state : ObservedState) : IncidentRow Id Digest :=
  (observation row run state).2 row

end IncidentRow

/-- What an episode is shown by an observation. -/
def ObservedState.sight : ObservedState → Sight
  | .FAILURE => .failure
  | .MAINTENANCE => .maintenance
  | .HEALTHY => .recovery

section Observation

variable {row : IncidentRow Id Digest} {run : HealthRun Id} {state : ObservedState}

omit [LinearOrder Id] in
theorem IncidentRow.Live.active (h : row.Live) : isActiveIncidentStatus row.status = true := by
  rcases h with h | h <;> rw [h] <;> rfl

theorem seenBy_of_not_after (h : ¬ row.lastObserved < run.stamp) : row.seenBy run state = row := by
  have hafter : isAfter run.completedAt run.id row.lastObservedAt row.lastObservedRunId = false :=
    eq_false_of_ne_true fun hafter => h (isAfter_iff.mp hafter)
  unfold IncidentRow.seenBy observation
  rw [hafter]
  rfl

theorem seenBy_of_after (h : row.lastObserved < run.stamp) (hlive : row.Live) :
    row.seenBy run .HEALTHY = row.resolved run ∧ row.seenBy run .MAINTENANCE = row.maintained run ∧
      row.seenBy run .FAILURE = row.failed run := by
  have hafter : isAfter run.completedAt run.id row.lastObservedAt row.lastObservedRunId = true :=
    isAfter_iff.mpr h
  have hactive := hlive.active
  simp only [IncidentRow.seenBy, observation, hafter, hactive]
  rcases hlive with hstatus | hstatus <;> simp [hstatus]

/-- What an update sets of an incident is neither its id nor its scope nor its key. -/
def Keeps (set : IncidentRow Id Digest → IncidentRow Id Digest) (row : IncidentRow Id Digest) :
    Prop :=
  (set row).incidentKeySha256 = row.incidentKeySha256 ∧
    (set row).incidentScopeSha256 = row.incidentScopeSha256 ∧ (set row).id = row.id

theorem observation_kept (incident row : IncidentRow Id Digest) (run : HealthRun Id)
    (state : ObservedState) : Keeps (observation incident run state).2 row := by
  unfold observation
  split
  · exact ⟨rfl, rfl, rfl⟩
  · cases state with
    | FAILURE => exact ⟨rfl, rfl, rfl⟩
    | MAINTENANCE => dsimp only; split <;> exact ⟨rfl, rfl, rfl⟩
    | HEALTHY =>
      dsimp only
      split
      · exact ⟨rfl, rfl, rfl⟩
      · split <;> exact ⟨rfl, rfl, rfl⟩

end Observation

/-- Where the incidents of one key stand. -/
inductive Stands (R : Set (IncidentRow Id Digest)) : Episode (Stamp Id) → Prop where
  | absent (empty : R = ∅) : Stands R {}
  | settled (row) (mem : row ∈ R) (terminal : ∀ r ∈ R, isActiveIncidentStatus r.status = false)
      (latest : ∀ r ∈ R, r.lastObserved ≤ row.lastObserved) :
      Stands R { phase := .closed, last := row.lastObserved }
  | live (row) (mem : row ∈ R) (live : row.Live)
      (others : ∀ r ∈ R, r = row ∨
        (isActiveIncidentStatus r.status = false ∧ r.lastObserved < row.lastObserved)) :
      Stands R { phase := row.phase, last := row.lastObserved }

/-- One row of a key in the place of another. -/
def replaced (R : Set (IncidentRow Id Digest)) (row row' : IncidentRow Id Digest) :
    Set (IncidentRow Id Digest) := {r | r = row' ∨ (r ∈ R ∧ r ≠ row)}

variable {R : Set (IncidentRow Id Digest)} {row row' : IncidentRow Id Digest}
  {run : HealthRun Id}

theorem Stands.of_live {phase : Phase} {last : Stamp Id} (hmem : row ∈ R) (hlive : row.Live)
    (hothers : ∀ r ∈ R, r = row ∨
      (isActiveIncidentStatus r.status = false ∧ r.lastObserved < row.lastObserved))
    (hphase : row.phase = phase) (hlast : row.lastObserved = last) : Stands R { phase, last } := by
  subst hphase hlast
  exact .live row hmem hlive hothers

theorem Stands.active_unique {e : Episode (Stamp Id)} (h : Stands R e) (hrow : row ∈ R)
    (hrow' : row' ∈ R) (hactive : isActiveIncidentStatus row.status = true)
    (hactive' : isActiveIncidentStatus row'.status = true) : row = row' := by
  cases h with
  | absent empty =>
    rw [empty] at hrow
    exact absurd hrow (Set.notMem_empty row)
  | settled last mem terminal latest =>
    rw [terminal row hrow] at hactive
    cases hactive
  | live last mem live others =>
    obtain rfl | ⟨hterminal, -⟩ := others row hrow
    · obtain rfl | ⟨hterminal, -⟩ := others row' hrow'
      · rfl
      · rw [hterminal] at hactive'
        cases hactive'
    · rw [hterminal] at hactive
      cases hactive

theorem replaced_self (h : row ∈ R) : replaced R row row = R := by
  ext r
  simp only [replaced, Set.mem_ofPred_eq]
  constructor
  · rintro (rfl | ⟨hr, -⟩)
    · exact h
    · exact hr
  · intro hr
    by_cases heq : r = row
    · exact .inl heq
    · exact .inr ⟨hr, heq⟩

/-- An observation of the active incident shows its key's episode what the run says. -/
theorem Stands.seenBy (hmem : row ∈ R) (hlive : row.Live) (hothers : ∀ r ∈ R, r = row ∨
      (isActiveIncidentStatus r.status = false ∧ r.lastObserved < row.lastObserved))
    (run : HealthRun Id) (state : ObservedState) :
    Stands (replaced R row (row.seenBy run state))
      (Episode.see { phase := row.phase, last := row.lastObserved } state.sight run.stamp) := by
  by_cases hafter : row.lastObserved < run.stamp
  · have hpast : ¬ (run.stamp : WithBot (Stamp Id)) ≤ row.lastObserved := by
      rw [WithBot.coe_le_coe]
      exact not_le.mpr hafter
    have hopen : row.phase ≠ .closed := by
      unfold IncidentRow.phase
      split <;> decide
    have hrest : ∀ r, r ∈ R ∧ r ≠ row →
        isActiveIncidentStatus r.status = false ∧ r.lastObserved < run.stamp := by
      rintro r ⟨hr, hne⟩
      obtain heq | ⟨hstatus, hlt⟩ := hothers r hr
      · exact absurd heq hne
      · exact ⟨hstatus, hlt.trans hafter⟩
    obtain ⟨hhealthy, hmaintenance, hfailure⟩ := seenBy_of_after hafter hlive
    unfold Episode.see
    rw [if_neg hpast]
    cases state with
    | FAILURE =>
      rw [hfailure]
      have hstatus : (row.failed run).status = .OPEN := by
        rcases hlive with hstatus | hstatus <;> simp [IncidentRow.failed, hstatus]
      refine .of_live (.inl rfl) (.inl hstatus) (fun r hr => hr.imp_right (hrest r)) ?_ rfl
      rw [IncidentRow.phase, hstatus]
      rfl
    | MAINTENANCE =>
      rw [hmaintenance]
      dsimp only [ObservedState.sight]
      rw [if_neg hopen]
      exact .of_live (.inl rfl) (.inr rfl) (fun r hr => hr.imp_right (hrest r)) rfl rfl
    | HEALTHY =>
      rw [hhealthy]
      dsimp only [ObservedState.sight]
      rw [if_neg hopen]
      refine .settled (row.resolved run) (.inl rfl) ?_ ?_
      · rintro r (rfl | hr)
        · rfl
        · exact (hrest r hr).1
      · rintro r (rfl | hr)
        · exact le_refl _
        · exact (hrest r hr).2.le
  · rw [seenBy_of_not_after hafter, replaced_self hmem, Episode.see_of_le]
    · exact .live row hmem hlive hothers
    · exact WithBot.coe_le_coe.mpr (not_lt.mp hafter)

section Table

variable {t : List (IncidentRow Id Digest)} {k : Digest}

/-- The rows of one key. -/
def rowsOf (t : List (IncidentRow Id Digest)) (k : Digest) : Set (IncidentRow Id Digest) :=
  {r | r ∈ t ∧ r.incidentKeySha256 = k}

omit [LinearOrder Id] in
/-- Updates of several rows, each at its own id, are one pass over the table. -/
theorem foldl_updateRow {incidents : List (IncidentRow Id Digest)}
    (hnodup : (incidents.map (·.id)).Nodup)
    (set : IncidentRow Id Digest → IncidentRow Id Digest → IncidentRow Id Digest)
    (hid : ∀ incident row, (set incident row).id = row.id) (t : List (IncidentRow Id Digest)) :
    incidents.foldl (fun t incident => updateRow t incident.id (set incident)) t =
      t.map fun row =>
        (incidents.find? (·.id = row.id)).elim row fun incident => set incident row := by
  induction incidents generalizing t with
  | nil => simp
  | cons incident rest ih =>
    rw [List.map_cons, List.nodup_cons] at hnodup
    rw [List.foldl_cons, ih hnodup.2, updateRow, List.map_map]
    refine List.map_congr_left fun row _ => ?_
    dsimp only [Function.comp]
    by_cases hrow : row.id = incident.id
    · have hnone : rest.find? (fun other => decide (other.id = row.id)) = none := by
        rw [List.find?_eq_none]
        intro other hother heq
        rw [decide_eq_true_eq] at heq
        exact hnodup.1 (List.mem_map.mpr ⟨other, hother, heq.trans hrow⟩)
      have hfirst : (incident :: rest).find? (fun other => decide (other.id = row.id)) = some incident :=
        List.find?_cons_of_pos (by simp [hrow])
      simp only [if_pos hrow, hid, hnone, hfirst, Option.elim_none, Option.elim_some]
    · have hlater : (incident :: rest).find? (fun other => decide (other.id = row.id)) =
          rest.find? fun other => decide (other.id = row.id) :=
        List.find?_cons_of_neg (by simpa using fun h => hrow h.symm)
      simp only [if_neg hrow, hlater]

omit [LinearOrder Id] in
theorem find_filter_of_mem {p : IncidentRow Id Digest → Bool} (hnodup : (t.map (·.id)).Nodup)
    {row : IncidentRow Id Digest} (hrow : row ∈ t) :
    (t.filter p).find? (·.id = row.id) = if p row then some row else none := by
  have hunique : ∀ other ∈ t, other.id = row.id → other = row := fun other hother heq =>
    List.inj_on_of_nodup_map hnodup hother hrow heq
  by_cases hp : p row = true
  · rw [if_pos hp]
    cases hfind : (t.filter p).find? (·.id = row.id) with
    | none =>
      have habsent := List.find?_eq_none.mp hfind row (List.mem_filter.mpr ⟨hrow, hp⟩)
      simp at habsent
    | some other =>
      have hmem := List.mem_filter.mp (List.mem_of_find?_eq_some hfind)
      have hid := List.find?_some hfind
      rw [hunique other hmem.1 (by simpa using hid)]
  · rw [if_neg hp, List.find?_eq_none]
    intro other hother heq
    obtain ⟨hmem, hother⟩ := List.mem_filter.mp hother
    rw [hunique other hmem (by simpa using heq)] at hother
    exact hp hother

theorem observeScope_foldl (incidents : List (IncidentRow Id Digest)) (run : HealthRun Id)
    (state : ObservedState) (counted : IncidentAction)
    (acc : List Nat × List (IncidentRow Id Digest)) :
    (incidents.foldl
      (fun acc incident =>
        let (action, t') := updateIncidentObservation acc.2 incident run state
        (if action = counted then acc.1 ++ [incident.id] else acc.1, t')) acc).2 =
      incidents.foldl
        (fun t incident => updateRow t incident.id (observation incident run state).2) acc.2 := by
  induction incidents generalizing acc with
  | nil => rfl
  | cons incident rest ih =>
    rw [List.foldl_cons, ih, List.foldl_cons]
    rfl

variable [DecidableEq Digest]

/-- What a run comes to. -/
inductive RunEffect (Digest : Type) where
  | silent
  | healthy (incidentScope : Digest)
  | maintenance (incidentScope : Digest)
  | failure (incidentScope incidentKey : Digest) (rootContourKey : Option BaselineContourKey)

/-- What a run says of which scope or key. -/
def effectOf (d : Digests Digest) (run : HealthRun Id) : RunEffect Digest :=
  match getClassification run with
  | .error _ => .silent
  | .ok (classification, suite) =>
    let identity := healthIncidentScopeIdentity suite.scope run.healthLevel
    let rootContourKey := selectRootContour classification.productFindings
    match run.healthState with
    | .UNKNOWN => .silent
    | .HEALTHY => .healthy (d.healthIncidentScopeSha256 identity)
    | .MAINTENANCE => .maintenance (d.healthIncidentScopeSha256 identity)
    | _ =>
      .failure (d.healthIncidentScopeSha256 identity)
        (d.healthIncidentKeySha256 identity rootContourKey) rootContourKey

/-- The table after a failure. -/
def failTable (t : List (IncidentRow Id Digest)) (incidentScope incidentKey : Digest)
    (run : HealthRun Id) (rootContourKey : Option BaselineContourKey) :
    List (IncidentRow Id Digest) :=
  match activeByKey t incidentKey with
  | some active => updateRow t active.id (observation active run .FAILURE).2
  | none =>
    if (latestTerminalByKey t incidentKey).any fun terminal => run.stamp ≤ terminal.lastObserved then
      t
    else t ++ [newIncident t incidentScope incidentKey run rootContourKey]

/-- The table after a run that speaks of a scope. -/
def scopeTable (t : List (IncidentRow Id Digest)) (incidentScope : Digest) (run : HealthRun Id)
    (state : ObservedState) : List (IncidentRow Id Digest) :=
  t.map fun row =>
    if row.incidentScopeSha256 = incidentScope && isActiveIncidentStatus row.status then
      row.seenBy run state
    else row

/-- The table after a run of some effect. -/
def effectTable (t : List (IncidentRow Id Digest)) (run : HealthRun Id) :
    RunEffect Digest → List (IncidentRow Id Digest)
  | .silent => t
  | .healthy incidentScope => scopeTable t incidentScope run .HEALTHY
  | .maintenance incidentScope => scopeTable t incidentScope run .MAINTENANCE
  | .failure incidentScope incidentKey rootContourKey =>
    failTable t incidentScope incidentKey run rootContourKey

/-- A run that speaks of a scope is shown to its active incidents. -/
theorem observeScope_table (hnodup : (t.map (·.id)).Nodup) (incidentScope : Digest)
    (run : HealthRun Id) (state : ObservedState) (counted : IncidentAction) :
    (observeScope t incidentScope run state counted).2 = scopeTable t incidentScope run state := by
  have hincidents : ((activeByScope t incidentScope).map (·.id)).Nodup :=
    hnodup.sublist (List.filter_sublist.map _)
  have hupdates := foldl_updateRow hincidents (fun incident => (observation incident run state).2)
    (fun incident row => (observation_kept incident row run state).2.2) t
  rw [observeScope, observeScope_foldl, hupdates]
  refine List.map_congr_left fun row hrow => ?_
  rw [activeByScope, find_filter_of_mem hnodup hrow]
  split <;> rfl

theorem observeFailure_table (t : List (IncidentRow Id Digest)) (incidentScope incidentKey : Digest)
    (run : HealthRun Id) (rootContourKey : Option BaselineContourKey) :
    ∃ result, observeFailure t incidentScope incidentKey run rootContourKey =
      .ok (result, failTable t incidentScope incidentKey run rootContourKey) := by
  unfold observeFailure failTable
  cases hactive : activeByKey t incidentKey with
  | some active => exact ⟨_, rfl⟩
  | none =>
    dsimp only
    have hinsert : insertIncident t (newIncident t incidentScope incidentKey run rootContourKey) =
        some (t ++ [newIncident t incidentScope incidentKey run rootContourKey]) := by
      rw [insertIncident, newIncident, hactive]
      rfl
    cases hterminal : latestTerminalByKey t incidentKey with
    | none =>
      rw [Option.filter_none, hinsert]
      exact ⟨_, rfl⟩
    | some terminal =>
      rw [Option.filter_some, Option.any_some]
      by_cases hlate : run.stamp ≤ terminal.lastObserved
      · have hnot : isAfter run.completedAt run.id terminal.lastObservedAt
            terminal.lastObservedRunId = false :=
          eq_false_of_ne_true fun hafter => absurd hlate (not_le.mpr (isAfter_iff.mp hafter))
        rw [hnot, if_pos (by decide), if_pos (by simpa using hlate)]
        exact ⟨_, rfl⟩
      · have hafter : isAfter run.completedAt run.id terminal.lastObservedAt
            terminal.lastObservedRunId = true := isAfter_iff.mpr (not_le.mp hlate)
        rw [hafter, if_neg (by decide), if_neg (by simpa using hlate), hinsert]
        exact ⟨_, rfl⟩

theorem handleRun_eq (d : Digests Digest) (hnodup : (t.map (·.id)).Nodup) (run : HealthRun Id) :
    handleRun d t run = effectTable t run (effectOf d run) := by
  unfold handleRun processCompletedHealthRun effectOf
  cases hclass : getClassification run with
  | error error => rfl
  | ok classified =>
    obtain ⟨classification, suite⟩ := classified
    dsimp only [bind, Except.bind]
    cases hstate : run.healthState with
    | UNKNOWN => rfl
    | HEALTHY => exact observeScope_table hnodup _ run .HEALTHY .RESOLVED
    | MAINTENANCE => exact observeScope_table hnodup _ run .MAINTENANCE .MAINTENANCE
    | _ =>
      obtain ⟨result, hresult⟩ := observeFailure_table t
        (d.healthIncidentScopeSha256 (healthIncidentScopeIdentity suite.scope run.healthLevel))
        (d.healthIncidentKeySha256 (healthIncidentScopeIdentity suite.scope run.healthLevel)
          (selectRootContour classification.productFindings))
        run (selectRootContour classification.productFindings)
      simp only [isIncidentWorthyHealthState, hresult]
      rfl

end Table

end SellerAgents.Health
