import SellerAgents.Health.NotifiedIncidents

open Relational

namespace SellerAgents.Health

open Subscriptions (Date)

namespace Notified

variable {Id Digest Token : Type} [LinearOrder Id] [DecidableEq Digest]

/-! A processed run, one incident at a time. -/

/-- A processing of a run; what it throws is rolled back. -/
def handle (d : Digests Digest) (options : IncidentOptions)
    (tables : MonitoringTables Id Digest Token) (run : HealthRun Id) :
    Except NotificationError HealthIncidentProcessingResult × MonitoringTables Id Digest Token :=
  match processCompletedHealthRun d options tables run with
  | .ok (result, tables') => (.ok result, tables')
  | .error error => (.error error, tables)

/-- The incident that a failure has been recorded for. -/
def recordedFailure : Except NotificationError HealthIncidentProcessingResult → Option Nat
  | .ok ⟨.OPENED, [id]⟩ => some id
  | .ok ⟨.UPDATED, [id]⟩ => some id
  | _ => none

/-- The active incidents that a run speaks of and is not too late for. -/
def Concerns (d : Digests Digest) (incidents : List (IncidentRow Id Digest)) (run : HealthRun Id)
    (row : IncidentRow Id Digest) : Prop :=
  row.lastObserved < run.stamp ∧
    match effectOf d run with
    | .silent => False
    | .healthy incidentScope => row ∈ activeByScope incidents incidentScope
    | .maintenance incidentScope => row ∈ activeByScope incidents incidentScope
    | .failure _ incidentKey _ => activeByKey incidents incidentKey = some row

section Loop

variable {b : Nat} {run : HealthRun Id} {state : ObservedState} {counted : IncidentAction}
  {notify : IncidentRow Id Digest → Intents Id Token → Except NotificationError (Intents Id Token)}
  {R : IncidentRow Id Digest → Intents Id Token → Intents Id Token → Prop}
  (P : IncidentRow Id Digest → Intents Id Token → Prop)

/-- One pass of the loop. -/
def observeOne (run : HealthRun Id) (state : ObservedState) (counted : IncidentAction)
    (notify : IncidentRow Id Digest → Intents Id Token →
      Except NotificationError (Intents Id Token))
    (acc : List Nat × MonitoringTables Id Digest Token) (incident : IncidentRow Id Digest) :
    Except NotificationError (List Nat × MonitoringTables Id Digest Token) := do
  let (action, incidents) := updateIncidentObservation acc.2.incidents incident run state
  if action = counted then
    let intents ← notify incident acc.2.intents
    return (acc.1 ++ [incident.id], ⟨incidents, intents⟩)
  else return (acc.1, ⟨incidents, acc.2.intents⟩)

omit [DecidableEq Digest] in
/-- A loop over incidents, each of which changes its own intents alone, succeeds, and every incident
finds its intents as they were at the start. -/
theorem foldlM_observeOne {incidents : List (IncidentRow Id Digest)}
    (hnodup : (incidents.map (·.id)).Nodup)
    (hnotify : ∀ incident ∈ incidents, (observation incident run state).1 = counted →
      ∀ intents, Filed intents → b ≤ intents.length → P incident (intentsOf incident.id intents) →
        Changes incident.id (R incident) intents (notify incident intents))
    (acc : List Nat × MonitoringTables Id Digest Token) (hfiled : Filed acc.2.intents)
    (hb : b ≤ acc.2.intents.length)
    (hready : ∀ incident ∈ incidents, (observation incident run state).1 = counted →
      P incident (intentsOf incident.id acc.2.intents)) :
    ∃ ids intents, incidents.foldlM (observeOne run state counted notify) acc =
        .ok (ids, ⟨incidents.foldl (fun t incident =>
          updateRow t incident.id (observation incident run state).2) acc.2.incidents, intents⟩) ∧
      Filed intents ∧ acc.2.intents.length ≤ intents.length ∧
      (∀ j, (∀ incident ∈ incidents, (observation incident run state).1 = counted →
        incident.id ≠ j) → intentsOf j intents = intentsOf j acc.2.intents) ∧
      ∀ incident ∈ incidents, (observation incident run state).1 = counted →
        R incident (intentsOf incident.id acc.2.intents) (intentsOf incident.id intents) := by
  induction incidents generalizing acc with
  | nil => exact ⟨acc.1, acc.2.intents, rfl, hfiled, le_refl _, fun _ _ => rfl, by simp⟩
  | cons incident rest ih =>
    rw [List.map_cons, List.nodup_cons] at hnodup
    obtain ⟨hfirst, hnodup⟩ := hnodup
    have hother : ∀ later ∈ rest, later.id ≠ incident.id := fun later hlater heq =>
      hfirst (List.mem_map.mpr ⟨later, hlater, heq⟩)
    have ih' := ih hnodup fun later hlater => hnotify later (List.mem_cons_of_mem _ hlater)
    rw [List.foldlM_cons, List.foldl_cons]
    by_cases hcounted : (observation incident run state).1 = counted
    · obtain ⟨middle, hok, hmiddle, hlength, hsame, hchange⟩ :=
        hnotify incident List.mem_cons_self hcounted acc.2.intents hfiled hb
          (hready incident List.mem_cons_self hcounted)
      have hstep : observeOne run state counted notify acc incident =
          .ok (acc.1 ++ [incident.id],
            ⟨updateRow acc.2.incidents incident.id (observation incident run state).2, middle⟩) := by
        unfold observeOne updateIncidentObservation
        dsimp only
        rw [if_pos hcounted, hok]
        rfl
      obtain ⟨ids, intents, hrest, hfiled', hlength', hsame', hchange'⟩ := ih' (acc.1 ++ [incident.id],
        ⟨updateRow acc.2.incidents incident.id (observation incident run state).2, middle⟩) hmiddle
        (hb.trans hlength) fun later hlater hselected => by
          rw [hsame _ (hother later hlater)]
          exact hready later (List.mem_cons_of_mem _ hlater) hselected
      refine ⟨ids, intents, ?_, hfiled', hlength.trans hlength', ?_, ?_⟩
      · rw [hstep]
        exact hrest
      · intro j hj
        rw [hsame' j fun later hlater => hj later (List.mem_cons_of_mem _ hlater)]
        exact hsame j (hj incident List.mem_cons_self hcounted).symm
      · intro later hlater hselected
        rcases List.mem_cons.mp hlater with rfl | hlater
        · rw [hsame' later.id fun other hother' _ => hother other hother']
          exact hchange
        · have hlast := hchange' later hlater hselected
          rwa [hsame _ (hother later hlater)] at hlast
    · have hstep : observeOne run state counted notify acc incident =
          .ok (acc.1, ⟨updateRow acc.2.incidents incident.id (observation incident run state).2,
            acc.2.intents⟩) := by
        unfold observeOne updateIncidentObservation
        dsimp only
        rw [if_neg hcounted]
        rfl
      obtain ⟨ids, intents, hrest, hfiled', hlength', hsame', hchange'⟩ := ih' (acc.1,
        ⟨updateRow acc.2.incidents incident.id (observation incident run state).2, acc.2.intents⟩)
        hfiled hb fun later hlater => hready later (List.mem_cons_of_mem _ hlater)
      refine ⟨ids, intents, ?_, hfiled', hlength', ?_, ?_⟩
      · rw [hstep]
        exact hrest
      · intro j hj
        exact hsame' j fun later hlater => hj later (List.mem_cons_of_mem _ hlater)
      · intro later hlater hselected
        rcases List.mem_cons.mp hlater with rfl | hlater
        · exact absurd hselected hcounted
        · exact hchange' later hlater hselected

/-- The loop over the incidents of a scope. -/
theorem observeScope_spec {tables : MonitoringTables Id Digest Token} {incidentScope : Digest}
    (hnodup : (tables.incidents.map (·.id)).Nodup)
    (hnotify : ∀ incident ∈ activeByScope tables.incidents incidentScope,
      (observation incident run state).1 = counted →
      ∀ intents, Filed intents → b ≤ intents.length → P incident (intentsOf incident.id intents) →
        Changes incident.id (R incident) intents (notify incident intents))
    (hfiled : Filed tables.intents) (hb : b ≤ tables.intents.length)
    (hready : ∀ incident ∈ activeByScope tables.incidents incidentScope,
      (observation incident run state).1 = counted →
        P incident (intentsOf incident.id tables.intents)) :
    ∃ ids intents, observeScope tables incidentScope run state counted notify =
        .ok (ids, ⟨scopeTable tables.incidents incidentScope run state, intents⟩) ∧
      Filed intents ∧ tables.intents.length ≤ intents.length ∧
      (∀ j, (∀ incident ∈ activeByScope tables.incidents incidentScope,
        (observation incident run state).1 = counted → incident.id ≠ j) →
          intentsOf j intents = intentsOf j tables.intents) ∧
      ∀ incident ∈ activeByScope tables.incidents incidentScope,
        (observation incident run state).1 = counted →
          R incident (intentsOf incident.id tables.intents) (intentsOf incident.id intents) := by
  have hincidents : ((activeByScope tables.incidents incidentScope).map (·.id)).Nodup :=
    hnodup.sublist (List.filter_sublist.map _)
  have htable := observeScope_table hnodup incidentScope run state counted
  rw [Health.observeScope, observeScope_foldl] at htable
  obtain ⟨ids, intents, hok, hrest⟩ :=
    foldlM_observeOne P hincidents hnotify ([], tables) hfiled hb hready
  refine ⟨ids, intents, ?_, hrest⟩
  rw [← htable]
  exact hok

end Loop

/-- What runs alone make of the incidents. -/
structure RowsSound (incidents : List (IncidentRow Id Digest)) : Prop where
  ids : incidents.map (·.id) = List.range incidents.length
  status : ∀ row ∈ incidents, row.Live ∨ row.status = .RESOLVED
  seen : ∀ row ∈ incidents, row.lastSeen ≤ row.lastObserved

/-- Tables in which every intent has its incident, and every incident its opening. -/
structure TablesSound (tables : MonitoringTables Id Digest Token) : Prop where
  filed : Filed tables.intents
  rows : RowsSound tables.incidents
  known : ∀ row ∈ tables.intents, row.incidentId < tables.incidents.length
  opened : ∀ row ∈ tables.incidents, ∃ r ∈ intentsOf row.id tables.intents,
    r.eventKind = .INCIDENT_OPENED

/-- What a run does to an incident that it concerns. -/
def Handled (c : Int) (b : Nat) (run : HealthRun Id) (scope : HealthScope)
    (row row' : IncidentRow Id Digest) (view view' : Intents Id Token) : Prop :=
  match run.healthState with
  | .HEALTHY => row' = row.resolved run ∧ Resolves c b run scope row view view'
  | .MAINTENANCE => row' = row.maintained run ∧ Maintains c b run scope row view view'
  | .UNKNOWN => False
  | state => row' = row.failed run ∧ ∃ s, notificationSeverityForHealthState state = some s ∧
      Fails c b run scope row view view' s

/-- An incident that a run has opened. -/
structure Opened (c : Int) (tables : MonitoringTables Id Digest Token) (run : HealthRun Id)
    (row : IncidentRow Id Digest) (view : Intents Id Token) : Prop where
  id : row.id = tables.incidents.length
  status : row.status = .OPEN
  lastSeen : row.lastSeen = row.lastObserved
  view : ∃ scope s n, notificationSeverityForHealthState run.healthState = some s ∧
    tables.intents.length ≤ n ∧
    view = [newIntent n ((input run scope row .INCIDENT_OPENED run.healthState).event c s)]

/-- What a run does to the tables. -/
structure RunSpec (d : Digests Digest) (c : Int) (tables : MonitoringTables Id Digest Token)
    (run : HealthRun Id) (outcome : Except NotificationError HealthIncidentProcessingResult)
    (tables' : MonitoringTables Id Digest Token) : Prop where
  filed : Filed tables'.intents
  length : tables.intents.length ≤ tables'.intents.length
  concerned : ∀ row ∈ tables.incidents, Concerns d tables.incidents run row →
    ∃ scope row', row' ∈ tables'.incidents ∧
      Handled c tables.intents.length run scope row row' (intentsOf row.id tables.intents)
        (intentsOf row.id tables'.intents)
  unconcerned : ∀ row ∈ tables.incidents, ¬ Concerns d tables.incidents run row →
    row ∈ tables'.incidents ∧ intentsOf row.id tables'.intents = intentsOf row.id tables.intents
  incidents : tables'.incidents.map (·.id) = tables.incidents.map (·.id) ∨
    ∃ row, tables'.incidents = tables.incidents ++ [row] ∧
      Opened c tables run row (intentsOf row.id tables'.intents)
  others : ∀ i, (∀ row ∈ tables'.incidents, row.id ≠ i) →
    intentsOf i tables'.intents = intentsOf i tables.intents
  recorded : ∀ i, recordedFailure outcome = some i ↔
    (notificationSeverityForHealthState run.healthState).isSome ∧
      ((∃ row ∈ tables.incidents, Concerns d tables.incidents run row ∧ row.id = i) ∨
        (i = tables.incidents.length ∧ tables'.incidents.length = i + 1))

section Spec

variable {d : Digests Digest} {c : Int} {options : IncidentOptions} {run : HealthRun Id}
  {tables : MonitoringTables Id Digest Token} {row : IncidentRow Id Digest}

variable {incidentScope : Digest} {incidents : List (IncidentRow Id Digest)}
  {s : LlmHealthNotificationSeverity}

omit [DecidableEq Digest] in
theorem RowsSound.nodup (h : RowsSound incidents) :
    (incidents.map (·.id)).Nodup := h.ids ▸ List.nodup_range

omit [DecidableEq Digest] in
theorem RowsSound.live (h : RowsSound incidents) (hrow : row ∈ incidents)
    (hactive : isActiveIncidentStatus row.status = true) : row.Live := by
  rcases h.status row hrow with hlive | hresolved
  · exact hlive
  · rw [hresolved] at hactive
    cases hactive

omit [DecidableEq Digest] in
/-- A live incident counts in the loop exactly if the run is not too late for it. -/
theorem counted_iff (hlive : row.Live) :
    ((observation row run .HEALTHY).1 = .RESOLVED ↔ row.lastObserved < run.stamp) ∧
      ((observation row run .MAINTENANCE).1 = .MAINTENANCE ↔ row.lastObserved < run.stamp) := by
  rw [IncidentRow.lastObserved, HealthRun.stamp, ← isAfter_iff]
  unfold observation
  cases isAfter run.completedAt run.id row.lastObservedAt row.lastObservedRunId with
  | false => simp
  | true =>
    rcases hlive with hstatus | hstatus
    · simp [isActiveIncidentStatus, hstatus]
    · simp [isActiveIncidentStatus, hstatus]

omit [DecidableEq Digest] in
theorem updated_iff (hseen : row.lastSeen ≤ row.lastObserved) :
    (observation row run .FAILURE).1 = .UPDATED ↔ row.lastObserved < run.stamp := by
  have hlatest : row.lastObserved < run.stamp → row.latestFailure run = true :=
    fun hafter => isAfter_iff.mpr (hseen.trans_lt hafter)
  unfold observation
  by_cases hafter : row.lastObserved < run.stamp
  · have hafter' : isAfter run.completedAt run.id row.lastObservedAt row.lastObservedRunId = true :=
      isAfter_iff.mpr hafter
    simp [hafter', hlatest hafter, hafter]
  · have hafter' : isAfter run.completedAt run.id row.lastObservedAt row.lastObservedRunId = false :=
      eq_false_of_ne_true fun h => hafter (isAfter_iff.mp h)
    simp [hafter', hafter]

omit [LinearOrder Id] in
theorem mem_activeByScope :
    row ∈ activeByScope incidents incidentScope ↔ row ∈ incidents ∧
      row.incidentScopeSha256 = incidentScope ∧ isActiveIncidentStatus row.status = true := by
  simp [activeByScope, List.mem_filter]

/-- A run that speaks of a scope. -/
theorem runSpec_scope (hsound : TablesSound tables) {state : ObservedState}
    {counted : IncidentAction} (scope : HealthScope)
    {notify : IncidentRow Id Digest → Intents Id Token →
      Except NotificationError (Intents Id Token)}
    {R : IncidentRow Id Digest → Intents Id Token → Intents Id Token → Prop}
    (hconcerns : ∀ row, Concerns d tables.incidents run row ↔
      row.lastObserved < run.stamp ∧ row ∈ activeByScope tables.incidents incidentScope)
    (hcounted : ∀ row : IncidentRow Id Digest, row.Live →
      ((observation row run state).1 = counted ↔ row.lastObserved < run.stamp))
    (hnotify : ∀ incident intents, Filed intents → tables.intents.length ≤ intents.length →
      (∃ r ∈ intentsOf incident.id intents, r.eventKind = .INCIDENT_OPENED) →
        Changes incident.id (R incident) intents (notify incident intents))
    (hhandled : ∀ row view view', row.Live → row.lastObserved < run.stamp → R row view view' →
      Handled c tables.intents.length run scope row (row.seenBy run state) view view')
    (hsilent : notificationSeverityForHealthState run.healthState = none) :
    ∃ ids tables', observeScope tables incidentScope run state counted notify = .ok (ids, tables') ∧
      ∀ outcome, recordedFailure outcome = none → RunSpec d c tables run outcome tables' := by
  have hlive : ∀ row ∈ activeByScope tables.incidents incidentScope, row.Live := by
    intro row hrow
    obtain ⟨hmem, -, hactive⟩ := mem_activeByScope.mp hrow
    exact hsound.rows.live hmem hactive
  have hstep : ∀ incident ∈ activeByScope tables.incidents incidentScope,
      (observation incident run state).1 = counted → ∀ intents, Filed intents →
        tables.intents.length ≤ intents.length →
        (∃ r ∈ intentsOf incident.id intents, r.eventKind = .INCIDENT_OPENED) →
        Changes incident.id (R incident) intents (notify incident intents) :=
    fun incident _ _ intents => hnotify incident intents
  obtain ⟨ids, intents, hok, hfiled, hlength, hsame, hchange⟩ :=
    observeScope_spec (fun _ view => ∃ r ∈ view, r.eventKind = .INCIDENT_OPENED)
      hsound.rows.nodup hstep hsound.filed (le_refl _)
      fun incident hincident _ => hsound.opened incident (mem_activeByScope.mp hincident).1
  have hids : (scopeTable tables.incidents incidentScope run state).map (·.id) =
      tables.incidents.map (·.id) := by
    unfold scopeTable
    rw [List.map_map]
    refine List.map_congr_left fun row _ => ?_
    dsimp only [Function.comp_apply]
    split
    · exact (observation_kept row row run state).2.2
    · rfl
  have hmem : ∀ row ∈ tables.incidents,
      (if row.incidentScopeSha256 = incidentScope && isActiveIncidentStatus row.status then
        row.seenBy run state else row) ∈ scopeTable tables.incidents incidentScope run state :=
    fun row hrow => List.mem_map_of_mem hrow
  refine ⟨ids, _, hok, fun outcome houtcome => ?_⟩
  constructor
  · exact hfiled
  · exact hlength
  · intro row hrow hconcern
    obtain ⟨hafter, hscope⟩ := (hconcerns row).mp hconcern
    obtain ⟨-, hin, hactive⟩ := mem_activeByScope.mp hscope
    refine ⟨scope, row.seenBy run state, ?_, ?_⟩
    · have hmem := hmem row hrow
      rwa [if_pos (by simp [hin, hactive])] at hmem
    · exact hhandled row _ _ (hlive row hscope) hafter
        (hchange row hscope ((hcounted row (hlive row hscope)).mpr hafter))
  · intro row hrow hconcern
    have hunseen : (if row.incidentScopeSha256 = incidentScope && isActiveIncidentStatus row.status
        then row.seenBy run state else row) = row := by
      split
      · rename_i hselected
        simp only [Bool.and_eq_true, decide_eq_true_eq] at hselected
        refine seenBy_of_not_after fun hafter => hconcern ((hconcerns row).mpr ⟨hafter, ?_⟩)
        exact mem_activeByScope.mpr ⟨hrow, hselected⟩
      · rfl
    refine ⟨?_, hsame row.id fun incident hincident hselected heq => ?_⟩
    · have hmem := hmem row hrow
      rwa [hunseen] at hmem
    · have hincidentMem := (mem_activeByScope.mp hincident).1
      obtain rfl := List.inj_on_of_nodup_map hsound.rows.nodup hincidentMem hrow heq
      exact hconcern ((hconcerns incident).mpr
        ⟨(hcounted incident (hlive incident hincident)).mp hselected, hincident⟩)
  · exact .inl hids
  · intro i hi
    refine hsame i fun incident hincident _ heq => ?_
    have hid : incident.id ∈ (scopeTable tables.incidents incidentScope run state).map (·.id) :=
      hids ▸ List.mem_map_of_mem (mem_activeByScope.mp hincident).1
    obtain ⟨row', hrow', hrowid⟩ := List.mem_map.mp hid
    exact hi row' hrow' (hrowid.trans heq)
  · intro i
    rw [houtcome, hsilent]
    simp

omit [DecidableEq Digest] in
theorem handled_failure {b : Nat} {scope : HealthScope} {row row' : IncidentRow Id Digest}
    {view view' : Intents Id Token}
    (hs : notificationSeverityForHealthState run.healthState = some s) :
    Handled c b run scope row row' view view' ↔
      row' = row.failed run ∧ Fails c b run scope row view view' s := by
  unfold Handled
  generalize run.healthState = state at hs ⊢
  cases state with
  | HEALTHY => cases hs
  | UNKNOWN => cases hs
  | MAINTENANCE => cases hs
  | DRIFT => simp [hs]
  | DEGRADED => simp [hs]
  | BROKEN => simp [hs]

theorem runSpec_same (hsound : TablesSound tables)
    (hnone : ∀ row, ¬ Concerns d tables.incidents run row)
    {outcome : Except NotificationError HealthIncidentProcessingResult}
    (houtcome : recordedFailure outcome = none) : RunSpec d c tables run outcome tables where
  filed := hsound.filed
  length := le_refl _
  concerned row _ hconcern := absurd hconcern (hnone row)
  unconcerned row hrow _ := ⟨hrow, rfl⟩
  incidents := .inl rfl
  others _ _ := rfl
  recorded i := by
    rw [houtcome]
    constructor
    · exact nofun
    · rintro ⟨-, ⟨row, -, hconcern, -⟩ | ⟨heq, hlength⟩⟩
      · exact absurd hconcern (hnone row)
      · omega

/-- A failure of the active incident of its key. -/
theorem runSpec_active (hsound : TablesSound tables) {active : IncidentRow Id Digest}
    (hmem : active ∈ tables.incidents) (hlive : active.Live) {scope : HealthScope}
    (hconcerns : ∀ row, Concerns d tables.incidents run row ↔
      row.lastObserved < run.stamp ∧ active = row)
    (hs : notificationSeverityForHealthState run.healthState = some s)
    {notify : Intents Id Token → Except NotificationError (Intents Id Token)}
    (hnotify : Changes active.id
      (fun view view' => Fails c tables.intents.length run scope active view view' s) tables.intents
      (notify tables.intents)) :
    ∃ result tables', observeActive tables active run notify = .ok (result, tables') ∧
      RunSpec d c tables run (.ok result) tables' := by
  have hupdated : (observation active run .FAILURE).1 = .UPDATED ↔ active.lastObserved < run.stamp :=
    updated_iff (hsound.rows.seen active hmem)
  have hother : ∀ row ∈ tables.incidents, row ≠ active → row.id ≠ active.id :=
    fun row hrow hne heq => hne (List.inj_on_of_nodup_map hsound.rows.nodup hrow hmem heq)
  unfold observeActive updateIncidentObservation
  by_cases hafter : active.lastObserved < run.stamp
  · obtain ⟨intents, hok, hfiled, hlength, hsame, hchange⟩ := hnotify
    have hset : (observation active run .FAILURE).2 active = active.failed run :=
      (seenBy_of_after hafter hlive).2.2
    refine ⟨⟨.UPDATED, [active.id]⟩,
      ⟨updateRow tables.incidents active.id (observation active run .FAILURE).2, intents⟩, ?_, ?_⟩
    · dsimp only
      rw [hupdated.mpr hafter, if_pos rfl, hok]
      rfl
    · have hids : (updateRow tables.incidents active.id (observation active run .FAILURE).2).map
          (·.id) = tables.incidents.map (·.id) := by
        unfold updateRow
        rw [List.map_map]
        refine List.map_congr_left fun row _ => ?_
        dsimp only [Function.comp_apply]
        split
        · exact (observation_kept active row run .FAILURE).2.2
        · rfl
      constructor
      · exact hfiled
      · exact hlength
      · intro row hrow hconcern
        obtain ⟨-, rfl⟩ := (hconcerns row).mp hconcern
        refine ⟨scope, active.failed run, ?_, (handled_failure hs).mpr ⟨rfl, hchange⟩⟩
        refine List.mem_map.mpr ⟨active, hmem, ?_⟩
        rw [if_pos rfl, hset]
      · intro row hrow hconcern
        have hne : row ≠ active := by
          rintro rfl
          exact hconcern ((hconcerns row).mpr ⟨hafter, rfl⟩)
        refine ⟨List.mem_map.mpr ⟨row, hrow, if_neg (hother row hrow hne)⟩, ?_⟩
        exact hsame row.id (hother row hrow hne)
      · exact .inl hids
      · intro i hi
        refine hsame i fun heq => ?_
        have hid : active.id ∈
            (updateRow tables.incidents active.id (observation active run .FAILURE).2).map (·.id) :=
          hids ▸ List.mem_map_of_mem hmem
        obtain ⟨row', hrow', hrowid⟩ := List.mem_map.mp hid
        exact hi row' hrow' (hrowid.trans heq.symm)
      · intro i
        rw [hs]
        simp only [recordedFailure, Option.some.injEq, Option.isSome_some, true_and]
        constructor
        · rintro rfl
          exact .inl ⟨active, hmem, (hconcerns active).mpr ⟨hafter, rfl⟩, rfl⟩
        · rintro (⟨row, -, hconcern, rfl⟩ | ⟨rfl, hlength⟩)
          · rw [((hconcerns row).mp hconcern).2]
          · simp [updateRow] at hlength
  · have hignored : observation active run .FAILURE = (.IGNORED, id) := by
      have hafter' : isAfter run.completedAt run.id active.lastObservedAt active.lastObservedRunId =
          false := eq_false_of_ne_true fun h => hafter (isAfter_iff.mp h)
      unfold observation
      rw [hafter']
      rfl
    have htable : updateRow tables.incidents active.id id = tables.incidents := by
      unfold updateRow
      refine (List.map_congr_left fun row _ => ?_).trans (List.map_id _)
      exact ite_self row
    refine ⟨⟨.IGNORED, [active.id]⟩, tables, ?_, runSpec_same hsound (fun row hconcern => ?_) rfl⟩
    · rw [hignored]
      dsimp only
      rw [htable]
      rfl
    · obtain ⟨hlate, rfl⟩ := (hconcerns row).mp hconcern
      exact hafter hlate

/-- A failing run. -/
theorem runSpec_failure (hsound : TablesSound tables) (hemit : options.emitNotifications = true)
    (hpolicy : options.policy.cooldown = .ok c) {incidentKey : Digest}
    {rootContourKey : Option BaselineContourKey} (scope : HealthScope)
    (hconcerns : ∀ row, Concerns d tables.incidents run row ↔
      row.lastObserved < run.stamp ∧ activeByKey tables.incidents incidentKey = some row)
    (hs : notificationSeverityForHealthState run.healthState = some s) :
    ∃ result tables', observeFailure options tables scope incidentScope incidentKey run
        rootContourKey = .ok (result, tables') ∧ RunSpec d c tables run (.ok result) tables' := by
  unfold observeFailure
  cases hactive : activeByKey tables.incidents incidentKey with
  | some active =>
    have hmem : active ∈ tables.incidents := List.mem_of_find?_eq_some hactive
    have hstatus : isActiveIncidentStatus active.status = true := by
      have hfound := List.find?_some hactive
      simp only [Bool.and_eq_true] at hfound
      exact hfound.2
    refine runSpec_active hsound hmem (hsound.rows.live hmem hstatus) (fun row => ?_) hs
      (notifyFailed_changes hemit hpolicy hsound.filed (le_refl _) hs ?_)
    · rw [hconcerns, hactive, Option.some.injEq]
    · obtain ⟨r, hr, hkind⟩ := hsound.opened active hmem
      refine ⟨r, hr, ?_⟩
      simp [HealthNotificationIntent.isProduct, (mem_intentsOf.mp hr).2, hkind]
  | none =>
    have hnone : ∀ row, ¬ Concerns d tables.incidents run row := by
      intro row hconcern
      have hsome := ((hconcerns row).mp hconcern).2
      rw [hactive] at hsome
      cases hsome
    dsimp only
    split
    · rename_i terminal _
      exact ⟨_, tables, rfl, runSpec_same hsound hnone rfl⟩
    · let row := newIncident tables.incidents incidentScope incidentKey run rootContourKey
      let opened := (input run scope row .INCIDENT_OPENED run.healthState).event c s
      have hinsert : insertIncident tables.incidents row = some (tables.incidents ++ [row]) := by
        have hkey : row.incidentKeySha256 = incidentKey := rfl
        rw [insertIncident, hkey, hactive]
        rfl
      have hseverity : (input run scope row .INCIDENT_OPENED run.healthState).severity? = some s := by
        simpa [LlmHealthNotificationInput.severity?, input] using hs
      have hview : intentsOf row.id tables.intents = [] := by
        refine List.filter_eq_nil_iff.mpr fun r hr heq => ?_
        have hlt := hsound.known r hr
        have hid : r.incidentId = tables.incidents.length := of_decide_eq_true heq
        omega
      have hkeyed : opened.Keyed := event_keyed _
      refine ⟨⟨.OPENED, [row.id]⟩,
        ⟨tables.incidents ++ [row], (recordLlmHealthNotification tables.intents opened).2⟩, ?_, ?_⟩
      · rw [hinsert, notificationInput_eq hemit hpolicy, hseverity]
        rfl
      constructor
      · exact hsound.filed.record hkeyed
      · exact length_le_record _ _
      · exact fun row _ hconcern => absurd hconcern (hnone row)
      · intro old hold _
        refine ⟨List.mem_append_left _ hold, ?_⟩
        have hlt : old.id < tables.incidents.length := by
          have hid : old.id ∈ tables.incidents.map (·.id) := List.mem_map_of_mem hold
          rw [hsound.rows.ids] at hid
          exact List.mem_range.mp hid
        have hother : old.id ≠ opened.incidentId := by
          change old.id ≠ tables.incidents.length
          omega
        rw [intentsOf_record hsound.filed hkeyed, if_neg hother]
      · refine .inr ⟨row, rfl, rfl, rfl, rfl, scope, s, tables.intents.length, hs, le_refl _, ?_⟩
        have hsame : row.id = opened.incidentId := rfl
        rw [intentsOf_record hsound.filed hkeyed, if_pos hsame, hview]
        rfl
      · intro i hi
        have hother : i ≠ opened.incidentId := fun heq =>
          hi row (List.mem_append_right _ List.mem_cons_self) heq.symm
        rw [intentsOf_record hsound.filed hkeyed, if_neg hother]
      · intro i
        rw [hs]
        simp only [recordedFailure, Option.some.injEq, Option.isSome_some, true_and]
        constructor
        · rintro rfl
          refine .inr ⟨rfl, ?_⟩
          rw [List.length_append]
          rfl
        · rintro (⟨old, -, hconcern, -⟩ | ⟨rfl, -⟩)
          · exact absurd hconcern (hnone old)
          · rfl

theorem recordedFailure_eq_none {action : IncidentAction} {ids : List Nat}
    (hopened : action ≠ .OPENED) (hupdated : action ≠ .UPDATED) :
    recordedFailure (.ok ⟨action, ids⟩) = none := by
  cases action with
  | OPENED => exact absurd rfl hopened
  | UPDATED => exact absurd rfl hupdated
  | _ => rfl

/-- What a processing leaves, also one that is rolled back. -/
theorem handle_spec (hsound : TablesSound tables) (hemit : options.emitNotifications = true)
    (hpolicy : options.policy.cooldown = .ok c) :
    RunSpec d c tables run (handle d options tables run).1 (handle d options tables run).2 := by
  unfold handle processCompletedHealthRun
  cases hclass : getClassification run with
  | error error =>
    have hsilent : effectOf d run = .silent := by
      rw [effectOf, hclass]
    refine runSpec_same hsound (fun row hconcern => ?_) rfl
    rw [Concerns, hsilent] at hconcern
    exact hconcern.2
  | ok classified =>
    obtain ⟨classification, suite⟩ := classified
    have heffect : effectOf d run = effectOf d run := rfl
    conv_rhs at heffect => rw [effectOf, hclass]
    dsimp only [Except.mapError, bind, Except.bind]
    dsimp only at heffect
    cases hstate : run.healthState with
    | UNKNOWN =>
      rw [hstate] at heffect
      refine runSpec_same hsound (fun row hconcern => ?_) rfl
      rw [Concerns, heffect] at hconcern
      exact hconcern.2
    | HEALTHY =>
      rw [hstate] at heffect
      obtain ⟨ids, tables', hok, hspec⟩ := runSpec_scope (d := d) (c := c) hsound suite.scope
        (fun row => by rw [Concerns, heffect]) (fun row hlive => (counted_iff hlive).1)
        (fun incident intents hfiled hb hknown =>
          notifyResolved_changes hemit hpolicy hfiled hb hknown)
        (fun row view view' hlive hafter hresolves => by
          rw [Handled, hstate]
          exact ⟨(seenBy_of_after hafter hlive).1, hresolves⟩)
        (by rw [hstate]; rfl)
      rw [hok]
      refine hspec _ (recordedFailure_eq_none ?_ ?_)
      · split <;> decide
      · split <;> decide
    | MAINTENANCE =>
      rw [hstate] at heffect
      obtain ⟨ids, tables', hok, hspec⟩ := runSpec_scope (d := d) (c := c) hsound suite.scope
        (fun row => by rw [Concerns, heffect]) (fun row hlive => (counted_iff hlive).2)
        (fun incident intents hfiled hb _ => notifyMaintained_changes hemit hpolicy hfiled hb)
        (fun row view view' hlive hafter hmaintains => by
          rw [Handled, hstate]
          exact ⟨(seenBy_of_after hafter hlive).2.1, hmaintains⟩)
        (by rw [hstate]; rfl)
      rw [hok]
      refine hspec _ (recordedFailure_eq_none ?_ ?_)
      · split <;> decide
      · split <;> decide
    | _ =>
      rw [hstate] at heffect
      obtain ⟨result, tables', hok, hspec⟩ := runSpec_failure (d := d) hsound hemit hpolicy
        suite.scope (fun row => by rw [Concerns, heffect]) (by rw [hstate]; rfl)
      simp only [isIncidentWorthyHealthState]
      rw [show _ = _ from hok]
      exact hspec

end Spec

end Notified

end SellerAgents.Health
