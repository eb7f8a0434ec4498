import SellerAgents.Health.IncidentOrder
import SellerAgents.Health.MaintenanceAlarms

open Relational

namespace SellerAgents.Health

open Subscriptions (Date)
open HealthNotificationIntent (Withheld Claimable)

namespace Notified

variable {Id Digest Token : Type}

/-! Runs of a monitoring. -/

/-- A completed run with its outcome, or a delivery. -/
inductive MonitoringEvent (Id Token : Type) where
  | run (run : HealthRun Id) (outcome : Except NotificationError HealthIncidentProcessingResult)
  | deliver (command : DeliveryCmd Id Token) (answer : command.Answer)

/-- A step of a monitored run with the tables before and after it. -/
structure MonitoringStep (Id Digest Token : Type) where
  pre : MonitoringTables Id Digest Token
  event : MonitoringEvent Id Token
  post : MonitoringTables Id Digest Token

/-- The failure that an event records for an incident. -/
def MonitoringEvent.failure? (i : Nat) : MonitoringEvent Id Token → Option HealthState
  | .run completed outcome =>
    if recordedFailure outcome = some i then some completed.healthState else none
  | .deliver _ _ => none

/-- The failure last recorded for an incident, the latest step first. -/
def lastFailure (i : Nat) (log : List (MonitoringStep Id Digest Token)) : Option HealthState :=
  log.findSome? (·.event.failure? i)

/-- An event that records an intent of its own. -/
def MonitoringStep.Records (step : MonitoringStep Id Digest Token) (i : Nat)
    (kind : LlmHealthNotificationEventKind) : Prop :=
  match step.event with
  | .run run _ => RecordedBy step.pre.intents.length i run kind step.post.intents
  | .deliver _ _ => False

variable {intents : Intents Id Token} {i : Nat}

theorem raised_intentsOf {s : LlmHealthNotificationSeverity} :
    Raised i (intentsOf i intents) s ↔ Raised i intents s := by
  constructor
  · rintro ⟨r, hr, hrest⟩
    exact ⟨r, (mem_intentsOf.mp hr).1, hrest⟩
  · rintro ⟨r, hr, hproduct, hrest⟩
    refine ⟨r, mem_intentsOf.mpr ⟨hr, ?_⟩, hproduct, hrest⟩
    simp only [HealthNotificationIntent.isProduct, Bool.and_eq_true, decide_eq_true_eq] at hproduct
    exact hproduct.1

theorem recordedBy_intentsOf {b : Nat} {kind : LlmHealthNotificationEventKind} {run : HealthRun Id} :
    RecordedBy b i run kind (intentsOf i intents) ↔ RecordedBy b i run kind intents := by
  constructor
  · rintro ⟨r, hr, hrest⟩
    exact ⟨r, (mem_intentsOf.mp hr).1, hrest⟩
  · rintro ⟨r, hr, hid, hincident, hrest⟩
    exact ⟨r, mem_intentsOf.mpr ⟨hr, hincident⟩, hid, hincident, hrest⟩

theorem history_of_opened (h : ∃ r ∈ intentsOf i intents, r.eventKind = .INCIDENT_OPENED) :
    incidentHasNotificationHistory intents i = true := by
  obtain ⟨r, hr, hkind⟩ := h
  obtain ⟨hmem, hincident⟩ := mem_intentsOf.mp hr
  exact List.any_eq_true.mpr ⟨r, hmem, by simp [hincident, hkind]⟩

theorem mem_intentsOf_of_product {r : HealthNotificationIntent Id Token} (hr : r ∈ intents)
    (hproduct : r.isProduct i = true) :
    r ∈ intentsOf i intents := by
  simp only [HealthNotificationIntent.isProduct, Bool.and_eq_true, decide_eq_true_eq] at hproduct
  exact mem_intentsOf.mpr ⟨hr, hproduct.1⟩

/-- No step swallows an alarm. -/
structure AlarmsKept (log : List (MonitoringStep Id Digest Token))
    (step : MonitoringStep Id Digest Token) : Prop where
  raised : ∀ row ∈ step.post.incidents, row.status = .OPEN → ∀ state s,
    lastFailure row.id log = some state → notificationSeverityForHealthState state = some s →
      Raised row.id step.post.intents s
  quiet : ∀ row ∈ step.post.incidents, row.status = .MAINTENANCE → ∀ r ∈ step.post.intents,
    r.isProduct row.id = true → ∀ now, r.due now = false
  entered : ∀ row ∈ step.pre.incidents, ∀ row' ∈ step.post.incidents, row'.id = row.id →
    incidentHasNotificationHistory step.pre.intents row.id = true →
      row.status ≠ .MAINTENANCE → row'.status = .MAINTENANCE →
        step.Records row.id .MAINTENANCE_ENTERED
  exited : ∀ row ∈ step.pre.incidents, ∀ row' ∈ step.post.incidents, row'.id = row.id →
    incidentHasNotificationHistory step.pre.intents row.id = true →
      row.status = .MAINTENANCE → row'.status ≠ .MAINTENANCE →
        step.Records row.id .MAINTENANCE_EXITED

variable [LinearOrder Id] [DecidableEq Digest]

/-- Health runs that are processed one after the other, with delivery steps between them. The latest
step comes first. -/
inductive Monitored [DecidableEq Token] (d : Digests Digest) (options : IncidentOptions) :
    List (MonitoringStep Id Digest Token) → MonitoringTables Id Digest Token → Prop where
  | start : Monitored d options [] ⟨[], []⟩
  | run {log : List (MonitoringStep Id Digest Token)} {tables : MonitoringTables Id Digest Token}
      (older : Monitored d options log tables) (run : HealthRun Id) :
      Monitored d options
        (⟨tables, .run run (handle d options tables run).1, (handle d options tables run).2⟩ :: log)
        (handle d options tables run).2
  | deliver {log : List (MonitoringStep Id Digest Token)}
      {tables : MonitoringTables Id Digest Token} (older : Monitored d options log tables)
      (command : DeliveryCmd Id Token) (answer : command.Answer) (intents : Intents Id Token)
      (delivers : command.Delivers)
      (effect : DeliveryEffect command tables.intents answer intents) :
      Monitored d options
        (⟨tables, .deliver command answer, ⟨tables.incidents, intents⟩⟩ :: log)
        ⟨tables.incidents, intents⟩

/-- A step that swallows no alarm: a delivery step, or a run that is harmless for the incidents that
it concerns. -/
def MonitoringStep.Harmless (d : Digests Digest) (step : MonitoringStep Id Digest Token) : Prop :=
  match step.event with
  | .run run _ => ∀ row ∈ step.pre.incidents, Concerns d step.pre.incidents run row →
      Notified.Harmless run row (intentsOf row.id step.pre.intents)
  | .deliver _ _ => True

section Monitored

variable {d : Digests Digest} {options : IncidentOptions} {c : Int}
  {log : List (MonitoringStep Id Digest Token)} {tables tables' : MonitoringTables Id Digest Token}
  {run : HealthRun Id} {outcome : Except NotificationError HealthIncidentProcessingResult}

/-- The cases of all incidents. -/
structure Cases (log : List (MonitoringStep Id Digest Token))
    (tables : MonitoringTables Id Digest Token) : Prop where
  sound : TablesSound tables
  inv : ∀ row ∈ tables.incidents, CaseInv row (intentsOf row.id tables.intents)
    (lastFailure row.id log)

def CasesGood (log : List (MonitoringStep Id Digest Token))
    (tables : MonitoringTables Id Digest Token) : Prop :=
  ∀ row ∈ tables.incidents, CaseGood row (intentsOf row.id tables.intents) (lastFailure row.id log)

/-- The failure last recorded, after a run. -/
theorem lastFailure_run (hsound : TablesSound tables) (h : RunSpec d c tables run outcome tables')
    {row : IncidentRow Id Digest} (hrow : row ∈ tables.incidents)
    (log : List (MonitoringStep Id Digest Token)) :
    (Concerns d tables.incidents run row →
        lastFailure row.id (⟨tables, .run run outcome, tables'⟩ :: log) =
          failureAfter run (lastFailure row.id log)) ∧
      (¬ Concerns d tables.incidents run row →
        lastFailure row.id (⟨tables, .run run outcome, tables'⟩ :: log) =
          lastFailure row.id log) := by
  have hlt : row.id < tables.incidents.length := by
    have hmem : row.id ∈ tables.incidents.map (·.id) := List.mem_map_of_mem hrow
    rw [hsound.rows.ids] at hmem
    exact List.mem_range.mp hmem
  unfold lastFailure failureAfter
  rw [List.findSome?_cons]
  dsimp only [MonitoringEvent.failure?]
  constructor
  · intro hconcerns
    by_cases hfailure : (notificationSeverityForHealthState run.healthState).isSome = true
    · have hrecorded := (h.recorded row.id).mpr ⟨hfailure, .inl ⟨row, hrow, hconcerns, rfl⟩⟩
      rw [if_pos hrecorded, if_pos hfailure]
    · have hsilent : recordedFailure outcome ≠ some row.id :=
        fun hrecorded => hfailure ((h.recorded row.id).mp hrecorded).1
      rw [if_neg hsilent, if_neg hfailure]
  · intro hunconcerned
    have hsilent : recordedFailure outcome ≠ some row.id := by
      intro hrecorded
      obtain ⟨-, ⟨other, hother, hconcerns, hid⟩ | ⟨heq, -⟩⟩ := (h.recorded row.id).mp hrecorded
      · obtain rfl := List.inj_on_of_nodup_map hsound.rows.nodup hother hrow hid
        exact hunconcerned hconcerns
      · omega
    rw [if_neg hsilent]

/-- The failure that opens an incident is the last recorded for it. -/
theorem lastFailure_opened (hlength : tables'.incidents.length = tables.incidents.length + 1)
    (h : RunSpec d c tables run outcome tables') {row : IncidentRow Id Digest}
    {view : Intents Id Token} (hopened : Opened c tables run row view) :
    lastFailure row.id (⟨tables, .run run outcome, tables'⟩ :: log) = some run.healthState := by
  obtain ⟨scope, s, n, hs, -⟩ := hopened.view
  have hrecorded := (h.recorded row.id).mpr ⟨by rw [hs]; rfl, .inr ⟨hopened.id, by rw [hlength, hopened.id]⟩⟩
  unfold lastFailure
  rw [List.findSome?_cons]
  dsimp only [MonitoringEvent.failure?]
  rw [if_pos hrecorded]

theorem cases_run (hcases : Cases log tables) (h : RunSpec d c tables run outcome tables') :
    Cases (⟨tables, .run run outcome, tables'⟩ :: log) tables' := by
  have hinv : ∀ row ∈ tables'.incidents, CaseInv row (intentsOf row.id tables'.intents)
      (lastFailure row.id (⟨tables, .run run outcome, tables'⟩ :: log)) := by
    intro row' hrow'
    cases h.comesFrom hcases.sound hrow' with
    | concerned row scope mem concerned id handled =>
      rw [id, (lastFailure_run hcases.sound h mem log).1 concerned]
      exact handled_inv (hcases.sound.filed.viewOf row.id) (hcases.inv row mem)
        (concerned.live hcases.sound.rows mem) handled
    | unconcerned mem unconcerned view =>
      rw [view, (lastFailure_run hcases.sound h mem log).2 unconcerned]
      exact hcases.inv row' mem
    | opened length opened =>
      rw [lastFailure_opened length h opened]
      obtain ⟨scope, s, n, hs, -, hview⟩ := opened.view
      exact (opened_case hs opened.status hview).1
  exact ⟨⟨h.filed, h.rowsSound hcases.sound, fun r hr => h.known hcases.sound hr,
    fun row hrow => (hinv row hrow).opening⟩, hinv⟩

/-- A harmless run keeps the cases good, and records every passage. -/
theorem casesGood_run (hcases : Cases log tables) (hgood : CasesGood log tables)
    (h : RunSpec d c tables run outcome tables')
    (hharmless : ∀ row ∈ tables.incidents, Concerns d tables.incidents run row →
      Notified.Harmless run row (intentsOf row.id tables.intents)) :
    CasesGood (⟨tables, .run run outcome, tables'⟩ :: log) tables' := by
  intro row' hrow'
  cases h.comesFrom hcases.sound hrow' with
  | concerned row scope mem concerned id handled =>
    rw [id, (lastFailure_run hcases.sound h mem log).1 concerned]
    exact (handled_good (hcases.sound.filed.viewOf row.id) (hcases.inv row mem)
      (concerned.live hcases.sound.rows mem) handled (hgood row mem)
      (hharmless row mem concerned)).1
  | unconcerned mem unconcerned view =>
    rw [view, (lastFailure_run hcases.sound h mem log).2 unconcerned]
    exact hgood row' mem
  | opened length opened =>
    rw [lastFailure_opened length h opened]
    obtain ⟨scope, s, n, hs, -, hview⟩ := opened.view
    exact (opened_case hs opened.status hview).2

omit [LinearOrder Id] [DecidableEq Digest] in
/-- Good cases raise their alarms, and are quiet in maintenance. -/
theorem alarms_of_good (hfiled : Filed tables.intents) (h : CasesGood log tables) :
    (∀ row ∈ tables.incidents, row.status = .OPEN → ∀ state s,
        lastFailure row.id log = some state → notificationSeverityForHealthState state = some s →
          Raised row.id tables.intents s) ∧
      ∀ row ∈ tables.incidents, row.status = .MAINTENANCE → ∀ r ∈ tables.intents,
        r.isProduct row.id = true → ∀ now, r.due now = false := by
  constructor
  · intro row hrow hopen state s hlast hs
    exact raised_intentsOf.mp ((h row hrow).raised hopen state s hlast hs)
  · intro row hrow hstatus r hr hproduct now
    refine eq_false_of_ne_true fun hdue => ?_
    exact (h row hrow).quiet hstatus r (mem_intentsOf_of_product hr hproduct) hproduct
      ((exists_due_iff (hfiled.rows r hr)).mp ⟨now, hdue⟩)

/-- Of a run, its harmlessness is exactly what keeps the alarms. -/
theorem alarmsKept_run_iff (hcases : Cases log tables) (hgood : CasesGood log tables)
    (h : RunSpec d c tables run outcome tables') :
    AlarmsKept (⟨tables, .run run outcome, tables'⟩ :: log) ⟨tables, .run run outcome, tables'⟩ ↔
      ∀ row ∈ tables.incidents, Concerns d tables.incidents run row →
        Notified.Harmless run row (intentsOf row.id tables.intents) := by
  have hnodup := hcases.sound.rows.nodup
  constructor
  · intro hkept row hrow hconcerns
    obtain ⟨scope, row', hrow', hhandled⟩ := h.concerned row hrow hconcerns
    have hid : row'.id = row.id := hhandled.id
    refine harmless_of_handled (hcases.sound.filed.viewOf row.id) (hcases.inv row hrow)
      (hconcerns.live hcases.sound.rows hrow) hhandled (fun r hr => ?_) (fun hstatus r hr hproduct => ?_)
      (fun hout hin => ?_) fun hopen s hs => ?_
    · exact hcases.sound.filed.numbered.lt (mem_intentsOf.mp hr).1
    · have hmem := (mem_intentsOf.mp hr).1
      intro hclaimable
      obtain ⟨now, hdue⟩ := (exists_due_iff (h.filed.rows r hmem)).mpr hclaimable
      rw [hkept.quiet row' hrow' hstatus r hmem (hid ▸ hproduct) now] at hdue
      cases hdue
    · exact recordedBy_intentsOf.mpr (hkept.entered row hrow row' hrow' hid
        (history_of_opened (hcases.sound.opened row hrow)) hout hin)
    · refine raised_intentsOf.mpr ?_
      rw [← hid]
      refine hkept.raised row' hrow' hopen run.healthState s ?_ hs
      rw [hid, (lastFailure_run hcases.sound h hrow log).1 hconcerns, failureAfter, hs]
      rfl
  · intro hharmless
    obtain ⟨hraised, hquiet⟩ := alarms_of_good h.filed (casesGood_run hcases hgood h hharmless)
    have hpassage : ∀ row ∈ tables.incidents, ∀ row' ∈ tables'.incidents, row'.id = row.id →
        row'.status ≠ row.status →
          (row.status ≠ .MAINTENANCE → row'.status = .MAINTENANCE →
            RecordedBy tables.intents.length row.id run .MAINTENANCE_ENTERED tables'.intents) ∧
          (row.status = .MAINTENANCE → row'.status ≠ .MAINTENANCE →
            RecordedBy tables.intents.length row.id run .MAINTENANCE_EXITED tables'.intents) := by
      intro row hrow row' hrow' hid hstatus
      cases h.comesFrom hcases.sound hrow' with
      | concerned old scope mem concerned hold handled =>
        obtain rfl := List.inj_on_of_nodup_map hnodup mem hrow (hold.symm.trans hid)
        obtain ⟨-, hentered, hexited⟩ := handled_good (hcases.sound.filed.viewOf old.id)
          (hcases.inv old mem) (concerned.live hcases.sound.rows mem) handled (hgood old mem)
          (hharmless old mem concerned)
        exact ⟨fun hout hin => recordedBy_intentsOf.mp (hentered hout hin),
          fun hin hout => recordedBy_intentsOf.mp (hexited hin hout)⟩
      | unconcerned mem unconcerned view =>
        obtain rfl := List.inj_on_of_nodup_map hnodup mem hrow hid
        exact absurd rfl hstatus
      | opened length opened =>
        have hlt : row.id < tables.incidents.length := by
          have hmem : row.id ∈ tables.incidents.map (·.id) := List.mem_map_of_mem hrow
          rw [hcases.sound.rows.ids] at hmem
          exact List.mem_range.mp hmem
        rw [← hid, opened.id] at hlt
        exact absurd hlt (lt_irrefl _)
    refine ⟨hraised, hquiet, fun row hrow row' hrow' hid _ hout hin => ?_,
      fun row hrow row' hrow' hid _ hin hout => ?_⟩
    · refine (hpassage row hrow row' hrow' hid fun hsame => ?_).1 hout hin
      exact hout (hsame.symm.trans hin)
    · refine (hpassage row hrow row' hrow' hid fun hsame => ?_).2 hin hout
      exact hout (hsame.trans hin)

omit [DecidableEq Digest] in
/-- A delivery step keeps the alarms. -/
theorem cases_deliver {g : HealthNotificationIntent Id Token → HealthNotificationIntent Id Token}
    (hcases : Cases log tables) (hkey : ∀ r, SameKey r (g r))
    (hg : ∀ r ∈ tables.intents, Delivered r (g r)) (command : DeliveryCmd Id Token)
    (answer : command.Answer) :
    Cases (⟨tables, .deliver command answer, ⟨tables.incidents, tables.intents.map g⟩⟩ :: log)
        ⟨tables.incidents, tables.intents.map g⟩ ∧
      (CasesGood log tables →
        CasesGood (⟨tables, .deliver command answer, ⟨tables.incidents, tables.intents.map g⟩⟩ :: log)
          ⟨tables.incidents, tables.intents.map g⟩) := by
  have hview : ∀ i, ∀ r ∈ intentsOf i tables.intents, Delivered r (g r) :=
    fun i r hr => hg r (mem_intentsOf.mp hr).1
  refine ⟨⟨⟨?_, hcases.sound.rows, ?_, ?_⟩, ?_⟩, ?_⟩
  · exact hcases.sound.filed.map hkey fun r hr _ => (hg r hr).filed
  · intro r' hr'
    obtain ⟨r, hr, rfl⟩ := List.mem_map.mp hr'
    rw [(hkey r).incidentId]
    exact hcases.sound.known r hr
  · intro row hrow
    obtain ⟨r, hr, hkind⟩ := hcases.sound.opened row hrow
    rw [intentsOf_map hkey]
    exact ⟨g r, List.mem_map_of_mem hr, (hkey r).eventKind.trans hkind⟩
  · intro row hrow
    rw [intentsOf_map hkey]
    exact (hcases.inv row hrow).deliver hkey (hview row.id)
  · intro hgood row hrow
    rw [intentsOf_map hkey]
    exact (hgood row hrow).deliver hkey (hview row.id)

/-- Without a valid policy no incident is opened. -/
theorem observeFailure_empty (hemit : options.emitNotifications = true) {error : NotificationError}
    (hpolicy : options.policy.cooldown = .error error) (scope : HealthScope)
    (incidentScope incidentKey : Digest) (root : Option BaselineContourKey) :
    observeFailure options (⟨[], []⟩ : MonitoringTables Id Digest Token) scope incidentScope
      incidentKey run root = .error error := by
  have hinput : notificationInput options run scope
      (newIncident [] incidentScope incidentKey run root) .INCIDENT_OPENED run.healthState =
        .error error := by
    unfold notificationInput deriveLlmHealthNotificationEvent
    rw [if_pos hemit, hpolicy]
    rfl
  have hinsert : insertIncident [] (newIncident [] incidentScope incidentKey run root) =
      some [newIncident [] incidentScope incidentKey run root] := rfl
  unfold observeFailure
  rw [show activeByKey ([] : List (IncidentRow Id Digest)) incidentKey = none from rfl,
    show latestTerminalByKey ([] : List (IncidentRow Id Digest)) incidentKey = none from rfl]
  dsimp only [Option.filter]
  rw [hinsert]
  dsimp only
  rw [hinput]
  rfl

theorem handle_empty (hemit : options.emitNotifications = true)
    {error : NotificationError} (hpolicy : options.policy.cooldown = .error error) :
    (handle d options (⟨[], []⟩ : MonitoringTables Id Digest Token) run).2 = ⟨[], []⟩ ∧
      recordedFailure (handle d options (⟨[], []⟩ : MonitoringTables Id Digest Token) run).1 =
        none := by
  unfold handle processCompletedHealthRun
  cases hclass : getClassification run with
  | error error => exact ⟨rfl, rfl⟩
  | ok classified =>
    obtain ⟨classification, suite⟩ := classified
    dsimp only [Except.mapError, bind, Except.bind]
    cases hstate : run.healthState with
    | UNKNOWN => exact ⟨rfl, rfl⟩
    | HEALTHY => exact ⟨rfl, rfl⟩
    | MAINTENANCE => exact ⟨rfl, rfl⟩
    | _ =>
      rw [observeFailure_empty hemit hpolicy]
      exact ⟨rfl, rfl⟩

omit [DecidableEq Digest] in
theorem tablesSound_empty : TablesSound (⟨[], []⟩ : MonitoringTables Id Digest Token) where
  filed := filed_nil
  rows := ⟨rfl, fun _ hrow => absurd hrow List.not_mem_nil, fun _ hrow => absurd hrow List.not_mem_nil⟩
  known _ hrow := absurd hrow List.not_mem_nil
  opened _ hrow := absurd hrow List.not_mem_nil

/-- A processing of a run has its specification, under a policy that is not valid too. -/
theorem exists_runSpec (hemit : options.emitNotifications = true) (hsound : TablesSound tables)
    (hempty : ∀ error, options.policy.cooldown = .error error → tables = ⟨[], []⟩)
    (run : HealthRun Id) :
    (∃ c, RunSpec d c tables run (handle d options tables run).1 (handle d options tables run).2) ∧
      ∀ error, options.policy.cooldown = .error error →
        (handle d options tables run).2 = ⟨[], []⟩ := by
  cases hpolicy : options.policy.cooldown with
  | ok c => exact ⟨⟨c, handle_spec hsound hemit hpolicy⟩, nofun⟩
  | error error =>
    obtain rfl := hempty error hpolicy
    obtain ⟨hpost, houtcome⟩ : (handle d options (⟨[], []⟩ : MonitoringTables Id Digest Token) run).2 =
        ⟨[], []⟩ ∧ recordedFailure
          (handle d options (⟨[], []⟩ : MonitoringTables Id Digest Token) run).1 = none :=
      handle_empty hemit hpolicy
    refine ⟨⟨0, ?_⟩, fun _ _ => hpost⟩
    rw [hpost]
    refine runSpec_same hsound (fun row hconcerns => ?_) houtcome
    obtain ⟨-, hactive⟩ := hconcerns
    cases heffect : effectOf d run with
    | silent => rw [heffect] at hactive; exact hactive
    | healthy incidentScope => rw [heffect] at hactive; cases hactive
    | maintenance incidentScope => rw [heffect] at hactive; cases hactive
    | failure incidentScope incidentKey root => rw [heffect] at hactive; cases hactive

variable [DecidableEq Token]

theorem Monitored.cases (h : Monitored d options log tables)
    (hemit : options.emitNotifications = true) : Cases log tables ∧
      ∀ error, options.policy.cooldown = .error error → tables = ⟨[], []⟩ := by
  induction h with
  | start => exact ⟨⟨tablesSound_empty, fun _ hrow => absurd hrow List.not_mem_nil⟩, fun _ _ => rfl⟩
  | run older run ih =>
    obtain ⟨⟨c, hspec⟩, hempty⟩ := exists_runSpec (d := d) hemit ih.1.sound ih.2 run
    exact ⟨cases_run ih.1 hspec, hempty⟩
  | deliver older command answer intents delivers effect ih =>
    obtain ⟨g, rfl, hkey, hg⟩ := deliveryEffect_map ih.1.sound.filed delivers effect
    refine ⟨(cases_deliver ih.1 hkey hg command answer).1, fun error herror => ?_⟩
    rw [ih.2 error herror]
    rfl

/-- Steps that are harmless keep the cases good. -/
theorem Monitored.casesGood (h : Monitored d options log tables)
    (hemit : options.emitNotifications = true) (hharmless : ∀ step ∈ log, step.Harmless d) :
    CasesGood log tables := by
  induction h with
  | start => exact fun _ hrow => absurd hrow List.not_mem_nil
  | run older run ih =>
    obtain ⟨hcases, hempty⟩ := older.cases hemit
    obtain ⟨⟨c, hspec⟩, -⟩ := exists_runSpec (d := d) hemit hcases.sound hempty run
    exact casesGood_run hcases (ih fun step hstep => hharmless step (List.mem_cons_of_mem _ hstep))
      hspec (hharmless _ List.mem_cons_self)
  | deliver older command answer intents delivers effect ih =>
    obtain ⟨hcases, -⟩ := older.cases hemit
    obtain ⟨g, rfl, hkey, hg⟩ := deliveryEffect_map hcases.sound.filed delivers effect
    exact (cases_deliver hcases hkey hg command answer).2
      (ih fun step hstep => hharmless step (List.mem_cons_of_mem _ hstep))

/-- The latest step keeps the alarms exactly if it is harmless, after steps that are. -/
theorem Monitored.alarmsKept_iff {step : MonitoringStep Id Digest Token}
    (h : Monitored d options (step :: log) tables) (hemit : options.emitNotifications = true)
    (hharmless : ∀ step ∈ log, step.Harmless d) :
    AlarmsKept (step :: log) step ↔ step.Harmless d := by
  cases h with
  | run older run =>
    obtain ⟨hcases, hempty⟩ := older.cases hemit
    obtain ⟨⟨c, hspec⟩, -⟩ := exists_runSpec (d := d) hemit hcases.sound hempty run
    exact alarmsKept_run_iff hcases (older.casesGood hemit hharmless) hspec
  | deliver older command answer intents delivers effect =>
    refine iff_of_true ?_ trivial
    obtain ⟨hcases, -⟩ := older.cases hemit
    obtain ⟨g, rfl, hkey, hg⟩ := deliveryEffect_map hcases.sound.filed delivers effect
    obtain ⟨hcases', hgood⟩ := cases_deliver hcases hkey hg command answer
    obtain ⟨hraised, hquiet⟩ := alarms_of_good hcases'.sound.filed
      (hgood (older.casesGood hemit hharmless))
    refine ⟨hraised, hquiet, fun row hrow row' hrow' hid _ hout hin => ?_,
      fun row hrow row' hrow' hid _ hin hout => ?_⟩
    · obtain rfl := List.inj_on_of_nodup_map hcases.sound.rows.nodup hrow' hrow hid
      exact absurd hin hout
    · obtain rfl := List.inj_on_of_nodup_map hcases.sound.rows.nodup hrow' hrow hid
      exact absurd hin hout

theorem Monitored.older {step : MonitoringStep Id Digest Token}
    (h : Monitored d options (step :: log) tables) : ∃ tables', Monitored d options log tables' := by
  cases h with
  | run older run => exact ⟨_, older⟩
  | deliver older command answer intents delivers effect => exact ⟨_, older⟩

/-- No alarm is swallowed exactly if every run that concerns an incident is harmless for it. -/
theorem alarms_kept_iff (hemit : options.emitNotifications = true)
    (h : Monitored d options log tables) :
    (∀ step older, step :: older <:+ log → AlarmsKept (step :: older) step) ↔
      ∀ step ∈ log, step.Harmless d := by
  induction log generalizing tables with
  | nil => simp
  | cons latest older ih =>
    obtain ⟨tables', hmonitored⟩ := h.older
    have ih := ih hmonitored
    rw [List.forall_mem_cons]
    constructor
    · intro hkept
      have hharmless := ih.mp fun step rest hsuffix =>
        hkept step rest (hsuffix.trans (List.suffix_cons _ _))
      exact ⟨(h.alarmsKept_iff hemit hharmless).mp (hkept latest older (List.suffix_refl _)), hharmless⟩
    · rintro ⟨hlatest, hharmless⟩ step rest hsuffix
      rcases List.suffix_cons_iff.mp hsuffix with heq | hsuffix
      · cases heq
        exact (h.alarmsKept_iff hemit hharmless).mpr hlatest
      · exact ih.mpr hharmless step rest hsuffix

end Monitored

instance (row : HealthNotificationIntent Id Token) : Decidable (Withheld row) :=
  inferInstanceAs (Decidable (_ ∧ _))

instance (i : Nat) (view : Intents Id Token) (s : LlmHealthNotificationSeverity) :
    Decidable (Raised i view s) :=
  inferInstanceAs (Decidable (∃ r ∈ view, _))

instance (i : Nat) (run : HealthRun Id) (view : Intents Id Token) :
    Decidable (Alarming i run view) :=
  decidable_of_iff _ (alarming_iff i run view).symm

instance (run : HealthRun Id) (row : IncidentRow Id Digest) (view : Intents Id Token) :
    Decidable (Harmless run row view) :=
  decidable_of_iff _ (harmless_iff run row view).symm

/-- A suite of one contour with a fallback. -/
def anchorSuite : HealthSuiteDefinition :=
  { rootSuite with
    contours :=
      [{ key := .C02_CONVERSATION_ROOT, required := true, requiredForVariantIds := []
         failureSeverity := .CORE, absencePolicy := .FORBIDDEN
         primaryStrategyId := .CONVERSATION_ANCHOR
         fallbackStrategyIds := [.ACTIVE_CONVERSATION_REGION] }] }

/-- The result of a run that the fallback has saved. -/
def fallbackResult : HealthContourResult :=
  { rootResult .FAIL .PASS with
    fallbackStrategyOutcomes := [⟨.ACTIVE_CONVERSATION_REGION, .PASS⟩]
    selectedStrategyId := some .ACTIVE_CONVERSATION_REGION
    fallbackQuality := .APPROVED_EQUIVALENT }

/-- A run of that suite in one of the states. -/
def anchorRun (healthState : HealthState) (completedAt : Nat) : HealthRun Nat where
  id := completedAt
  suite := some anchorSuite
  results :=
    match healthState with
    | .DRIFT => [fallbackResult]
    | .BROKEN => [rootResult .FAIL .FAIL]
    | _ => [rootResult .PASS .PASS]
  healthLevel := .H1
  healthState := healthState
  operatorMaintenance := healthState = .MAINTENANCE
  completedAt := completedAt

abbrev PlainDigest : Type := HealthIncidentScopeIdentity × Option (Option BaselineContourKey)

abbrev PlainTables : Type := MonitoringTables Nat PlainDigest Nat

abbrev PlainStep : Type := MonitoringStep Nat PlainDigest Nat

/-- The tables after a run under the default options. -/
def afterRun (tables : PlainTables) (run : HealthRun Nat) : PlainTables :=
  (handle plainDigests {} tables run).2

def runStep (tables : PlainTables) (run : HealthRun Nat) : PlainStep :=
  ⟨tables, .run run (handle plainDigests {} tables run).1, afterRun tables run⟩

/-- The steps of runs, of which the first is handled first. -/
def runSteps : PlainTables → List (HealthRun Nat) → List PlainStep
  | _, [] => []
  | tables, run :: runs => runSteps (afterRun tables run) runs ++ [runStep tables run]

theorem monitored_runSteps {tables : PlainTables} {log : List PlainStep}
    (h : Monitored plainDigests {} log tables) (runs : List (HealthRun Nat)) :
    Monitored plainDigests {} (runSteps tables runs ++ log) (runs.foldl afterRun tables) := by
  induction runs generalizing tables log with
  | nil => exact h
  | cons run runs ih =>
    rw [runSteps, List.append_assoc]
    exact ih (h.run run)

theorem harmless_runStep {tables : PlainTables} {run : HealthRun Nat}
    (h : ∀ row ∈ tables.incidents, Notified.Harmless run row (intentsOf row.id tables.intents)) :
    (runStep tables run).Harmless plainDigests := fun row hrow _ => h row hrow

def plainStart : PlainTables := ⟨[], []⟩

def keptRuns : List (HealthRun Nat) :=
  [anchorRun .DRIFT 1, anchorRun .MAINTENANCE 2, anchorRun .BROKEN 3]

/-- A warning, a maintenance, and a critical failure. -/
theorem drift_maintenance_broken_kept :
    (keptRuns.foldl afterRun plainStart).intents.length = 4 ∧
      ∀ step older, step :: older <:+ runSteps plainStart keptRuns ++ [] →
        AlarmsKept (step :: older) step := by
  refine ⟨by decide +kernel, (alarms_kept_iff rfl (monitored_runSteps .start keptRuns)).mpr ?_⟩
  intro step hstep
  simp only [runSteps, keptRuns, List.nil_append, List.append_nil, List.mem_append,
    List.mem_singleton, or_assoc] at hstep
  rcases hstep with rfl | rfl | rfl
  · exact harmless_runStep (by decide +kernel)
  · exact harmless_runStep (by decide +kernel)
  · exact harmless_runStep (by decide +kernel)

def swallowedRuns : List (HealthRun Nat) :=
  [anchorRun .DRIFT 1, anchorRun .BROKEN 2, anchorRun .MAINTENANCE 3, anchorRun .BROKEN 4]

/-- An escalation that a maintenance has suppressed stays so when the failure comes back. -/
theorem escalation_stays_suppressed :
    swallowedRuns.Pairwise (fun run later => run.completedAt < later.completedAt) ∧
      Monitored plainDigests {} (runSteps plainStart swallowedRuns ++ [])
        (swallowedRuns.foldl afterRun plainStart) ∧
      ¬ ∀ step older, step :: older <:+ runSteps plainStart swallowedRuns ++ [] →
        AlarmsKept (step :: older) step := by
  refine ⟨by decide, monitored_runSteps .start swallowedRuns, fun hkept => ?_⟩
  let tables := (swallowedRuns.take 3).foldl afterRun plainStart
  let older := runSteps plainStart (swallowedRuns.take 3)
  have hraised := (hkept (runStep tables (anchorRun .BROKEN 4)) older (List.suffix_refl _)).raised
  have hsilent : ∃ row ∈ (afterRun tables (anchorRun .BROKEN 4)).incidents, row.status = .OPEN ∧
      lastFailure row.id (runStep tables (anchorRun .BROKEN 4) :: older) = some .BROKEN ∧
      ¬ Raised row.id (afterRun tables (anchorRun .BROKEN 4)).intents .CRITICAL := by
    decide +kernel
  obtain ⟨row, hrow, hopen, hlast, hnot⟩ := hsilent
  exact hnot (hraised row hrow hopen .BROKEN .CRITICAL hlast rfl)

end Notified

end SellerAgents.Health
