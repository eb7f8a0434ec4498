import SellerAgents.Health.NotifiedIncidents

open Relational

namespace SellerAgents.Health

open Subscriptions (Date)
open HealthNotificationIntent (due isProduct isSuppressedOpening grouped)

variable {Id Digest Token : Type} {i n b : Nat} {c : Int}
  {row row' : HealthNotificationIntent Id Token} {view view' : Intents Id Token}
  {event : LlmHealthNotificationEvent Id} {s : LlmHealthNotificationSeverity}

/-! What becomes of the alarms of one incident. -/

namespace HealthNotificationIntent

/-- An intent that has been suppressed for maintenance, whatever its reason says by now: of those
suppressed otherwise the route was disabled. -/
def Withheld (row : HealthNotificationIntent Id Token) : Prop :=
  row.state = .SUPPRESSED ∧ row.lastErrorCode ≠ some .DISABLED_ROUTE

/-- An intent that a worker may claim at some time. -/
def Claimable (row : HealthNotificationIntent Id Token) : Prop :=
  row.state = .PENDING ∨ row.state = .FAILED_RETRYABLE ∨ row.state = .CLAIMED

end HealthNotificationIntent

open HealthNotificationIntent (Withheld Claimable)

theorem HealthNotificationIntent.Withheld.not_claimable (h : Withheld row) : ¬ Claimable row := by
  rintro (hstate | hstate | hstate)
  · cases h.1.symm.trans hstate
  · cases h.1.symm.trans hstate
  · cases h.1.symm.trans hstate

/-- Some clock finds an intent due exactly if it is claimable. -/
theorem exists_due_iff (hfiled : RowFiled row) : (∃ now, row.due now = true) ↔ Claimable row := by
  constructor
  · rintro ⟨now, hdue⟩
    exact state_of_due hdue
  · rintro (hstate | hstate | hstate)
    · exact ⟨row.nextAttemptAt, by simp [due, hstate]⟩
    · exact ⟨row.nextAttemptAt, by simp [due, hstate]⟩
    · obtain ⟨expiresAt, hexpires⟩ := Option.isSome_iff_exists.mp (hfiled.claimed hstate)
      exact ⟨expiresAt, by simp [due, hstate, hexpires]⟩

/-- A view of one incident: its rows are filed under its own keys, and each key has one row. -/
structure ViewOf (i : Nat) (view : Intents Id Token) : Prop where
  incident : ∀ row ∈ view, row.incidentId = i
  rows : ∀ row ∈ view, RowFiled row
  ids : ∀ row ∈ view, ∀ row' ∈ view, row.id = row'.id → row = row'
  unique : ∀ row ∈ view, ∀ row' ∈ view, row.dedupKey = row'.dedupKey → row = row'

theorem Filed.viewOf {intents : Intents Id Token} (h : Filed intents) (i : Nat) :
    ViewOf i (intentsOf i intents) where
  incident _ hrow := (mem_intentsOf.mp hrow).2
  rows row hrow := h.rows row (mem_intentsOf.mp hrow).1
  ids row hrow row' hrow' hid := by
    have hfound := h.numbered.getIntent_of_mem (mem_intentsOf.mp hrow).1
    rw [hid, h.numbered.getIntent_of_mem (mem_intentsOf.mp hrow').1] at hfound
    exact (Option.some.inj hfound).symm
  unique _ hrow _ hrow' := h.eq_of_key (mem_intentsOf.mp hrow).1 (mem_intentsOf.mp hrow').1

theorem ViewOf.keyed (h : ViewOf i view) (row : HealthNotificationIntent Id Token)
    (hrow : row ∈ view) : row.dedupKey.eventKind = row.eventKind := by
  rw [(h.rows row hrow).keyed]
  rfl

theorem ViewOf.opening_unique (h : ViewOf i view) (hrow : row ∈ view) (hrow' : row' ∈ view)
    (hkind : row.eventKind = .INCIDENT_OPENED) (hkind' : row'.eventKind = .INCIDENT_OPENED) :
    row = row' := by
  refine h.unique row hrow row' hrow' ?_
  rw [(h.rows row hrow).keyed, (h.rows row' hrow').keyed, h.incident row hrow,
    h.incident row' hrow', hkind, hkind']
  rfl

/-- Kinds and severities in a view: openings and escalations are alarms, an escalation is critical
and follows on a warning, and no maintenance ends that has not begun. -/
structure Shaped (view : Intents Id Token) : Prop where
  opened : ∀ row ∈ view, row.eventKind = .INCIDENT_OPENED → row.severity ≠ .INFO
  escalated : ∀ row ∈ view, row.eventKind = .INCIDENT_ESCALATED → row.severity = .CRITICAL ∧
    ∀ opening ∈ view, opening.eventKind = .INCIDENT_OPENED → opening.severity = .WARNING
  exited : ∀ row ∈ view, row.eventKind = .MAINTENANCE_EXITED →
    ∃ entry ∈ view, entry.eventKind = .MAINTENANCE_ENTERED

theorem Shaped.map (h : Shaped view)
    {g : HealthNotificationIntent Id Token → HealthNotificationIntent Id Token}
    (hg : ∀ row, SameKey row (g row)) : Shaped (view.map g) where
  opened row' hrow' hkind := by
    obtain ⟨row, hrow, rfl⟩ := List.mem_map.mp hrow'
    rw [(hg row).severity]
    exact h.opened row hrow ((hg row).eventKind.symm.trans hkind)
  escalated row' hrow' hkind := by
    obtain ⟨row, hrow, rfl⟩ := List.mem_map.mp hrow'
    obtain ⟨hcritical, hwarning⟩ := h.escalated row hrow ((hg row).eventKind.symm.trans hkind)
    refine ⟨(hg row).severity.trans hcritical, fun opening' hopening' hopened => ?_⟩
    obtain ⟨opening, hopening, rfl⟩ := List.mem_map.mp hopening'
    exact (hg opening).severity.trans
      (hwarning opening hopening ((hg opening).eventKind.symm.trans hopened))
  exited row' hrow' hkind := by
    obtain ⟨row, hrow, rfl⟩ := List.mem_map.mp hrow'
    obtain ⟨entry, hentry, hentered⟩ := h.exited row hrow ((hg row).eventKind.symm.trans hkind)
    exact ⟨g entry, List.mem_map_of_mem hentry, (hg entry).eventKind.trans hentered⟩

theorem mem_recordAt_iff : row ∈ recordAt n event view ↔
    row ∈ view ∨ (row = newIntent n event ∧ ∀ other ∈ view, other.dedupKey ≠ event.dedupKey) := by
  unfold recordAt
  split
  · rename_i hany
    obtain ⟨other, hother, hkey⟩ := List.any_eq_true.mp hany
    constructor
    · exact .inl
    · rintro (hrow | ⟨-, hfresh⟩)
      · exact hrow
      · exact absurd (of_decide_eq_true hkey) (hfresh other hother)
  · rename_i hany
    have hfresh : ∀ other ∈ view, other.dedupKey ≠ event.dedupKey := fun other hother hkey =>
      hany (List.any_eq_true.mpr ⟨other, hother, decide_eq_true hkey⟩)
    simp only [List.mem_append, List.mem_singleton]
    exact or_congr_right (and_iff_left hfresh).symm

/-- A record of something other than an alarm. -/
theorem Shaped.recordAt (h : Shaped view) (n : Nat)
    (hopened : event.eventKind ≠ .INCIDENT_OPENED) (hescalated : event.eventKind ≠ .INCIDENT_ESCALATED)
    (hexited : event.eventKind = .MAINTENANCE_EXITED →
      ∃ entry ∈ view, entry.eventKind = .MAINTENANCE_ENTERED) :
    Shaped (recordAt n event view) where
  opened row hrow hkind := by
    rcases mem_recordAt_iff.mp hrow with hrow | ⟨rfl, -⟩
    · exact h.opened row hrow hkind
    · exact absurd hkind hopened
  escalated row hrow hkind := by
    rcases mem_recordAt_iff.mp hrow with hrow | ⟨rfl, -⟩
    · refine ⟨(h.escalated row hrow hkind).1, fun opening hopening hopened' => ?_⟩
      rcases mem_recordAt_iff.mp hopening with hopening | ⟨rfl, -⟩
      · exact (h.escalated row hrow hkind).2 opening hopening hopened'
      · exact absurd hopened' hopened
    · exact absurd hkind hescalated
  exited row hrow hkind := by
    rcases mem_recordAt_iff.mp hrow with hrow | ⟨rfl, -⟩
    · obtain ⟨entry, hentry, hentered⟩ := h.exited row hrow hkind
      exact ⟨entry, mem_recordAt_iff.mpr (.inl hentry), hentered⟩
    · obtain ⟨entry, hentry, hentered⟩ := hexited hkind
      exact ⟨entry, mem_recordAt_iff.mpr (.inl hentry), hentered⟩

theorem severityRank_pos {s : LlmHealthNotificationSeverity} (hs : s ≠ .INFO) :
    0 < severityRank s := by
  cases s with
  | INFO => exact absurd rfl hs
  | WARNING => decide
  | CRITICAL => decide

theorem critical_of_rank {s : LlmHealthNotificationSeverity} (hs : 1 < severityRank s) :
    s = .CRITICAL := by
  cases s with
  | INFO => cases hs
  | WARNING => exact absurd hs (by decide)
  | CRITICAL => rfl

theorem isProduct_iff_kind (hincident : row.incidentId = i) : row.isProduct i = true ↔
    row.eventKind = .INCIDENT_OPENED ∨ row.eventKind = .INCIDENT_ESCALATED := by
  simp [isProduct, hincident]

/-- An alarm is at least a warning. -/
theorem Shaped.rank_pos (hshaped : Shaped view) (hrow : row ∈ view)
    (hproduct : row.isProduct i = true) : 0 < severityRank row.severity := by
  simp only [isProduct, Bool.and_eq_true, Bool.or_eq_true,
    decide_eq_true_eq] at hproduct
  obtain ⟨-, hkind | hkind⟩ := hproduct
  · exact severityRank_pos (hshaped.opened row hrow hkind)
  · rw [(hshaped.escalated row hrow hkind).1]
    decide

/-- The strongest alarm is one, and no alarm is stronger, or as strong and later observed. -/
theorem strongestProduct_spec {current : HealthNotificationIntent Id Token}
    (h : strongestProduct view i = some current) :
    current ∈ view ∧ current.isProduct i = true ∧ ∀ row ∈ view, row.isProduct i = true →
      severityRank row.severity < severityRank current.severity ∨
        severityRank row.severity = severityRank current.severity ∧
          row.latestObservedAt ≤ current.latestObservedAt := by
  unfold strongestProduct at h
  obtain ⟨hmem, hproduct⟩ := List.mem_filter.mp (List.argmax_mem h)
  refine ⟨hmem, hproduct, fun row hrow hrowProduct => ?_⟩
  have hle := List.le_of_mem_argmax (List.mem_filter.mpr ⟨hrow, hrowProduct⟩) h
  obtain hlt | ⟨heq, hrest⟩ := Prod.Lex.toLex_le_toLex.mp hle
  · exact .inl hlt
  · refine .inr ⟨heq, ?_⟩
    obtain hlt | ⟨heq, -⟩ := Prod.Lex.toLex_le_toLex.mp hrest
    · exact hlt.le
    · exact heq.le

/-! The case of an incident: its row, its intents, and the state of its last recorded failure. -/

structure CaseInv (row : IncidentRow Id Digest) (view : Intents Id Token)
    (last : Option HealthState) : Prop where
  shaped : Shaped view
  opening : ∃ r ∈ view, r.eventKind = .INCIDENT_OPENED
  held : row.status = .OPEN → ∀ r ∈ view, r.eventKind = .INCIDENT_OPENED → ¬ Withheld r
  withheld : row.status = .MAINTENANCE → ∀ r ∈ view, r.eventKind = .INCIDENT_OPENED → Withheld r →
    r.suppressionReason = some .MAINTENANCE_ENTERED
  entered : row.status = .MAINTENANCE → ∃ r ∈ view, r.eventKind = .MAINTENANCE_ENTERED
  last : row.status = .OPEN → ∃ state, last = some state

/-- An alarm of at least some severity that is not withheld. -/
def Raised (i : Nat) (view : Intents Id Token) (s : LlmHealthNotificationSeverity) : Prop :=
  ∃ r ∈ view, r.isProduct i = true ∧ severityRank s ≤ severityRank r.severity ∧ ¬ Withheld r

/-- What is claimed of the case. -/
structure CaseGood (row : IncidentRow Id Digest) (view : Intents Id Token)
    (last : Option HealthState) : Prop where
  raised : row.status = .OPEN → ∀ state s, last = some state →
    notificationSeverityForHealthState state = some s → Raised row.id view s
  quiet : row.status = .MAINTENANCE → ∀ r ∈ view, r.isProduct row.id = true → ¬ Claimable r
  fresh : row.status = .MAINTENANCE → ∀ r ∈ view, r.eventKind ≠ .MAINTENANCE_EXITED

/-- An intent of some kind that a run has recorded itself. -/
def RecordedBy (b i : Nat) (run : HealthRun Id) (kind : LlmHealthNotificationEventKind)
    (view : Intents Id Token) : Prop :=
  ∃ r ∈ view, b ≤ r.id ∧ r.incidentId = i ∧ r.eventKind = kind ∧ r.healthRunId = run.id

namespace Notified

variable {run : HealthRun Id} {scope : HealthScope} {incident : IncidentRow Id Digest}
  {last : Option HealthState}

/-- An event of a kind that the view does not hold yet is recorded. -/
theorem recordedBy_recordAt (c : Int) (s : LlmHealthNotificationSeverity) (run : HealthRun Id)
    (scope : HealthScope) (healthState : HealthState)
    (hkeyed : ∀ r ∈ view, r.dedupKey.eventKind = r.eventKind)
    {kind : LlmHealthNotificationEventKind} (hfresh : ∀ r ∈ view, r.eventKind ≠ kind) (hb : b ≤ n) :
    RecordedBy b incident.id run kind
      (recordAt n ((input run scope incident kind healthState).event c s) view) := by
  refine ⟨newIntent n _, mem_recordAt_iff.mpr (.inr ⟨rfl, fun other hother hkey => ?_⟩), hb, rfl,
    rfl, rfl⟩
  have hkind : other.dedupKey.eventKind = kind := congrArg NotificationDedupKey.eventKind hkey
  exact hfresh other hother ((hkeyed other hother).symm.trans hkind)

theorem mem_suppress_iff : row' ∈ suppressLlmHealthProductNotifications view i ↔
    ∃ row ∈ view, (if row.isProduct i && (row.state = .PENDING || row.state = .FAILED_RETRYABLE)
      then row.suppressed else row) = row' := List.mem_map

theorem sameKey_suppress_ite (i : Nat) (row : HealthNotificationIntent Id Token) :
    SameKey row (if row.isProduct i && (row.state = .PENDING || row.state = .FAILED_RETRYABLE)
      then row.suppressed else row) := sameKey_ite sameKey_suppressed

/-- An intent that a suppression has withheld was withheld before, or has the reason now. -/
theorem withheld_suppress_ite (row : HealthNotificationIntent Id Token) (hnot : ¬ Withheld row)
    (h : Withheld (if row.isProduct i && (row.state = .PENDING || row.state = .FAILED_RETRYABLE)
      then row.suppressed else row)) :
    (if row.isProduct i && (row.state = .PENDING || row.state = .FAILED_RETRYABLE)
      then row.suppressed else row).suppressionReason = some .MAINTENANCE_ENTERED := by
  split
  · rfl
  · rename_i hselected
    rw [if_neg hselected] at h
    exact absurd h hnot

section Maintained

variable (hview : ViewOf incident.id view) (hstatus : incident.status ≠ .MAINTENANCE)
  (h : Maintains c b run scope incident view view')

include hstatus h in
theorem maintains_eq : ∃ n, b ≤ n ∧ view' = suppressLlmHealthProductNotifications (recordAt n
    ((input run scope incident .MAINTENANCE_ENTERED .MAINTENANCE).event c .INFO) view)
      incident.id := by
  unfold Maintains at h
  rwa [if_neg hstatus] at h

include hview hstatus h in
theorem maintains_inv (hopen : incident.status = .OPEN) (hinv : CaseInv incident view last) :
    CaseInv (incident.maintained run) view' last := by
  obtain ⟨n, -, rfl⟩ := maintains_eq hstatus h
  have hshaped : Shaped (recordAt n
      ((input run scope incident .MAINTENANCE_ENTERED .MAINTENANCE).event c .INFO) view) :=
    hinv.shaped.recordAt n nofun nofun nofun
  refine ⟨hshaped.map (sameKey_suppress_ite incident.id), ?_, nofun, fun _ => ?_, fun _ => ?_, nofun⟩
  · obtain ⟨r, hr, hkind⟩ := hinv.opening
    exact ⟨_, List.mem_map_of_mem (mem_recordAt_iff.mpr (.inl hr)),
      (sameKey_suppress_ite incident.id r).eventKind.trans hkind⟩
  · intro r' hr' hkind hwithheld
    obtain ⟨r, hr, rfl⟩ := mem_suppress_iff.mp hr'
    have hopened := (sameKey_suppress_ite incident.id r).eventKind.symm.trans hkind
    rcases mem_recordAt_iff.mp hr with hr | ⟨rfl, -⟩
    · exact withheld_suppress_ite r (hinv.held hopen r hr hopened) hwithheld
    · cases hopened
  · by_cases hknown : ∃ r ∈ view, r.eventKind = .MAINTENANCE_ENTERED
    · obtain ⟨r, hr, hkind⟩ := hknown
      exact ⟨_, List.mem_map_of_mem (mem_recordAt_iff.mpr (.inl hr)),
        (sameKey_suppress_ite incident.id r).eventKind.trans hkind⟩
    · obtain ⟨r, hr, -, -, hkind, -⟩ := recordedBy_recordAt c .INFO run scope .MAINTENANCE hview.keyed
        (fun r hr hkind => hknown ⟨r, hr, hkind⟩) (le_refl n)
      exact ⟨_, List.mem_map_of_mem hr, (sameKey_suppress_ite incident.id r).eventKind.trans hkind⟩

include hstatus h in
/-- Without a claimed alarm, and for the first time, an incident enters maintenance quietly and with
an intent of its own. -/
theorem maintains_good (hinv : CaseInv incident view last)
    (hunclaimed : ∀ r ∈ view, r.isProduct incident.id = true → r.state ≠ .CLAIMED)
    (hfirst : ∀ r ∈ view, r.eventKind ≠ .MAINTENANCE_ENTERED) :
    CaseGood (incident.maintained run) view' last := by
  obtain ⟨n, -, rfl⟩ := maintains_eq hstatus h
  refine ⟨nofun, fun _ => ?_, fun _ => ?_⟩
  · intro r' hr' hproduct hclaimable
    obtain ⟨r, hr, rfl⟩ := mem_suppress_iff.mp hr'
    have hproduct' : r.isProduct incident.id = true :=
      (sameKey_suppress_ite incident.id r).isProduct.symm.trans hproduct
    rcases mem_recordAt_iff.mp hr with hr | ⟨rfl, -⟩
    · by_cases hpending : r.state = .PENDING ∨ r.state = .FAILED_RETRYABLE
      · rw [if_pos (by simp [hproduct', hpending])] at hclaimable
        rcases hclaimable with hstate | hstate | hstate
        · cases hstate
        · cases hstate
        · cases hstate
      · rw [if_neg (by simp [hproduct', hpending])] at hclaimable
        rcases hclaimable with hstate | hstate | hstate
        · exact hpending (.inl hstate)
        · exact hpending (.inr hstate)
        · exact hunclaimed r hr hproduct' hstate
    · simp [isProduct, newIntent, LlmHealthNotificationInput.event,
        input] at hproduct'
  · intro r' hr' hkind
    obtain ⟨r, hr, rfl⟩ := mem_suppress_iff.mp hr'
    have hexited := (sameKey_suppress_ite incident.id r).eventKind.symm.trans hkind
    rcases mem_recordAt_iff.mp hr with hr | ⟨rfl, -⟩
    · obtain ⟨entry, hentry, hentered⟩ := hinv.shaped.exited r hr hexited
      exact hfirst entry hentry hentered
    · cases hexited

include hview hstatus h in
theorem maintains_recorded (hfirst : ∀ r ∈ view, r.eventKind ≠ .MAINTENANCE_ENTERED) :
    RecordedBy b incident.id run .MAINTENANCE_ENTERED view' := by
  obtain ⟨n, hn, rfl⟩ := maintains_eq hstatus h
  obtain ⟨r, hr, hid, hincident, hkind, hrun⟩ :=
    recordedBy_recordAt c .INFO run scope .MAINTENANCE hview.keyed hfirst hn
  refine ⟨_, List.mem_map_of_mem hr, ?_⟩
  have hkey := sameKey_suppress_ite incident.id r
  refine ⟨hkey.id ▸ hid, hkey.incidentId.trans hincident, hkey.eventKind.trans hkind, ?_⟩
  dsimp only
  split
  · exact hrun
  · exact hrun

include hview hstatus h in
/-- A second entry records nothing. -/
theorem maintains_unrecorded (hb : ∀ r ∈ view, r.id < b)
    (hentered : ∃ r ∈ view, r.eventKind = .MAINTENANCE_ENTERED) :
    ¬ RecordedBy b incident.id run .MAINTENANCE_ENTERED view' := by
  obtain ⟨n, hn, rfl⟩ := maintains_eq hstatus h
  rintro ⟨r', hr', hid, -, hkind, -⟩
  obtain ⟨r, hr, rfl⟩ := mem_suppress_iff.mp hr'
  have hkey := sameKey_suppress_ite incident.id r
  rcases mem_recordAt_iff.mp hr with hr | ⟨rfl, hfresh⟩
  · have hlt := hb r hr
    rw [hkey.id] at hid
    omega
  · obtain ⟨entry, hentry, hentered⟩ := hentered
    refine hfresh entry hentry ?_
    rw [(hview.rows entry hentry).keyed, hview.incident entry hentry, hentered]
    rfl

include hstatus h in
/-- A claimed alarm stays claimed. -/
theorem maintains_claimed {r : HealthNotificationIntent Id Token} (hr : r ∈ view)
    (hclaimed : r.state = .CLAIMED) : r ∈ view' := by
  obtain ⟨n, hn, rfl⟩ := maintains_eq hstatus h
  refine mem_suppress_iff.mpr ⟨r, mem_recordAt_iff.mpr (.inl hr), if_neg ?_⟩
  simp [hclaimed]

end Maintained

theorem mem_recordAt_of_recorded {kind : LlmHealthNotificationEventKind}
    (h : RecordedBy b i run kind view) : RecordedBy b i run kind (recordAt n event view) := by
  obtain ⟨r, hr, hrest⟩ := h
  exact ⟨r, mem_recordAt_iff.mpr (.inl hr), hrest⟩

theorem resolves_inv (h : Resolves c b run scope incident view view')
    (hinv : CaseInv incident view last) : CaseInv (incident.resolved run) view' last := by
  obtain ⟨n, m, -, -, rfl⟩ := h
  have hshaped : Shaped (if incident.status = .MAINTENANCE then
      recordAt n ((input run scope incident .MAINTENANCE_EXITED .HEALTHY).event c .INFO) view
      else view) := by
    split
    · rename_i hstatus
      exact hinv.shaped.recordAt n nofun nofun fun _ => hinv.entered hstatus
    · exact hinv.shaped
  obtain ⟨r, hr, hkind⟩ := hinv.opening
  refine ⟨hshaped.recordAt m nofun nofun nofun, ⟨r, mem_recordAt_iff.mpr (.inl ?_), hkind⟩, nofun,
    nofun, nofun, nofun⟩
  split
  · exact mem_recordAt_iff.mpr (.inl hr)
  · exact hr

theorem resolves_good (row : IncidentRow Id Digest) (hstatus : row.status = .RESOLVED) :
    CaseGood row view last := by
  refine ⟨fun hopen => ?_, fun hmaintenance => ?_, fun hmaintenance => ?_⟩
  · cases hstatus.symm.trans hopen
  · cases hstatus.symm.trans hmaintenance
  · cases hstatus.symm.trans hmaintenance

theorem resolves_recorded (hview : ViewOf incident.id view)
    (hstatus : incident.status = .MAINTENANCE) (h : Resolves c b run scope incident view view')
    (hfresh : ∀ r ∈ view, r.eventKind ≠ .MAINTENANCE_EXITED) :
    RecordedBy b incident.id run .MAINTENANCE_EXITED view' := by
  obtain ⟨n, m, hn, -, rfl⟩ := h
  rw [if_pos hstatus]
  exact mem_recordAt_of_recorded (recordedBy_recordAt c .INFO run scope .HEALTHY hview.keyed hfresh hn)

/-! A failure. -/

theorem mem_grouped_iff {current : HealthNotificationIntent Id Token} {withinCooldown : Bool} :
    row' ∈ updateWhere (·.id = current.id) (·.grouped event withinCooldown) view ↔
      ∃ row ∈ view, (if row.id = current.id then row.grouped event withinCooldown else row) = row' := by
  unfold updateWhere
  simp only [List.mem_map, decide_eq_true_eq]

theorem sameKey_grouped_ite (current row : HealthNotificationIntent Id Token)
    (withinCooldown : Bool) :
    SameKey row (if row.id = current.id then row.grouped event withinCooldown else row) := by
  split
  · exact sameKey_grouped
  · exact .rfl

theorem withheld_grouped_ite {current : HealthNotificationIntent Id Token} {withinCooldown : Bool} :
    Withheld (if row.id = current.id then row.grouped event withinCooldown else row) ↔
      Withheld row := by
  split
  · exact Iff.rfl
  · exact Iff.rfl

theorem exists_of_mem_grouped {current : HealthNotificationIntent Id Token} {withinCooldown : Bool}
    (h : row' ∈ updateWhere (·.id = current.id) (·.grouped event withinCooldown) view) :
    ∃ row ∈ view, SameKey row row' ∧ (Withheld row' ↔ Withheld row) := by
  obtain ⟨row, hrow, rfl⟩ := mem_grouped_iff.mp h
  exact ⟨row, hrow, sameKey_grouped_ite _ _ _, withheld_grouped_ite⟩

section Observed

variable {input : LlmHealthNotificationInput Id} {current : HealthNotificationIntent Id Token}

/-- An observed failure keeps every intent, and what withholds it. -/
theorem mem_observedView_of_mem (n : Nat) (c : Int) (s : LlmHealthNotificationSeverity)
    (input : LlmHealthNotificationInput Id) (current : HealthNotificationIntent Id Token)
    (hrow : row ∈ view) : ∃ row' ∈ observedView n c s input current view,
      SameKey row row' ∧ (Withheld row' ↔ Withheld row) := by
  unfold observedView
  dsimp only
  split
  · exact ⟨_, mem_grouped_iff.mpr ⟨row, hrow, rfl⟩, sameKey_grouped_ite _ _ _, withheld_grouped_ite⟩
  · exact ⟨_, mem_recordAt_iff.mpr (.inl (mem_grouped_iff.mpr ⟨row, hrow, rfl⟩)),
      sameKey_grouped_ite _ _ _, withheld_grouped_ite⟩

/-- What it adds is an escalation past the strongest alarm. -/
theorem mem_observedView (h : row' ∈ observedView n c s input current view) :
    (∃ row ∈ view, SameKey row row' ∧ (Withheld row' ↔ Withheld row)) ∨
      (row' = newIntent n (LlmHealthNotificationInput.event c s
          { input with eventKind := .INCIDENT_ESCALATED }) ∧
        current.latestObservedAt < input.observedAt ∧
        severityRank current.severity < severityRank s) := by
  unfold observedView at h
  dsimp only at h
  split at h
  · exact .inl (exists_of_mem_grouped h)
  · rename_i hquiet
    rcases mem_recordAt_iff.mp h with h | ⟨rfl, -⟩
    · exact .inl (exists_of_mem_grouped h)
    · refine .inr ⟨rfl, ?_⟩
      simp only [Bool.or_eq_true, decide_eq_true_eq, not_or, not_le] at hquiet
      obtain ⟨hnewer, hstronger⟩ := hquiet
      unfold compareNotificationSeverity at hstronger
      change (0 : Int) < severityRank s - severityRank current.severity at hstronger
      exact ⟨hnewer, by omega⟩

end Observed

/-- The intents of an incident when a failure of it is observed, after those that it had before: the
alarms are the same, and the opening is not withheld. -/
structure Middle (i : Nat) (view middle : Intents Id Token) : Prop where
  kept : ∀ r ∈ view, ∃ r' ∈ middle, SameKey r r' ∧ r'.latestObservedAt = r.latestObservedAt ∧
    (r.eventKind ≠ .INCIDENT_OPENED → (Withheld r' ↔ Withheld r))
  product : ∀ r' ∈ middle, r'.isProduct i = true → ∃ r ∈ view, SameKey r r' ∧
    r'.latestObservedAt = r.latestObservedAt ∧
    (r.eventKind ≠ .INCIDENT_OPENED → (Withheld r' ↔ Withheld r))
  opening : ∀ r' ∈ middle, r'.eventKind = .INCIDENT_OPENED → ¬ Withheld r'
  shaped : Shaped middle
  incident : ∀ r' ∈ middle, r'.incidentId = i
  keyed : ∀ r' ∈ middle, r'.dedupKey = notificationDedupKey i r'.eventKind r'.severity

theorem middle_open (hview : ViewOf incident.id view) (hinv : CaseInv incident view last)
    (hopen : incident.status = .OPEN) : Middle incident.id view view where
  kept r hr := ⟨r, hr, .rfl, rfl, fun _ => Iff.rfl⟩
  product r hr _ := ⟨r, hr, .rfl, rfl, fun _ => Iff.rfl⟩
  opening := hinv.held hopen
  shaped := hinv.shaped
  incident := hview.incident
  keyed r hr := by
    have hkeyed := (hview.rows r hr).keyed
    rwa [hview.incident r hr] at hkeyed

/-- A resumption takes up the opening and nothing else. -/
theorem resume_rows (hview : ViewOf i view) (observedAt : Date)
    (hreason : ∀ r ∈ view, r.eventKind = .INCIDENT_OPENED → Withheld r →
      r.suppressionReason = some .MAINTENANCE_ENTERED) :
    ∃ g : HealthNotificationIntent Id Token → HealthNotificationIntent Id Token,
      resumeLlmHealthProductNotification view i observedAt = view.map g ∧
        ∀ r, SameKey r (g r) ∧ (g r).latestObservedAt = r.latestObservedAt ∧ (r ∈ view →
          (r.eventKind ≠ .INCIDENT_OPENED → (Withheld (g r) ↔ Withheld r)) ∧
            (r.eventKind = .INCIDENT_OPENED → ¬ Withheld (g r))) := by
  unfold resumeLlmHealthProductNotification
  cases hfind : view.find? (·.isSuppressedOpening i) with
  | none =>
    refine ⟨fun r => r, (List.map_id' _).symm, fun r => ⟨.rfl, rfl, fun hr => ⟨fun _ => Iff.rfl, ?_⟩⟩⟩
    intro hkind hwithheld
    have hnone := List.find?_eq_none.mp hfind r hr
    simp [isSuppressedOpening, hview.incident r hr, hkind, hwithheld.1,
      hreason r hr hkind hwithheld] at hnone
  | some opening =>
    have hmem := List.mem_of_find?_eq_some hfind
    have hopening := List.find?_some hfind
    simp only [isSuppressedOpening, Bool.and_eq_true,
      decide_eq_true_eq] at hopening
    refine ⟨fun r => if r.id = opening.id then r.resumed observedAt else r, ?_, fun r => ?_⟩
    · refine List.map_congr_left fun r _ => ?_
      simp
    · refine ⟨?_, ?_, fun hr => ⟨fun hkind => ?_, fun hkind => ?_⟩⟩
      · dsimp only
        split
        · exact sameKey_resumed
        · exact .rfl
      · dsimp only
        split
        · rfl
        · rfl
      · have hother : r.id ≠ opening.id := by
          intro hid
          obtain rfl := hview.ids r hr opening hmem hid
          exact hkind hopening.1.1.2
        dsimp only
        rw [if_neg hother]
      · obtain rfl := hview.opening_unique hr hmem hkind hopening.1.1.2
        dsimp only
        rw [if_pos rfl]
        exact fun hwithheld => by cases hwithheld.1

theorem middle_exit (hview : ViewOf incident.id view) (hinv : CaseInv incident view last)
    (hstatus : incident.status = .MAINTENANCE) (n : Nat) (c : Int) (scope : HealthScope)
    (run : HealthRun Id) : Middle incident.id view (recordAt n
      ((input run scope incident .MAINTENANCE_EXITED run.healthState).event c .INFO)
      (resumeLlmHealthProductNotification view incident.id run.completedAt)) := by
  obtain ⟨g, hresume, hg⟩ := resume_rows hview run.completedAt (hinv.withheld hstatus)
  rw [hresume]
  constructor
  · intro r hr
    obtain ⟨hkey, hlatest, hrest⟩ := hg r
    exact ⟨g r, mem_recordAt_iff.mpr (.inl (List.mem_map_of_mem hr)), hkey, hlatest, (hrest hr).1⟩
  · intro r' hr' hproduct
    rcases mem_recordAt_iff.mp hr' with hr' | ⟨rfl, -⟩
    · obtain ⟨r, hr, rfl⟩ := List.mem_map.mp hr'
      obtain ⟨hkey, hlatest, hrest⟩ := hg r
      exact ⟨r, hr, hkey, hlatest, (hrest hr).1⟩
    · simp [isProduct, newIntent, LlmHealthNotificationInput.event,
        input] at hproduct
  · intro r' hr' hkind
    rcases mem_recordAt_iff.mp hr' with hr' | ⟨rfl, -⟩
    · obtain ⟨r, hr, rfl⟩ := List.mem_map.mp hr'
      obtain ⟨hkey, -, hrest⟩ := hg r
      exact (hrest hr).2 (hkey.eventKind.symm.trans hkind)
    · cases hkind
  · refine (hinv.shaped.map fun r => (hg r).1).recordAt n (fun hkind => ?_) (fun hkind => ?_) fun _ => ?_
    · cases hkind
    · cases hkind
    · obtain ⟨entry, hentry, hentered⟩ := hinv.entered hstatus
      exact ⟨g entry, List.mem_map_of_mem hentry, (hg entry).1.eventKind.trans hentered⟩
  · intro r' hr'
    rcases mem_recordAt_iff.mp hr' with hr' | ⟨rfl, -⟩
    · obtain ⟨r, hr, rfl⟩ := List.mem_map.mp hr'
      exact (hg r).1.incidentId.trans (hview.incident r hr)
    · rfl
  · intro r' hr'
    rcases mem_recordAt_iff.mp hr' with hr' | ⟨rfl, -⟩
    · obtain ⟨r, hr, rfl⟩ := List.mem_map.mp hr'
      obtain ⟨hkey, -, -⟩ := hg r
      rw [hkey.dedupKey, hkey.eventKind, hkey.severity, (hview.rows r hr).keyed,
        hview.incident r hr]
    · rfl

/-! What a failure makes of the intents in between. -/

section Observes

variable {middle : Intents Id Token} (hmiddle : Middle incident.id view middle)
  (hs : notificationSeverityForHealthState run.healthState = some s)
  (h : Observes c b run scope incident middle view' s)

include hs in
theorem severity_ne_info : s ≠ .INFO := by
  rintro rfl
  revert hs
  cases run.healthState with
  | _ => decide

include hmiddle h in
/-- A new escalation is critical and comes after warnings alone. -/
theorem observes_shaped : Shaped view' := by
  obtain ⟨current, n, -, hcurrent, rfl⟩ := h
  obtain ⟨hmem, hproduct, hstrongest⟩ := strongestProduct_spec hcurrent
  have hpos := hmiddle.shaped.rank_pos hmem hproduct
  have hopened : ∀ opening ∈ observedView n c s
      (input run scope incident .INCIDENT_OPENED run.healthState) current middle,
      opening.eventKind = .INCIDENT_OPENED →
        ∃ r ∈ middle, SameKey r opening ∧ r.eventKind = .INCIDENT_OPENED := by
    intro opening hopening hkind
    rcases mem_observedView hopening with ⟨r, hr, hkey, -⟩ | ⟨rfl, -, -⟩
    · exact ⟨r, hr, hkey, hkey.eventKind.symm.trans hkind⟩
    · cases hkind
  constructor
  · intro r' hr' hkind
    obtain ⟨r, hr, hkey, hkind⟩ := hopened r' hr' hkind
    rw [hkey.severity]
    exact hmiddle.shaped.opened r hr hkind
  · intro r' hr' hkind
    rcases mem_observedView hr' with ⟨r, hr, hkey, -⟩ | ⟨rfl, -, hstronger⟩
    · obtain ⟨hcritical, hwarning⟩ := hmiddle.shaped.escalated r hr (hkey.eventKind.symm.trans hkind)
      refine ⟨hkey.severity.trans hcritical, fun opening' hopening' hopened' => ?_⟩
      obtain ⟨opening, hopening, hkey, hkind⟩ := hopened opening' hopening' hopened'
      exact hkey.severity.trans (hwarning opening hopening hkind)
    · refine ⟨critical_of_rank (lt_of_le_of_lt hpos hstronger), fun opening' hopening' hopened' => ?_⟩
      obtain ⟨opening, hopening, hkey, hkind⟩ := hopened opening' hopening' hopened'
      have hrank := hstrongest opening hopening
        ((isProduct_iff_kind (hmiddle.incident opening hopening)).mpr (.inl hkind))
      have hopeningPos := severityRank_pos (hmiddle.shaped.opened opening hopening hkind)
      have hcritical : severityRank s ≤ 2 := by cases s <;> decide
      rw [hkey.severity]
      cases hseverity : opening.severity with
      | INFO => rw [hseverity] at hopeningPos; cases hopeningPos
      | WARNING => rfl
      | CRITICAL =>
        rw [hseverity] at hrank
        change 2 < _ ∨ 2 = _ ∧ _ at hrank
        omega
  · intro r' hr' hkind
    rcases mem_observedView hr' with ⟨r, hr, hkey, -⟩ | ⟨rfl, -, -⟩
    · obtain ⟨entry, hentry, hentered⟩ := hmiddle.shaped.exited r hr (hkey.eventKind.symm.trans hkind)
      obtain ⟨entry', hentry', hkey', -⟩ := mem_observedView_of_mem n c s
        (input run scope incident .INCIDENT_OPENED run.healthState) current hentry
      exact ⟨entry', hentry', hkey'.eventKind.trans hentered⟩
    · cases hkind

theorem failed_status [LinearOrder Id] (hlive : incident.Live) :
    (incident.failed run).status = .OPEN := by
  rcases hlive with hstatus | hstatus
  · simp [IncidentRow.failed, IncidentRow.observed, hstatus]
  · simp [IncidentRow.failed, IncidentRow.observed, hstatus]

include hmiddle h in
theorem observes_inv [LinearOrder Id] (hlive : incident.Live) (hopening : ∃ r ∈ view, r.eventKind = .INCIDENT_OPENED) :
    CaseInv (incident.failed run) view' (some run.healthState) := by
  have hstatus : (incident.failed run).status ≠ .MAINTENANCE := by
    rw [failed_status hlive]
    decide
  refine ⟨observes_shaped hmiddle h, ?_, fun _ => ?_, fun hmaintenance => absurd hmaintenance hstatus,
    fun hmaintenance => absurd hmaintenance hstatus, fun _ => ⟨_, rfl⟩⟩
  · obtain ⟨r, hr, hkind⟩ := hopening
    obtain ⟨r', hr', hkey, -⟩ := hmiddle.kept r hr
    obtain ⟨current, n, -, -, rfl⟩ := h
    obtain ⟨r'', hr'', hkey', -⟩ := mem_observedView_of_mem n c s
      (input run scope incident .INCIDENT_OPENED run.healthState) current hr'
    exact ⟨r'', hr'', hkey'.eventKind.trans (hkey.eventKind.trans hkind)⟩
  · obtain ⟨current, n, -, -, rfl⟩ := h
    intro r' hr' hkind
    rcases mem_observedView hr' with ⟨r, hr, hkey, hwithheld⟩ | ⟨rfl, -, -⟩
    · rw [hwithheld]
      exact hmiddle.opening r hr (hkey.eventKind.symm.trans hkind)
    · cases hkind

/-- No critical alarm is withheld, unless it is the opening, and a first one comes after those that
are not. -/
@[mk_iff]
structure Alarming (i : Nat) (run : HealthRun Id) (view : Intents Id Token) : Prop where
  escalated : ∀ r ∈ view, r.eventKind = .INCIDENT_ESCALATED → ¬ Withheld r
  later : (∀ r ∈ view, r.isProduct i = true → r.severity ≠ .CRITICAL) →
    ∀ r ∈ view, r.isProduct i = true → r.latestObservedAt < run.completedAt

include h in
/-- An alarm of the middle that is not withheld there. -/
theorem raised_of_mem (hrow : row ∈ middle) (hproduct : row.isProduct incident.id = true)
    (hrank : severityRank s ≤ severityRank row.severity) (hwithheld : ¬ Withheld row) :
    Raised incident.id view' s := by
  obtain ⟨current, n, -, -, rfl⟩ := h
  obtain ⟨row', hrow', hkey, hsame⟩ := mem_observedView_of_mem n c s
    (input run scope incident .INCIDENT_OPENED run.healthState) current hrow
  refine ⟨row', hrow', hkey.isProduct.trans hproduct, ?_, fun hwithheld' => hwithheld (hsame.mp hwithheld')⟩
  rw [hkey.severity]
  exact hrank

include hmiddle h in
/-- Without a critical alarm so far, a later critical failure is an escalation. -/
theorem raised_of_escalation (hcritical : s = .CRITICAL)
    (hnone : ∀ r ∈ middle, r.isProduct incident.id = true → r.severity ≠ .CRITICAL)
    (hlater : ∀ r ∈ middle, r.isProduct incident.id = true → r.latestObservedAt < run.completedAt) :
    Raised incident.id view' s := by
  obtain ⟨current, n, -, hcurrent, rfl⟩ := h
  obtain ⟨hmem, hproduct, -⟩ := strongestProduct_spec hcurrent
  have hstronger : 0 < severityRank s - severityRank current.severity := by
    have hweaker := hnone current hmem hproduct
    rw [hcritical]
    cases hseverity : current.severity with
    | INFO => decide
    | WARNING => decide
    | CRITICAL => exact absurd hseverity hweaker
  have hescalates : ¬ ((input run scope incident .INCIDENT_OPENED run.healthState).observedAt ≤
      current.latestObservedAt || compareNotificationSeverity s current.severity ≤ 0) = true := by
    have hlate : current.latestObservedAt < run.completedAt := hlater current hmem hproduct
    simp only [Bool.or_eq_true, decide_eq_true_eq, not_or, not_le]
    refine ⟨hlate, ?_⟩
    unfold compareNotificationSeverity
    omega
  refine ⟨newIntent n (LlmHealthNotificationInput.event c s
      { input run scope incident .INCIDENT_OPENED run.healthState with
        eventKind := .INCIDENT_ESCALATED }), ?_, ?_, Nat.le_refl (severityRank s),
    fun hwithheld => by cases hwithheld.1⟩
  · unfold observedView
    dsimp only
    rw [if_neg hescalates]
    refine mem_recordAt_iff.mpr (.inr ⟨rfl, fun other hother hkey => ?_⟩)
    obtain ⟨r, hr, hsame, -⟩ := exists_of_mem_grouped hother
    rw [hsame.dedupKey, hmiddle.keyed r hr, hcritical] at hkey
    have hkind : r.eventKind = .INCIDENT_ESCALATED := congrArg NotificationDedupKey.eventKind hkey
    have hproduct := (isProduct_iff_kind (hmiddle.incident r hr)).mpr (.inr hkind)
    exact hnone r hr hproduct (hmiddle.shaped.escalated r hr hkind).1
  · simp [isProduct, newIntent, LlmHealthNotificationInput.event, input]

include hmiddle in
/-- The critical alarms are the same as before. -/
theorem Middle.not_critical
    (hnone : ∀ r ∈ view, r.isProduct incident.id = true → r.severity ≠ .CRITICAL) :
    ∀ r ∈ middle, r.isProduct incident.id = true → r.severity ≠ .CRITICAL := by
  intro r' hr' hproduct
  obtain ⟨r, hr, hkey, -, -⟩ := hmiddle.product r' hr' hproduct
  rw [hkey.severity]
  exact hnone r hr (hkey.isProduct.symm.trans hproduct)

include hmiddle hs h in
theorem observes_raised (hincident : ∀ r ∈ view, r.incidentId = incident.id)
    (hopening : ∃ r ∈ view, r.eventKind = .INCIDENT_OPENED)
    (halarming : s = .CRITICAL → Alarming incident.id run view) : Raised incident.id view' s := by
  have hkept : ∀ r ∈ view, r.isProduct incident.id = true →
      severityRank s ≤ severityRank r.severity →
        (r.eventKind = .INCIDENT_ESCALATED → ¬ Withheld r) → Raised incident.id view' s := by
    intro r hr hproduct hrank hescalated
    obtain ⟨r', hr', hkey, -, hwithheld⟩ := hmiddle.kept r hr
    refine raised_of_mem h hr' (hkey.isProduct.trans hproduct) (hkey.severity.symm ▸ hrank) ?_
    by_cases hkind : r.eventKind = .INCIDENT_OPENED
    · exact hmiddle.opening r' hr' (hkey.eventKind.trans hkind)
    · rw [hwithheld hkind]
      simp only [isProduct, Bool.and_eq_true, Bool.or_eq_true,
        decide_eq_true_eq] at hproduct
      exact hescalated (hproduct.2.resolve_left hkind)
  obtain ⟨opening, hmem, hkind⟩ := hopening
  have hproduct := (isProduct_iff_kind (hincident opening hmem)).mpr (.inl hkind)
  cases hseverity : s with
  | INFO => exact absurd hseverity (severity_ne_info hs)
  | WARNING =>
    rw [hseverity] at hkept
    refine hkept opening hmem hproduct ?_ fun hescalated => ?_
    · obtain ⟨opening', hopening', hkey, -⟩ := hmiddle.kept opening hmem
      have hopened := hmiddle.shaped.opened opening' hopening' (hkey.eventKind.trans hkind)
      rw [hkey.severity] at hopened
      exact severityRank_pos hopened
    · cases hkind.symm.trans hescalated
  | CRITICAL =>
    have hcalm := halarming hseverity
    by_cases hcritical : ∃ r ∈ view, r.isProduct incident.id = true ∧ r.severity = .CRITICAL
    · obtain ⟨r, hr, hproduct, hsame⟩ := hcritical
      rw [hseverity] at hkept
      refine hkept r hr hproduct ?_ (hcalm.escalated r hr)
      rw [hsame]
    · have hnone : ∀ r ∈ view, r.isProduct incident.id = true → r.severity ≠ .CRITICAL :=
        fun r hr hproduct hsame => hcritical ⟨r, hr, hproduct, hsame⟩
      rw [← hseverity]
      refine raised_of_escalation hmiddle h hseverity (hmiddle.not_critical hnone) ?_
      intro r' hr' hproduct
      obtain ⟨r, hr, hkey, hlatest, -⟩ := hmiddle.product r' hr' hproduct
      rw [hlatest]
      exact hcalm.later hnone r hr (hkey.isProduct.symm.trans hproduct)

include hmiddle h in
/-- A critical failure that finds its escalation withheld, or a warning no earlier, raises no alarm.
-/
theorem observes_unraised (hcritical : s = .CRITICAL) (hview : ViewOf incident.id view)
    (hnot : ¬ Alarming incident.id run view) : ¬ Raised incident.id view' .CRITICAL := by
  obtain ⟨current, n, -, hcurrent, rfl⟩ := h
  obtain ⟨hmem, hproduct, hstrongest⟩ := strongestProduct_spec hcurrent
  rintro ⟨row', hrow', hrowProduct, hrank, hraised⟩
  by_cases hescalated : ∀ r ∈ view, r.eventKind = .INCIDENT_ESCALATED → ¬ Withheld r
  · have hlate : ¬ ((∀ r ∈ view, r.isProduct incident.id = true → r.severity ≠ .CRITICAL) →
        ∀ r ∈ view, r.isProduct incident.id = true → r.latestObservedAt < run.completedAt) :=
      fun hlater => hnot ⟨hescalated, hlater⟩
    push Not at hlate
    obtain ⟨hnone, r, hr, hrProduct, hlate⟩ := hlate
    have hnone' := hmiddle.not_critical hnone
    rcases mem_observedView hrow' with ⟨row, hrow, hkey, -⟩ | ⟨-, hlater, -⟩
    · refine hnone' row hrow (hkey.isProduct.symm.trans hrowProduct) ?_
      rw [← hkey.severity]
      exact critical_of_rank hrank
    · obtain ⟨r', hr', hkey, hlatest, -⟩ := hmiddle.kept r hr
      have hproduct' : r'.isProduct incident.id = true := hkey.isProduct.trans hrProduct
      have hpos := hmiddle.shaped.rank_pos hr' hproduct'
      have hweaker : ¬ 1 < severityRank current.severity := fun hrank =>
        hnone' current hmem hproduct (critical_of_rank hrank)
      have hlater' : current.latestObservedAt < run.completedAt := hlater
      obtain hlt | ⟨-, hle⟩ := hstrongest r' hr' hproduct'
      · omega
      · rw [hlatest] at hle
        exact absurd (hlate.trans hle) (not_le.mpr hlater')
  · push Not at hescalated
    obtain ⟨r, hr, hkind, hwithheld⟩ := hescalated
    obtain ⟨r', hr', hkey, -, hsame⟩ := hmiddle.kept r hr
    have hkind' := hkey.eventKind.trans hkind
    obtain ⟨hseverity, hwarning⟩ := hmiddle.shaped.escalated r' hr' hkind'
    rcases mem_observedView hrow' with ⟨row, hrow, hrowKey, hrowWithheld⟩ | ⟨-, -, hstronger⟩
    · have hrowProduct' : row.isProduct incident.id = true := hrowKey.isProduct.symm.trans hrowProduct
      have hrowCritical : row.severity = .CRITICAL := by
        rw [← hrowKey.severity]
        exact critical_of_rank hrank
      obtain ⟨old, hold, holdKey, -, holdWithheld⟩ := hmiddle.product row hrow hrowProduct'
      have hrowKind : row.eventKind = .INCIDENT_ESCALATED := by
        rcases (isProduct_iff_kind (hmiddle.incident row hrow)).mp hrowProduct' with hopened | hescalated
        · cases (hwarning row hrow hopened).symm.trans hrowCritical
        · exact hescalated
      have holdKind : old.eventKind = .INCIDENT_ESCALATED := holdKey.eventKind.symm.trans hrowKind
      obtain rfl : old = r := by
        refine hview.unique old hold r hr ?_
        rw [← holdKey.dedupKey, ← hkey.dedupKey, hmiddle.keyed row hrow, hmiddle.keyed r' hr',
          hrowKind, hkind', hrowCritical, hseverity]
      refine hraised (hrowWithheld.mpr ((holdWithheld ?_).mpr hwithheld))
      rw [holdKind]
      decide
    · have hrank' := hstrongest r' hr' ((isProduct_iff_kind (hmiddle.incident r' hr')).mpr (.inr hkind'))
      rw [hcritical] at hstronger
      rw [hseverity] at hrank'
      omega

include h in
/-- What has been recorded before is kept, by the same run. -/
theorem observes_recorded {kind : LlmHealthNotificationEventKind}
    (hrecorded : RecordedBy b incident.id run kind middle) :
    RecordedBy b incident.id run kind view' := by
  obtain ⟨current, n, -, -, rfl⟩ := h
  obtain ⟨r, hr, hid, hincident, hkind, hrun⟩ := hrecorded
  have hgrouped : RecordedBy b incident.id run kind (updateWhere (·.id = current.id)
      (·.grouped (LlmHealthNotificationInput.event c s
        { input run scope incident .INCIDENT_OPENED run.healthState with
          eventKind := .INCIDENT_OPENED }) (isRepeatedFailureWithinCooldown current.latestObservedAt
        run.completedAt current.severity s c)) middle) := by
    refine ⟨_, mem_grouped_iff.mpr ⟨r, hr, rfl⟩, ?_⟩
    split
    · refine ⟨hid, hincident, hkind, ?_⟩
      simp only [grouped]
      split
      · rfl
      · exact hrun
    · exact ⟨hid, hincident, hkind, hrun⟩
  unfold observedView
  dsimp only
  split
  · exact hgrouped
  · exact mem_recordAt_of_recorded hgrouped

end Observes

/-- A failure of an incident is observed among its intents, after an exit from maintenance that it
records if there was none before. -/
theorem fails_middle (hview : ViewOf incident.id view) (hinv : CaseInv incident view last)
    (hlive : incident.Live) (h : Fails c b run scope incident view view' s) :
    ∃ middle, Middle incident.id view middle ∧ Observes c b run scope incident middle view' s ∧
      (incident.status = .MAINTENANCE → (∀ r ∈ view, r.eventKind ≠ .MAINTENANCE_EXITED) →
        RecordedBy b incident.id run .MAINTENANCE_EXITED middle) := by
  unfold Fails at h
  split at h
  · rename_i hstatus
    obtain ⟨n, hn, hobserves⟩ := h
    refine ⟨_, middle_exit hview hinv hstatus n c scope run, hobserves, fun _ hfresh => ?_⟩
    obtain ⟨g, hresume, hg⟩ := resume_rows hview run.completedAt (hinv.withheld hstatus)
    rw [hresume]
    refine recordedBy_recordAt c .INFO run scope run.healthState (fun r' hr' => ?_)
      (fun r' hr' hkind => ?_) hn
    · obtain ⟨r, hr, rfl⟩ := List.mem_map.mp hr'
      obtain ⟨hkey, -⟩ := hg r
      rw [hkey.dedupKey, hkey.eventKind, hview.keyed r hr]
    · obtain ⟨r, hr, rfl⟩ := List.mem_map.mp hr'
      exact hfresh r hr ((hg r).1.eventKind.symm.trans hkind)
  · rename_i hstatus
    exact ⟨view, middle_open hview hinv (hlive.resolve_right hstatus), h, fun hmaintenance =>
      absurd hmaintenance hstatus⟩

/-- The case of an incident that a failure has just opened. -/
theorem opened_case (hs : notificationSeverityForHealthState run.healthState = some s)
    (hopen : incident.status = .OPEN)
    (hview : view = [newIntent n ((input run scope incident .INCIDENT_OPENED
      run.healthState).event c s)]) :
    CaseInv incident view (some run.healthState) ∧ CaseGood incident view (some run.healthState) := by
  have hmaintenance : incident.status ≠ .MAINTENANCE := by
    rw [hopen]
    decide
  subst hview
  refine ⟨⟨⟨?_, ?_, ?_⟩, ?_, fun _ => ?_, fun h => absurd h hmaintenance,
    fun h => absurd h hmaintenance, fun _ => ⟨_, rfl⟩⟩, ⟨fun _ => ?_, fun h => absurd h hmaintenance,
    fun h => absurd h hmaintenance⟩⟩
  · intro r hr _
    obtain rfl := List.mem_singleton.mp hr
    exact severity_ne_info hs
  · intro r hr hkind
    obtain rfl := List.mem_singleton.mp hr
    cases hkind
  · intro r hr hkind
    obtain rfl := List.mem_singleton.mp hr
    cases hkind
  · exact ⟨_, List.mem_singleton_self _, rfl⟩
  · intro r hr _ hwithheld
    obtain rfl := List.mem_singleton.mp hr
    cases hwithheld.1
  · rintro state s' ⟨⟩ hs'
    obtain rfl := Option.some.inj (hs.symm.trans hs')
    refine ⟨_, List.mem_singleton_self _, ?_, Nat.le_refl (severityRank s), fun hwithheld => ?_⟩
    · simp [isProduct, newIntent, LlmHealthNotificationInput.event, input]
    · cases hwithheld.1

end Notified

end SellerAgents.Health
