import SellerAgents.Health.IncidentLaws
import SellerAgents.Health.MaintenanceViews
import SellerAgents.Health.NotifiedRuns

open Relational

namespace SellerAgents.Health

open Subscriptions (Date)
open HealthNotificationIntent (Withheld Claimable)

variable {Id Digest Token : Type} {intents intents' : Intents Id Token}
  {row row' : HealthNotificationIntent Id Token}

/-! Delivery steps. -/

/-- The statements of a delivery worker. -/
def DeliveryCmd.Delivers : DeliveryCmd Id Token → Prop
  | .claim _ _ => True
  | .getIntent _ => True
  | .markDelivered _ => True
  | .failClaim _ => True
  | _ => False

/-- What a delivery step makes of a row: it touches what may be claimed alone, and does not withhold
it for maintenance. -/
structure Delivered (row row' : HealthNotificationIntent Id Token) : Prop where
  kept : ¬ Claimable row → row' = row
  raised : Claimable row → ¬ Withheld row'
  filed : RowFiled row'

theorem delivered_same (hrow : RowFiled row) : Delivered row row :=
  ⟨fun _ => rfl, fun hclaimable hwithheld => hwithheld.not_claimable hclaimable, hrow⟩

theorem RowFiled.not_disabled (h : RowFiled row) (hclaimable : Claimable row) :
    row.lastErrorCode ≠ some .DISABLED_ROUTE := by
  intro hdisabled
  have hstate := (h.disabled hdisabled).1
  rcases hclaimable with hclaimable | hclaimable | hclaimable
  · cases hstate.symm.trans hclaimable
  · cases hstate.symm.trans hclaimable
  · cases hstate.symm.trans hclaimable

theorem delivered_claimed (hrow : RowFiled row) (hclaimable : Claimable row)
    (claim : ClaimStatement Token) : Delivered row (row.claimed claim) where
  kept hnot := absurd hclaimable hnot
  raised _ hwithheld := by cases hwithheld.1
  filed := ⟨hrow.keyed, fun _ => rfl, fun hdisabled => absurd hdisabled (hrow.not_disabled hclaimable)⟩

theorem delivered_delivered [DecidableEq Token] (hrow : RowFiled row) (hclaimed : row.state = .CLAIMED)
    (input : MarkDelivered Token) (clock : Date) : Delivered row (row.delivered input clock) where
  kept hnot := absurd (.inr (.inr hclaimed)) hnot
  raised _ hwithheld := by cases hwithheld.1
  filed := ⟨hrow.keyed, nofun, nofun⟩

theorem failedState_eq_suppressed_iff {attemptCount : Nat} {code : NotificationDeliveryFailureCode} :
    failedState attemptCount code = .SUPPRESSED ↔ code = .DISABLED_ROUTE := by
  unfold failedState
  by_cases hdisabled : code = .DISABLED_ROUTE
  · simp [hdisabled]
  · simp only [hdisabled, decide_false, Bool.false_or, iff_false]
    split
    · contradiction
    · split <;> nofun

theorem delivered_failed [DecidableEq Token] (hrow : RowFiled row) (hclaimed : row.state = .CLAIMED)
    (input : FailClaim Token) (clock : Date) (attemptCount : Nat) :
    Delivered row (row.failed input clock attemptCount) where
  kept hnot := absurd (.inr (.inr hclaimed)) hnot
  raised _ := by
    rintro ⟨hstate, hcode⟩
    exact hcode (congrArg some (failedState_eq_suppressed_iff.mp hstate))
  filed := by
    refine ⟨hrow.keyed, fun hstate => ?_, fun hdisabled => ?_⟩
    · have hclaimed : failedState attemptCount input.code = .CLAIMED := hstate
      rcases failedState_cases attemptCount input.code with hfinal | ⟨hretry, -⟩
      · rw [hclaimed] at hfinal
        simp at hfinal
      · cases hretry.symm.trans hclaimed
    · have hstate : failedState attemptCount input.code = .SUPPRESSED :=
        failedState_eq_suppressed_iff.mpr (Option.some.inj hdisabled)
      refine ⟨hstate, ?_⟩
      simp only [HealthNotificationIntent.failed, hstate, if_true]
      nofun

/-- An update of the rows that a delivery step selects. -/
theorem exists_map_updateWhere {p : HealthNotificationIntent Id Token → Bool}
    {f : HealthNotificationIntent Id Token → HealthNotificationIntent Id Token}
    (hfiled : Filed intents) (hkey : ∀ r, SameKey r (f r))
    (hselected : ∀ r ∈ intents, p r = true → Delivered r (f r)) :
    ∃ g, updateWhere p f intents = intents.map g ∧ (∀ r, SameKey r (g r)) ∧
      ∀ r ∈ intents, Delivered r (g r) := by
  refine ⟨fun r => if p r then f r else r, rfl, fun r => sameKey_ite (hkey r), fun r hr => ?_⟩
  dsimp only
  split
  · rename_i hp
    exact hselected r hr hp
  · exact delivered_same (hfiled.rows r hr)

theorem exists_map_same (hfiled : Filed intents) : ∃ g, intents = intents.map g ∧
    (∀ r, SameKey r (g r)) ∧ ∀ r ∈ intents, Delivered r (g r) :=
  ⟨id, (List.map_id _).symm, fun _ => .rfl, fun r hr => delivered_same (hfiled.rows r hr)⟩

/-- A delivery step updates the rows of the table. -/
theorem deliveryEffect_map [DecidableEq Token] (hfiled : Filed intents)
    {command : DeliveryCmd Id Token} {answer : command.Answer} (hdelivers : command.Delivers)
    (heffect : DeliveryEffect command intents answer intents') :
    ∃ g, intents' = intents.map g ∧ (∀ r, SameKey r (g r)) ∧ ∀ r ∈ intents, Delivered r (g r) := by
  cases command with
  | claim input claimToken =>
    obtain ⟨clock, locked, heffect⟩ := heffect
    unfold claimCandidateRow at heffect
    split at heffect
    · cases heffect
      exact exists_map_same hfiled
    · rename_i candidate hcandidate
      cases heffect
      obtain ⟨hmem, hdue⟩ := mem_of_claimCandidate hcandidate
      refine exists_map_updateWhere hfiled (fun r => ⟨rfl, rfl, rfl, rfl, rfl⟩) fun r hr hid => ?_
      obtain rfl : r = candidate := by
        have hfound := hfiled.numbered.getIntent_of_mem hr
        rw [of_decide_eq_true hid, hfiled.numbered.getIntent_of_mem hmem] at hfound
        exact (Option.some.inj hfound).symm
      exact delivered_claimed (hfiled.rows r hr) (state_of_due hdue) _
  | getIntent id =>
    obtain ⟨-, rfl⟩ := heffect
    exact exists_map_same hfiled
  | markDelivered input =>
    obtain ⟨clock, heffect⟩ := heffect
    unfold markDelivered at heffect
    split at heffect
    · cases heffect
      refine exists_map_updateWhere hfiled (fun r => ⟨rfl, rfl, rfl, rfl, rfl⟩) fun r hr hheld => ?_
      exact delivered_delivered (hfiled.rows r hr) (heldBy_iff.mp hheld).2.1 input clock
    · cases heffect
      exact exists_map_same hfiled
  | failClaim input =>
    obtain ⟨clock, heffect⟩ := heffect
    unfold failClaim at heffect
    split at heffect
    · cases heffect
      exact exists_map_same hfiled
    · rename_i held hfind
      dsimp only at heffect
      split at heffect
      · cases heffect
        exact exists_map_same hfiled
      · cases heffect
        obtain ⟨hid, hstate, -⟩ := heldBy_iff.mp (List.find?_some hfind)
        refine exists_map_updateWhere hfiled (fun r => ⟨rfl, rfl, rfl, rfl, rfl⟩) fun r hr hp => ?_
        obtain rfl : r = held := by
          have hfound := hfiled.numbered.getIntent_of_mem hr
          simp only [Bool.and_eq_true, decide_eq_true_eq] at hp
          rw [hp.1, ← hid, hfiled.numbered.getIntent_of_mem (List.mem_of_find?_eq_some hfind)]
            at hfound
          exact (Option.some.inj hfound).symm
        exact delivered_failed (hfiled.rows r hr) hstate input clock _
  | record event => cases hdelivers
  | observe input policy => cases hdelivers
  | suppress incidentId => cases hdelivers
  | resume incidentId observedAt => cases hdelivers

section Delivery

variable {view : Intents Id Token} {incident : IncidentRow Id Digest} {last : Option HealthState}
  {g : HealthNotificationIntent Id Token → HealthNotificationIntent Id Token}
  (hkey : ∀ r, SameKey r (g r)) (hg : ∀ r ∈ view, Delivered r (g r))

include hkey hg in
/-- A delivery step leaves the case of an incident as it is. -/
theorem CaseInv.deliver (h : CaseInv incident view last) :
    CaseInv incident (view.map g) last := by
  refine ⟨h.shaped.map hkey, ?_, fun hstatus => ?_, fun hstatus => ?_, fun hstatus => ?_, h.last⟩
  · obtain ⟨r, hr, hkind⟩ := h.opening
    exact ⟨g r, List.mem_map_of_mem hr, (hkey r).eventKind.trans hkind⟩
  · intro r' hr' hkind
    obtain ⟨r, hr, rfl⟩ := List.mem_map.mp hr'
    by_cases hclaimable : Claimable r
    · exact (hg r hr).raised hclaimable
    · rw [(hg r hr).kept hclaimable]
      exact h.held hstatus r hr ((hkey r).eventKind.symm.trans hkind)
  · intro r' hr' hkind hwithheld
    obtain ⟨r, hr, rfl⟩ := List.mem_map.mp hr'
    have hunclaimable : ¬ Claimable r := fun hclaimable => (hg r hr).raised hclaimable hwithheld
    have hsame := (hg r hr).kept hunclaimable
    rw [hsame] at hkind hwithheld ⊢
    exact h.withheld hstatus r hr hkind hwithheld
  · obtain ⟨r, hr, hkind⟩ := h.entered hstatus
    exact ⟨g r, List.mem_map_of_mem hr, (hkey r).eventKind.trans hkind⟩

include hkey hg in
theorem CaseGood.deliver (h : CaseGood incident view last) :
    CaseGood incident (view.map g) last := by
  refine ⟨fun hstatus state s hlast hs => ?_, fun hstatus => ?_, fun hstatus => ?_⟩
  · obtain ⟨r, hr, hproduct, hrank, hraised⟩ := h.raised hstatus state s hlast hs
    refine ⟨g r, List.mem_map_of_mem hr, (hkey r).isProduct.trans hproduct, ?_, ?_⟩
    · rw [(hkey r).severity]
      exact hrank
    · by_cases hclaimable : Claimable r
      · exact (hg r hr).raised hclaimable
      · rw [(hg r hr).kept hclaimable]
        exact hraised
  · intro r' hr' hproduct
    obtain ⟨r, hr, rfl⟩ := List.mem_map.mp hr'
    have hunclaimable := h.quiet hstatus r hr ((hkey r).isProduct.symm.trans hproduct)
    rw [(hg r hr).kept hunclaimable]
    exact hunclaimable
  · intro r' hr' hkind
    obtain ⟨r, hr, rfl⟩ := List.mem_map.mp hr'
    exact h.fresh hstatus r hr ((hkey r).eventKind.symm.trans hkind)

end Delivery

namespace Notified

/-! One incident under a health run. -/

/-- What keeps a run from taking an alarm of an incident away: nothing is being delivered when its
maintenance begins, it is the first, and a critical failure can be raised. -/
@[mk_iff]
structure Harmless (run : HealthRun Id) (row : IncidentRow Id Digest) (view : Intents Id Token) :
    Prop where
  unclaimed : run.healthState = .MAINTENANCE → row.status = .OPEN →
    ∀ r ∈ view, r.isProduct row.id = true → r.state ≠ .CLAIMED
  first : run.healthState = .MAINTENANCE → row.status = .OPEN →
    ∀ r ∈ view, r.eventKind ≠ .MAINTENANCE_ENTERED
  alarming : run.healthState = .BROKEN → Alarming row.id run view

/-- The last failure of an incident once a run has been handled that concerns it. -/
def failureAfter (run : HealthRun Id) (last : Option HealthState) : Option HealthState :=
  if (notificationSeverityForHealthState run.healthState).isSome then some run.healthState else last

section Handled

variable [LinearOrder Id] {c : Int} {b : Nat} {run : HealthRun Id} {scope : HealthScope}
  {row row' : IncidentRow Id Digest} {view view' : Intents Id Token} {last : Option HealthState}
  (hview : ViewOf row.id view) (hinv : CaseInv row view last) (hlive : row.Live)
  (h : Handled c b run scope row row' view view')

/-- What a run does to an incident, by the kind of its state. -/
theorem handled_cases (h : Handled c b run scope row row' view view') :
    (run.healthState = .HEALTHY ∧ row' = row.resolved run ∧ Resolves c b run scope row view view' ∧
        ∀ last, failureAfter run last = last) ∨
      (run.healthState = .MAINTENANCE ∧ row' = row.maintained run ∧
        Maintains c b run scope row view view' ∧ ∀ last, failureAfter run last = last) ∨
      ∃ s, notificationSeverityForHealthState run.healthState = some s ∧ row' = row.failed run ∧
        Fails c b run scope row view view' s ∧ (s = .CRITICAL ↔ run.healthState = .BROKEN) ∧
        ∀ last, failureAfter run last = some run.healthState := by
  unfold Handled at h
  unfold failureAfter
  cases hstate : run.healthState with
  | HEALTHY =>
    rw [hstate] at h
    exact .inl ⟨rfl, h.1, h.2, fun _ => rfl⟩
  | MAINTENANCE =>
    rw [hstate] at h
    exact .inr (.inl ⟨rfl, h.1, h.2, fun _ => rfl⟩)
  | UNKNOWN =>
    rw [hstate] at h
    exact h.elim
  | BROKEN =>
    rw [hstate] at h
    obtain ⟨hrow, s, hs, hfails⟩ := h
    cases hs
    exact .inr (.inr ⟨_, rfl, hrow, hfails, by simp, fun _ => rfl⟩)
  | DRIFT =>
    rw [hstate] at h
    obtain ⟨hrow, s, hs, hfails⟩ := h
    cases hs
    exact .inr (.inr ⟨_, rfl, hrow, hfails, by simp, fun _ => rfl⟩)
  | DEGRADED =>
    rw [hstate] at h
    obtain ⟨hrow, s, hs, hfails⟩ := h
    cases hs
    exact .inr (.inr ⟨_, rfl, hrow, hfails, by simp, fun _ => rfl⟩)

omit [LinearOrder Id] in
theorem maintained_same (hstatus : row.status = .MAINTENANCE)
    (h : Maintains c b run scope row view view') : view' = view := by
  unfold Maintains at h
  rwa [if_pos hstatus] at h

include hview hinv hlive h in
theorem handled_inv : CaseInv row' view' (failureAfter run last) := by
  rcases handled_cases h with ⟨-, rfl, hresolves, hlast⟩ | ⟨-, rfl, hmaintains, hlast⟩ |
    ⟨s, hs, rfl, hfails, -, hlast⟩
  · rw [hlast]
    exact resolves_inv hresolves hinv
  · rw [hlast]
    by_cases hstatus : row.status = .MAINTENANCE
    · obtain rfl := maintained_same hstatus hmaintains
      exact ⟨hinv.shaped, hinv.opening, nofun, fun _ => hinv.withheld hstatus,
        fun _ => hinv.entered hstatus, nofun⟩
    · exact maintains_inv hview hstatus hmaintains (hlive.resolve_right hstatus) hinv
  · rw [hlast]
    obtain ⟨middle, hmiddle, hobserves, -⟩ := fails_middle hview hinv hlive hfails
    exact observes_inv hmiddle hobserves hlive hinv.opening

include hview hinv hlive h in
theorem handled_good (hgood : CaseGood row view last) (hharmless : Harmless run row view) :
    CaseGood row' view' (failureAfter run last) ∧
      (row.status ≠ .MAINTENANCE → row'.status = .MAINTENANCE →
        RecordedBy b row.id run .MAINTENANCE_ENTERED view') ∧
      (row.status = .MAINTENANCE → row'.status ≠ .MAINTENANCE →
        RecordedBy b row.id run .MAINTENANCE_EXITED view') := by
  rcases handled_cases h with ⟨-, rfl, hresolves, hlast⟩ | ⟨hstate, rfl, hmaintains, hlast⟩ |
    ⟨s, hs, rfl, hfails, hcritical, hlast⟩
  · refine ⟨resolves_good _ rfl, fun _ => nofun, fun hstatus _ => ?_⟩
    exact resolves_recorded hview hstatus hresolves (hgood.fresh hstatus)
  · rw [hlast]
    by_cases hstatus : row.status = .MAINTENANCE
    · obtain rfl := maintained_same hstatus hmaintains
      exact ⟨⟨nofun, fun _ => hgood.quiet hstatus, fun _ => hgood.fresh hstatus⟩,
        fun hnot => absurd hstatus hnot, fun _ hleft => absurd rfl hleft⟩
    · have hopen := hlive.resolve_right hstatus
      have hfirst := hharmless.first hstate hopen
      exact ⟨maintains_good hstatus hmaintains hinv (hharmless.unclaimed hstate hopen) hfirst,
        fun _ _ => maintains_recorded hview hstatus hmaintains hfirst,
        fun hmaintenance => absurd hmaintenance hstatus⟩
  · obtain ⟨middle, hmiddle, hobserves, hexited⟩ := fails_middle hview hinv hlive hfails
    have hopen : (row.failed run).status = .OPEN := failed_status hlive
    have hnot : (row.failed run).status ≠ .MAINTENANCE := by
      rw [hopen]
      decide
    rw [hlast]
    refine ⟨⟨fun _ state s' hstate hs' => ?_, fun hstatus => absurd hstatus hnot,
      fun hstatus => absurd hstatus hnot⟩, fun _ hstatus => absurd hstatus hnot,
      fun hstatus _ => observes_recorded hobserves (hexited hstatus (hgood.fresh hstatus))⟩
    obtain rfl := Option.some.inj hstate
    obtain rfl := Option.some.inj (hs.symm.trans hs')
    exact observes_raised hmiddle hs hobserves hview.incident hinv.opening fun hbroken =>
      hharmless.alarming (hcritical.mp hbroken)

include hview hinv hlive h in
/-- A run that is not harmless is seen in what it leaves. -/
theorem harmless_of_handled (hb : ∀ r ∈ view, r.id < b)
    (hquiet : row'.status = .MAINTENANCE → ∀ r ∈ view', r.isProduct row.id = true → ¬ Claimable r)
    (hentered : row.status ≠ .MAINTENANCE → row'.status = .MAINTENANCE →
      RecordedBy b row.id run .MAINTENANCE_ENTERED view') (hraised : row'.status = .OPEN → ∀ s,
      notificationSeverityForHealthState run.healthState = some s → Raised row.id view' s) :
    Harmless run row view := by
  rcases handled_cases h with ⟨hstate, -⟩ | ⟨hstate, rfl, hmaintains, -⟩ |
    ⟨s, hs, rfl, hfails, hcritical, -⟩
  · refine ⟨fun hmaintenance => ?_, fun hmaintenance => ?_, fun hbroken => ?_⟩
    · cases hstate.symm.trans hmaintenance
    · cases hstate.symm.trans hmaintenance
    · cases hstate.symm.trans hbroken
  · refine ⟨fun _ hopen r hr hproduct hclaimed => ?_, fun _ hopen r hr hkind => ?_, fun hbroken => ?_⟩
    · have hnot : row.status ≠ .MAINTENANCE := by simp [hopen]
      have hkept := maintains_claimed hnot hmaintains hr hclaimed
      exact hquiet rfl r hkept hproduct (.inr (.inr hclaimed))
    · have hnot : row.status ≠ .MAINTENANCE := by simp [hopen]
      exact maintains_unrecorded hview hnot hmaintains hb ⟨r, hr, hkind⟩ (hentered hnot rfl)
    · cases hstate.symm.trans hbroken
  · refine ⟨fun hmaintenance => ?_, fun hmaintenance => ?_, fun hbroken => ?_⟩
    · rw [hmaintenance] at hs
      cases hs
    · rw [hmaintenance] at hs
      cases hs
    · obtain ⟨middle, hmiddle, hobserves, -⟩ := fails_middle hview hinv hlive hfails
      have hseverity := hcritical.mpr hbroken
      by_contra hnot
      refine observes_unraised hmiddle hobserves hseverity hview hnot ?_
      rw [← hseverity]
      exact hraised (failed_status hlive) s hs

end Handled

/-! All incidents under a health run. -/

section Run

variable [LinearOrder Id] [DecidableEq Digest] {d : Digests Digest} {c : Int} {run : HealthRun Id}
  {tables tables' : MonitoringTables Id Digest Token}
  {outcome : Except NotificationError HealthIncidentProcessingResult}
  {row row' : IncidentRow Id Digest}

/-- Where an incident of the tables comes from that a run leaves. -/
inductive ComesFrom (d : Digests Digest) (c : Int) (run : HealthRun Id)
    (tables tables' : MonitoringTables Id Digest Token) (row' : IncidentRow Id Digest) : Prop where
  | concerned (row : IncidentRow Id Digest) (scope : HealthScope) (mem : row ∈ tables.incidents)
      (concerned : Concerns d tables.incidents run row) (id : row'.id = row.id)
      (handled : Handled c tables.intents.length run scope row row'
        (intentsOf row.id tables.intents) (intentsOf row.id tables'.intents))
  | unconcerned (mem : row' ∈ tables.incidents) (unconcerned : ¬ Concerns d tables.incidents run row')
      (view : intentsOf row'.id tables'.intents = intentsOf row'.id tables.intents)
  | opened (length : tables'.incidents.length = tables.incidents.length + 1)
      (opened : Opened c tables run row' (intentsOf row'.id tables'.intents))

omit [DecidableEq Digest] in
theorem Handled.id {b : Nat} {scope : HealthScope} {view view' : Intents Id Token}
    (h : Handled c b run scope row row' view view') : row'.id = row.id := by
  rcases handled_cases h with ⟨-, rfl, -⟩ | ⟨-, rfl, -⟩ | ⟨s, -, rfl, -⟩
  · rfl
  · rfl
  · rfl

theorem RunSpec.ids (hsound : TablesSound tables) (h : RunSpec d c tables run outcome tables') :
    tables'.incidents.map (·.id) = List.range tables'.incidents.length := by
  rcases h.incidents with hids | ⟨row, hrows, hopened⟩
  · have hlength : tables'.incidents.length = tables.incidents.length := by
      simpa using congrArg List.length hids
    rw [hids, hlength, hsound.rows.ids]
  · rw [hrows, List.map_append, hsound.rows.ids, List.length_append, List.map_singleton, hopened.id,
      List.length_singleton, List.range_succ]

theorem RunSpec.comesFrom (hsound : TablesSound tables)
    (h : RunSpec d c tables run outcome tables') (hrow' : row' ∈ tables'.incidents) :
    ComesFrom d c run tables tables' row' := by
  have hnodup : (tables'.incidents.map (·.id)).Nodup := h.ids hsound ▸ List.nodup_range
  have hold : ∀ row ∈ tables.incidents, row.id = row'.id → ComesFrom d c run tables tables' row' := by
    intro row hrow hid
    by_cases hconcerned : Concerns d tables.incidents run row
    · obtain ⟨scope, next, hnext, hhandled⟩ := h.concerned row hrow hconcerned
      obtain rfl := List.inj_on_of_nodup_map hnodup hnext hrow' ((Handled.id hhandled).trans hid)
      exact .concerned row scope hrow hconcerned hid.symm hhandled
    · obtain ⟨hkept, hview⟩ := h.unconcerned row hrow hconcerned
      obtain rfl := List.inj_on_of_nodup_map hnodup hkept hrow' hid
      exact .unconcerned hrow hconcerned hview
  rcases h.incidents with hids | ⟨opened, hrows, hopened⟩
  · have hmem : row'.id ∈ tables.incidents.map (·.id) := hids ▸ List.mem_map_of_mem hrow'
    obtain ⟨row, hrow, hid⟩ := List.mem_map.mp hmem
    exact hold row hrow hid
  · have hmem := hrow'
    rw [hrows] at hmem
    rcases List.mem_append.mp hmem with hmem | hmem
    · exact hold row' hmem rfl
    · obtain rfl := List.mem_singleton.mp hmem
      refine .opened ?_ hopened
      rw [hrows, List.length_append, List.length_singleton]

omit [DecidableEq Digest] in
/-- What has been seen of an incident is not later than what has been observed of it. -/
theorem Handled.seen {b : Nat} {scope : HealthScope} {view view' : Intents Id Token}
    (h : Handled c b run scope row row' view view') (hseen : row.lastSeen ≤ row.lastObserved)
    (hafter : row.lastObserved < run.stamp) : row'.lastSeen ≤ row'.lastObserved := by
  rcases handled_cases h with ⟨-, rfl, -⟩ | ⟨-, rfl, -⟩ | ⟨s, -, rfl, -⟩
  · exact (hseen.trans_lt hafter).le
  · exact (hseen.trans_lt hafter).le
  · rw [failed_lastSeen (hseen.trans_lt hafter)]
    exact le_refl _

omit [DecidableEq Digest] in
theorem Handled.status {b : Nat} {scope : HealthScope} {view view' : Intents Id Token}
    (h : Handled c b run scope row row' view view') (hlive : row.Live) :
    row'.Live ∨ row'.status = .RESOLVED := by
  rcases handled_cases h with ⟨-, rfl, -⟩ | ⟨-, rfl, -⟩ | ⟨s, -, rfl, -⟩
  · exact .inr rfl
  · exact .inl (.inr rfl)
  · exact .inl (.inl (failed_status hlive))

theorem Concerns.live (hsound : RowsSound tables.incidents) (hrow : row ∈ tables.incidents)
    (h : Concerns d tables.incidents run row) : row.Live := by
  refine hsound.live hrow ?_
  have hactive := h.2
  cases heffect : effectOf d run with
  | silent =>
    rw [heffect] at hactive
    exact hactive.elim
  | healthy incidentScope =>
    rw [heffect] at hactive
    exact (mem_activeByScope.mp hactive).2.2
  | maintenance incidentScope =>
    rw [heffect] at hactive
    exact (mem_activeByScope.mp hactive).2.2
  | failure incidentScope incidentKey root =>
    rw [heffect] at hactive
    exact (activeByKey_some hactive).2

theorem RunSpec.rowsSound (hsound : TablesSound tables)
    (h : RunSpec d c tables run outcome tables') : RowsSound tables'.incidents where
  ids := h.ids hsound
  status row' hrow' := by
    cases h.comesFrom hsound hrow' with
    | concerned row scope mem concerned id handled =>
      exact handled.status (concerned.live hsound.rows mem)
    | unconcerned mem unconcerned view => exact hsound.rows.status row' mem
    | opened length opened => exact .inl (.inl opened.status)
  seen row' hrow' := by
    cases h.comesFrom hsound hrow' with
    | concerned row scope mem concerned id handled =>
      exact handled.seen (hsound.rows.seen row mem) concerned.1
    | unconcerned mem unconcerned view => exact hsound.rows.seen row' mem
    | opened length opened => exact opened.lastSeen.le

/-- Intents belong to incidents of the table. -/
theorem RunSpec.known (hsound : TablesSound tables) (h : RunSpec d c tables run outcome tables')
    {r : HealthNotificationIntent Id Token} (hr : r ∈ tables'.intents) :
    r.incidentId < tables'.incidents.length := by
  by_contra hnot
  have hother : ∀ row ∈ tables'.incidents, row.id ≠ r.incidentId := by
    intro row hrow hid
    have hmem : row.id ∈ tables'.incidents.map (·.id) := List.mem_map_of_mem hrow
    rw [h.ids hsound] at hmem
    have hlt := List.mem_range.mp hmem
    omega
  have hview := h.others r.incidentId hother
  have hold : r ∈ intentsOf r.incidentId tables.intents :=
    hview ▸ mem_intentsOf.mpr ⟨hr, rfl⟩
  have hlt := hsound.known r (mem_intentsOf.mp hold).1
  have hle : tables.incidents.length ≤ tables'.incidents.length := by
    rcases h.incidents with hids | ⟨row, hrows, -⟩
    · have hlength := congrArg List.length hids
      rw [List.length_map, List.length_map] at hlength
      exact hlength.ge
    · rw [hrows, List.length_append]
      omega
  omega

end Run

end Notified

end SellerAgents.Health
