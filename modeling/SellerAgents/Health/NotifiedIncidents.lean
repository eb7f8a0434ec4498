import SellerAgents.Health.IncidentTable
import SellerAgents.Health.NotificationViews

open Relational

namespace SellerAgents.Health

open Subscriptions (Date)

variable {Id Digest Token : Type} {intents intents' : Intents Id Token} {i j b : Nat} {c : Int}
  {s : LlmHealthNotificationSeverity} {policy : LlmHealthNotificationPolicy}

/-- The event that is derived from an input of some severity. -/
def LlmHealthNotificationInput.event (c : Int) (s : LlmHealthNotificationSeverity)
    (input : LlmHealthNotificationInput Id) : LlmHealthNotificationEvent Id :=
  { input with
    severity := s
    dedupKey := notificationDedupKey input.incidentId input.eventKind s
    cooldownUntil := input.observedAt + c
    payload := { input with severity := s } }

theorem event_keyed (input : LlmHealthNotificationInput Id) : (input.event c s).Keyed := rfl

theorem deriveLlmHealthNotificationEvent_eq (hpolicy : policy.cooldown = .ok c)
    (input : LlmHealthNotificationInput Id) :
    deriveLlmHealthNotificationEvent input policy =
      .ok (input.severity?.map fun s => input.event c s) := by
  unfold deriveLlmHealthNotificationEvent
  rw [hpolicy]
  rfl

theorem strongestProduct_intentsOf (intents : Intents Id Token) (i : Nat) :
    strongestProduct (intentsOf i intents) i = strongestProduct intents i := by
  unfold strongestProduct intentsOf
  rw [List.filter_filter]
  refine congrArg (List.argmax _) (List.filter_congr fun row _ => ?_)
  unfold HealthNotificationIntent.isProduct
  by_cases heq : row.incidentId = i
  · simp [heq]
  · simp [heq]

/-- The intents of an incident once a failure has been observed. -/
def observedView (n : Nat) (c : Int) (s : LlmHealthNotificationSeverity)
    (input : LlmHealthNotificationInput Id) (current : HealthNotificationIntent Id Token)
    (view : Intents Id Token) : Intents Id Token :=
  let opened := LlmHealthNotificationInput.event c s { input with eventKind := .INCIDENT_OPENED }
  let withinCooldown := isRepeatedFailureWithinCooldown current.latestObservedAt
    input.observedAt current.severity s c
  let grouped := updateWhere (·.id = current.id) (·.grouped opened withinCooldown) view
  if input.observedAt ≤ current.latestObservedAt ||
      compareNotificationSeverity s current.severity ≤ 0 then grouped
  else recordAt n (LlmHealthNotificationInput.event c s { input with eventKind := .INCIDENT_ESCALATED })
    grouped

/-- A step that succeeds and changes the intents of one incident alone, in a given way. -/
def Changes (i : Nat) (R : Intents Id Token → Intents Id Token → Prop) (intents : Intents Id Token)
    (outcome : Except NotificationError (Intents Id Token)) : Prop :=
  ∃ intents', outcome = .ok intents' ∧ Filed intents' ∧ intents.length ≤ intents'.length ∧
    (∀ j, j ≠ i → intentsOf j intents' = intentsOf j intents) ∧
    R (intentsOf i intents) (intentsOf i intents')

theorem rowFiled_grouped {event : LlmHealthNotificationEvent Id} {withinCooldown : Bool}
    {row : HealthNotificationIntent Id Token} (h : RowFiled row) :
    RowFiled (row.grouped event withinCooldown) := by
  refine ⟨h.keyed, h.claimed, fun hdisabled => ⟨(h.disabled hdisabled).1, ?_⟩⟩
  simp only [HealthNotificationIntent.grouped]
  split
  · simp
  · simp

theorem observeLlmHealthFailure_changes (hfiled : Filed intents) (hpolicy : policy.cooldown = .ok c)
    (input : LlmHealthNotificationInput Id)
    (hs : notificationSeverityForHealthState input.healthState = some s)
    {current : HealthNotificationIntent Id Token}
    (hcurrent : strongestProduct (intentsOf input.incidentId intents) input.incidentId = some current)
    (hb : b ≤ intents.length) :
    Changes input.incidentId (fun view view' => ∃ n, b ≤ n ∧
        view' = observedView n c s input current view) intents
      ((observeLlmHealthFailure intents input policy).map Prod.snd) := by
  have hopened : LlmHealthNotificationInput.severity? { input with eventKind := .INCIDENT_OPENED } =
      some s := by simpa [LlmHealthNotificationInput.severity?] using hs
  have hescalated :
      LlmHealthNotificationInput.severity? { input with eventKind := .INCIDENT_ESCALATED } =
        some s := by simpa [LlmHealthNotificationInput.severity?] using hs
  rw [strongestProduct_intentsOf] at hcurrent
  have hmem : current ∈ intents :=
    (List.mem_filter.mp (List.argmax_mem hcurrent)).1
  have hproduct := (List.mem_filter.mp (List.argmax_mem hcurrent)).2
  have hincident : current.incidentId = input.incidentId := by
    simp only [HealthNotificationIntent.isProduct, Bool.and_eq_true, decide_eq_true_eq] at hproduct
    exact hproduct.1
  let opened := LlmHealthNotificationInput.event c s { input with eventKind := .INCIDENT_OPENED }
  let withinCooldown := isRepeatedFailureWithinCooldown current.latestObservedAt
    input.observedAt current.severity s c
  let grouped := updateWhere (·.id = current.id) (·.grouped opened withinCooldown) intents
  have hkey : ∀ row : HealthNotificationIntent Id Token,
      SameKey row (if row.id = current.id then row.grouped opened withinCooldown else row) := by
    intro row
    split
    · exact sameKey_grouped
    · exact .rfl
  have hmap : grouped = intents.map fun row =>
      if row.id = current.id then row.grouped opened withinCooldown else row := by
    refine List.map_congr_left fun row _ => ?_
    simp
  have hgrouped : Filed grouped := by
    rw [hmap]
    refine hfiled.map hkey fun row _ hrow => ?_
    split
    · exact rowFiled_grouped hrow
    · exact hrow
  have hlength : grouped.length = intents.length := List.length_map _
  have hothers : ∀ j, j ≠ input.incidentId → intentsOf j grouped = intentsOf j intents := by
    intro j hj
    rw [hmap, intentsOf_map hkey]
    refine (List.map_congr_left fun row hrow => ?_).trans (List.map_id _)
    obtain ⟨hrow, hrowj⟩ := mem_intentsOf.mp hrow
    refine if_neg fun hid => hj ?_
    have hfound := hfiled.numbered.getIntent_of_mem hrow
    rw [hid, hfiled.numbered.getIntent_of_mem hmem] at hfound
    cases hfound
    exact hrowj.symm.trans hincident
  have hview : intentsOf input.incidentId grouped =
      updateWhere (·.id = current.id) (·.grouped opened withinCooldown)
        (intentsOf input.incidentId intents) := by
    rw [hmap, intentsOf_map hkey]
    refine List.map_congr_left fun row _ => ?_
    simp
  unfold observeLlmHealthFailure
  rw [deriveLlmHealthNotificationEvent_eq hpolicy, hopened, hcurrent, hpolicy,
    deriveLlmHealthNotificationEvent_eq hpolicy, hescalated]
  by_cases hquiet : (input.observedAt ≤ current.latestObservedAt ||
      compareNotificationSeverity s current.severity ≤ 0) = true
  · refine ⟨grouped, ?_, hgrouped, hlength.ge, hothers, intents.length, hb, ?_⟩
    · exact congrArg (Except.map Prod.snd) (if_pos hquiet)
    · rw [hview, observedView, if_pos hquiet]
  · let escalation := LlmHealthNotificationInput.event c s
      { input with eventKind := .INCIDENT_ESCALATED }
    have hkeyed : escalation.Keyed := event_keyed _
    have hincidentId : escalation.incidentId = input.incidentId := rfl
    refine ⟨(recordLlmHealthNotification grouped escalation).2, ?_, hgrouped.record hkeyed,
      hlength.ge.trans (length_le_record _ _), ?_, intents.length, hb, ?_⟩
    · exact congrArg (Except.map Prod.snd) (if_neg hquiet)
    · intro j hj
      rw [intentsOf_record hgrouped hkeyed, hincidentId, if_neg hj, hothers j hj]
    · rw [intentsOf_record hgrouped hkeyed, if_pos hincidentId.symm, hview, hlength, observedView,
        if_neg hquiet]

/-! One step after the other. -/

section Steps

variable {R R' : Intents Id Token → Intents Id Token → Prop}
  {outcome : Except NotificationError (Intents Id Token)} {event : LlmHealthNotificationEvent Id}
  {row : HealthNotificationIntent Id Token}

theorem Changes.mono (h : Changes i R intents outcome)
    (himp : ∀ view view', R view view' → R' view view') : Changes i R' intents outcome := by
  obtain ⟨intents', hok, hfiled, hlength, hothers, hview⟩ := h
  exact ⟨intents', hok, hfiled, hlength, hothers, himp _ _ hview⟩

theorem Changes.bind {next : Intents Id Token → Except NotificationError (Intents Id Token)}
    (h : Changes i R intents outcome)
    (hnext : ∀ middle, Filed middle → intents.length ≤ middle.length →
      R (intentsOf i intents) (intentsOf i middle) → Changes i R' middle (next middle)) :
    Changes i (fun view view' => ∃ middle, R view middle ∧ R' middle view') intents
      (outcome >>= next) := by
  obtain ⟨middle, rfl, hfiled, hlength, hothers, hview⟩ := h
  obtain ⟨intents', hok, hfiled', hlength', hothers', hview'⟩ := hnext middle hfiled hlength hview
  exact ⟨intents', hok, hfiled', hlength.trans hlength',
    fun j hj => (hothers' j hj).trans (hothers j hj), _, hview, hview'⟩

theorem changes_same (hfiled : Filed intents) (i : Nat) :
    Changes i (fun view view' => view' = view) intents (.ok intents) :=
  ⟨intents, rfl, hfiled, le_refl _, fun _ _ => rfl, rfl⟩

theorem record_changes (hfiled : Filed intents) (hkeyed : event.Keyed)
    (hb : b ≤ intents.length) : Changes event.incidentId
      (fun view view' => ∃ n, b ≤ n ∧ view' = recordAt n event view) intents
      (.ok (recordLlmHealthNotification intents event).2) := by
  refine ⟨_, rfl, hfiled.record hkeyed, length_le_record _ _, fun j hj => ?_, intents.length, hb, ?_⟩
  · rw [intentsOf_record hfiled hkeyed, if_neg hj]
  · rw [intentsOf_record hfiled hkeyed, if_pos rfl]

theorem suppress_changes (hfiled : Filed intents) (i : Nat) :
    Changes i (fun view view' => view' = suppressLlmHealthProductNotifications view i) intents
      (.ok (suppressLlmHealthProductNotifications intents i)) := by
  refine ⟨_, rfl, hfiled.suppress i, (length_suppress i intents).ge, fun j hj => ?_, ?_⟩
  · rw [intentsOf_suppress, if_neg hj]
  · rw [intentsOf_suppress, if_pos rfl]

theorem resume_changes (hfiled : Filed intents) (i : Nat) (observedAt : Date) :
    Changes i (fun view view' => view' = resumeLlmHealthProductNotification view i observedAt)
      intents (.ok (resumeLlmHealthProductNotification intents i observedAt)) := by
  refine ⟨_, rfl, hfiled.resume i observedAt, (length_resume i observedAt intents).ge,
    fun j hj => ?_, ?_⟩
  · rw [intentsOf_resume hfiled, if_neg hj]
  · rw [intentsOf_resume hfiled, if_pos rfl]

theorem mem_recordAt {n : Nat} {view : Intents Id Token} (h : row ∈ view) :
    row ∈ recordAt n event view := by
  unfold recordAt
  split
  · exact h
  · exact List.mem_append_left _ h

theorem mem_resume (i : Nat) (observedAt : Date) {view : Intents Id Token} (h : row ∈ view) :
    ∃ row' ∈ resumeLlmHealthProductNotification view i observedAt, SameKey row row' := by
  unfold resumeLlmHealthProductNotification
  split
  · exact ⟨row, h, .rfl⟩
  · exact ⟨_, List.mem_map_of_mem h, sameKey_ite sameKey_resumed⟩

theorem exists_strongestProduct {view : Intents Id Token} (h : row ∈ view)
    (hproduct : row.isProduct i = true) : ∃ current, strongestProduct view i = some current := by
  cases hnone : strongestProduct view i with
  | some current => exact ⟨current, rfl⟩
  | none =>
    have hempty := List.argmax_eq_none.mp hnone
    have hmem := List.mem_filter.mpr ⟨h, hproduct⟩
    rw [hempty] at hmem
    exact absurd hmem List.not_mem_nil

end Steps

namespace Notified

section Notify

variable (c : Int) (b : Nat) (run : HealthRun Id) (scope : HealthScope)
  (incident : IncidentRow Id Digest) (view view' : Intents Id Token)

/-- What a resolution records. -/
def Resolves : Prop :=
  ∃ n m, b ≤ n ∧ b ≤ m ∧
    view' = recordAt m ((input run scope incident .INCIDENT_RECOVERED .HEALTHY).event c .INFO)
      (if incident.status = .MAINTENANCE then
        recordAt n ((input run scope incident .MAINTENANCE_EXITED .HEALTHY).event c .INFO) view
      else view)

/-- What the entry into maintenance records and suppresses. -/
def Maintains : Prop :=
  if incident.status = .MAINTENANCE then view' = view
  else ∃ n, b ≤ n ∧
    view' = suppressLlmHealthProductNotifications (recordAt n
      ((input run scope incident .MAINTENANCE_ENTERED .MAINTENANCE).event c .INFO) view) incident.id

/-- What a failure of some severity adds. -/
def Observes (s : LlmHealthNotificationSeverity) : Prop :=
  ∃ current n, b ≤ n ∧ strongestProduct view incident.id = some current ∧
    view' = observedView n c s (input run scope incident .INCIDENT_OPENED run.healthState) current view

/-- What it does to an active incident. -/
def Fails (s : LlmHealthNotificationSeverity) : Prop :=
  if incident.status = .MAINTENANCE then
    ∃ n, b ≤ n ∧ Observes c b run scope incident
      (recordAt n ((input run scope incident .MAINTENANCE_EXITED run.healthState).event c .INFO)
        (resumeLlmHealthProductNotification view incident.id run.completedAt)) view' s
  else Observes c b run scope incident view view' s

end Notify

variable {options : IncidentOptions} {run : HealthRun Id} {scope : HealthScope}
  {incident : IncidentRow Id Digest}

theorem notificationInput_eq (hemit : options.emitNotifications = true)
    (hpolicy : options.policy.cooldown = .ok c) (eventKind : LlmHealthNotificationEventKind)
    (healthState : HealthState) :
    notificationInput options run scope incident eventKind healthState =
      .ok ((input run scope incident eventKind healthState).severity?.map fun s =>
        (input run scope incident eventKind healthState).event c s) := by
  unfold notificationInput
  rw [if_pos hemit, deriveLlmHealthNotificationEvent_eq hpolicy]

theorem recordInput_changes (c : Int) (run : HealthRun Id) (scope : HealthScope)
    (incident : IncidentRow Id Digest) (hfiled : Filed intents) (hb : b ≤ intents.length)
    (eventKind : LlmHealthNotificationEventKind) (healthState : HealthState)
    (s : LlmHealthNotificationSeverity) :
    Changes incident.id (fun view view' => ∃ n, b ≤ n ∧
        view' = recordAt n ((input run scope incident eventKind healthState).event c s) view) intents
      (.ok (recordLlmHealthNotification intents
        ((input run scope incident eventKind healthState).event c s)).2) :=
  record_changes hfiled (event_keyed _) hb

section

variable (hemit : options.emitNotifications = true) (hpolicy : options.policy.cooldown = .ok c)
  (hfiled : Filed intents) (hb : b ≤ intents.length)
include hemit hpolicy hfiled hb

theorem notifyResolved_changes
    (hknown : ∃ row ∈ intentsOf incident.id intents, row.eventKind = .INCIDENT_OPENED) :
    Changes incident.id (Resolves c b run scope incident) intents
      (notifyResolved options run scope incident intents) := by
  have hhistory : incidentHasNotificationHistory intents incident.id = true := by
    obtain ⟨row, hrow, hkind⟩ := hknown
    obtain ⟨hmem, hid⟩ := mem_intentsOf.mp hrow
    exact List.any_eq_true.mpr ⟨row, hmem, by simp [hid, hkind]⟩
  unfold notifyResolved
  rw [notificationInput_eq hemit hpolicy, notificationInput_eq hemit hpolicy, hemit, hhistory]
  by_cases hstatus : incident.status = .MAINTENANCE
  · have hexited := recordInput_changes c run scope incident hfiled hb .MAINTENANCE_EXITED .HEALTHY .INFO
    have hboth := hexited.bind fun middle hmiddle hlength _ =>
      recordInput_changes c run scope incident hmiddle (hb.trans hlength) .INCIDENT_RECOVERED .HEALTHY .INFO
    simp only [hstatus, decide_true, Bool.and_self, if_true]
    refine hboth.mono ?_
    rintro view view' ⟨middle, ⟨n, hn, rfl⟩, m, hm, rfl⟩
    refine ⟨n, m, hn, hm, ?_⟩
    rw [if_pos hstatus]
  · have hrecovered := recordInput_changes c run scope incident hfiled hb .INCIDENT_RECOVERED .HEALTHY .INFO
    simp only [hstatus, decide_false, Bool.and_false, Bool.false_eq_true, if_false, Bool.and_self,
      if_true]
    refine hrecovered.mono ?_
    rintro view view' ⟨m, hm, rfl⟩
    refine ⟨m, m, hm, hm, ?_⟩
    rw [if_neg hstatus]

theorem notifyMaintained_changes :
    Changes incident.id (Maintains c b run scope incident) intents
      (notifyMaintained options run scope incident intents) := by
  unfold notifyMaintained
  by_cases hstatus : incident.status = .MAINTENANCE
  · rw [if_pos hstatus]
    refine (changes_same hfiled incident.id).mono fun view view' hsame => ?_
    unfold Maintains
    rwa [if_pos hstatus]
  · rw [if_neg hstatus, notificationInput_eq hemit hpolicy]
    simp only [hemit, if_true]
    have hentered := recordInput_changes c run scope incident hfiled hb .MAINTENANCE_ENTERED .MAINTENANCE .INFO
    have hboth := hentered.bind fun middle hmiddle _ _ => suppress_changes hmiddle incident.id
    refine hboth.mono ?_
    rintro view view' ⟨middle, ⟨n, hn, rfl⟩, rfl⟩
    unfold Maintains
    rw [if_neg hstatus]
    exact ⟨n, hn, rfl⟩

theorem notifyObserved_changes {s : LlmHealthNotificationSeverity}
    (hs : notificationSeverityForHealthState run.healthState = some s)
    (hknown : ∃ row ∈ intentsOf incident.id intents, row.isProduct incident.id = true) :
    Changes incident.id (fun view view' => Observes c b run scope incident view view' s) intents
      (notifyObserved options run scope incident intents) := by
  obtain ⟨row, hrow, hproduct⟩ := hknown
  obtain ⟨current, hcurrent⟩ := exists_strongestProduct hrow hproduct
  have hobserved := observeLlmHealthFailure_changes hfiled hpolicy
    (input run scope incident .INCIDENT_OPENED run.healthState) hs hcurrent hb
  unfold notifyObserved
  rw [if_pos hemit]
  obtain ⟨intents', hok, hfiled', hlength, hothers, n, hn, hview⟩ := hobserved
  refine ⟨intents', ?_, hfiled', hlength, hothers, current, n, hn, hcurrent, hview⟩
  cases hresult : observeLlmHealthFailure intents
      (input run scope incident .INCIDENT_OPENED run.healthState) options.policy with
  | error error =>
    rw [hresult] at hok
    cases hok
  | ok result =>
    rw [hresult] at hok
    cases hok
    rfl

theorem notifyFailed_changes {s : LlmHealthNotificationSeverity}
    (hs : notificationSeverityForHealthState run.healthState = some s)
    (hknown : ∃ row ∈ intentsOf incident.id intents, row.isProduct incident.id = true) :
    Changes incident.id (fun view view' => Fails c b run scope incident view view' s) intents
      (notifyFailed options run scope incident intents) := by
  unfold notifyFailed
  by_cases hstatus : incident.status = .MAINTENANCE
  · rw [if_pos hstatus, notificationInput_eq hemit hpolicy]
    simp only [hemit, if_true]
    have hexited := (resume_changes hfiled incident.id run.completedAt).bind
      fun middle hmiddle hlength _ => recordInput_changes c run scope incident hmiddle
        (hb.trans hlength) .MAINTENANCE_EXITED run.healthState .INFO
    refine (hexited.bind fun last hlast hlength hview =>
      notifyObserved_changes hemit hpolicy hlast (hb.trans hlength) hs ?_).mono ?_
    · obtain ⟨row, hrow, hproduct⟩ := hknown
      obtain ⟨middle, hmiddle, n, -, hlastView⟩ := hview
      obtain ⟨row', hrow', hkey⟩ := mem_resume incident.id run.completedAt hrow
      refine ⟨row', ?_, hkey.isProduct.trans hproduct⟩
      rw [hlastView, hmiddle]
      exact mem_recordAt hrow'
    · rintro view view' ⟨last, ⟨middle, rfl, n, hn, rfl⟩, hobserves⟩
      unfold Fails
      rw [if_pos hstatus]
      exact ⟨n, hn, hobserves⟩
  · rw [if_neg hstatus]
    refine (notifyObserved_changes hemit hpolicy hfiled hb hs hknown).mono fun view view' h => ?_
    unfold Fails
    rwa [if_neg hstatus]

end

end Notified

end SellerAgents.Health
