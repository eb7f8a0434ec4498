import SellerAgents.Billing.EntitlementLaws

open SellerAgents.Js

namespace SellerAgents.Billing

open CommercialEntitlementEvent (eventKey_eq_iff)

/-- No two different events share the provider and id, or the account and revision. -/
def Compatible (events : List CommercialEntitlementEvent) : Prop :=
  ∀ a ∈ events, ∀ b ∈ events,
    (a.provider = b.provider ∧ a.eventId = b.eventId) ∨
      (a.accountId = b.accountId ∧ a.entitlementRevision = b.entitlementRevision) → a.Same b

/-- The deliveries are of these events, in any order and any number of times, and leave none out. -/
def Delivers (events deliveries : List CommercialEntitlementEvent) : Prop :=
  (∀ event ∈ deliveries, event ∈ events) ∧ ∀ event ∈ events, ∃ found ∈ deliveries, found.Same event

/-- The record of an account is of its event with the greatest revision. -/
def IsGreatest (events : List CommercialEntitlementEvent) (accountId : JsString) :
    Option CommercialEntitlementRecord → Prop
  | none => ∀ event ∈ events, event.accountId ≠ accountId
  | some record =>
    (∃ event ∈ events, event.accountId = accountId ∧ record = recordFromEvent event) ∧
      ∀ event ∈ events, event.accountId = accountId →
        event.entitlementRevision ≤ record.entitlementRevision

/-- What a repository holds after some of the events were delivered. -/
structure Delivered (events delivered : List CommercialEntitlementEvent)
    (repository : EntitlementRepository) : Prop where
  recorded : ∀ accountId record, repository.records.get accountId = some record →
    ∃ event ∈ events, event.accountId = accountId ∧ record = recordFromEvent event
  reached : ∀ event ∈ delivered, ∃ record,
    repository.records.get event.accountId = some record ∧
      event.entitlementRevision ≤ record.entitlementRevision
  indexed : ∀ key canonical, repository.events.get key = some canonical →
    ∃ event ∈ delivered, event.eventKey = key

variable {localeCompare : JsString → JsString → Int} {repository : EntitlementRepository}
  {event : CommercialEntitlementEvent} {events delivered : List CommercialEntitlementEvent}

theorem Delivered.empty (events : List CommercialEntitlementEvent) : Delivered events [] {} where
  recorded := fun _ _ h => by cases h
  reached := fun _ h => by cases h
  indexed := fun _ _ h => by cases h

/-- A delivery that changes nothing needs a record that the event does not exceed. -/
theorem Delivered.unchanged (hdelivered : Delivered events delivered repository)
    (hreached : ∃ record, repository.records.get event.accountId = some record ∧
      event.entitlementRevision ≤ record.entitlementRevision) :
    Delivered events (event :: delivered) repository where
  recorded := hdelivered.recorded
  reached := List.forall_mem_cons.mpr ⟨hreached, hdelivered.reached⟩
  indexed := fun key canonical hget => by
    obtain ⟨found, hmem, hkey⟩ := hdelivered.indexed key canonical hget
    exact ⟨found, List.mem_cons_of_mem _ hmem, hkey⟩

/-- An event whose key is in the index was delivered before. -/
theorem Delivered.reached_of_indexed (hdelivered : Delivered events delivered repository)
    (haccepted : ∀ event ∈ events, event.accepted = true) (hcompatible : Compatible events)
    (hsub : ∀ event ∈ delivered, event ∈ events) (hmem : event ∈ events)
    {canonical : CommercialEntitlementEvent}
    (hget : repository.events.get event.eventKey = some canonical) :
    ∃ record, repository.records.get event.accountId = some record ∧
      event.entitlementRevision ≤ record.entitlementRevision := by
  obtain ⟨found, hfound, hkey⟩ := hdelivered.indexed _ _ hget
  have hids := (eventKey_eq_iff (haccepted found (hsub found hfound))
    (haccepted event hmem)).mp hkey
  have hsame := hcompatible found (hsub found hfound) event hmem (.inl hids)
  obtain ⟨record, hrecord, hle⟩ := hdelivered.reached found hfound
  rw [hsame.accountId_eq] at hrecord
  rw [hsame.revision_eq] at hle
  exact ⟨record, hrecord, hle⟩

theorem Delivered.applyEvent (hdelivered : Delivered events delivered repository)
    (haccepted : ∀ event ∈ events, event.accepted = true) (hcompatible : Compatible events)
    (hsub : ∀ event ∈ delivered, event ∈ events) (hmem : event ∈ events) :
    Delivered events (event :: delivered) (applyEvent localeCompare repository event).2 := by
  have heffect := applyEvent_effect localeCompare repository event
  generalize Billing.applyEvent localeCompare repository event = outcome at heffect
  cases heffect with
  | thrown hrefused =>
    rw [haccepted event hmem] at hrefused
    cases hrefused
  | reused priorEvent _ hprior _ =>
    exact hdelivered.unchanged
      (hdelivered.reached_of_indexed haccepted hcompatible hsub hmem hprior)
  | duplicate current _ hprior _ =>
    exact hdelivered.unchanged
      (hdelivered.reached_of_indexed haccepted hcompatible hsub hmem hprior)
  | stale _ hlate _ =>
    obtain ⟨-, -, current, hcurrent, hless⟩ := hlate
    exact hdelivered.unchanged ⟨current, hcurrent, hless.le⟩
  | conflict current _ _ hcurrent heq =>
    exact hdelivered.unchanged ⟨current, hcurrent, heq.le⟩
  | applied _ _ hbound =>
    refine ⟨?_, ?_, ?_⟩
    · intro accountId record hget
      rw [applied, JsMap.get_set] at hget
      split at hget
      · rename_i haccount
        cases hget
        exact ⟨event, hmem, haccount.symm, rfl⟩
      · exact hdelivered.recorded accountId record hget
    · refine List.forall_mem_cons.mpr ⟨⟨_, JsMap.get_set_self _ _ _, le_refl _⟩, ?_⟩
      intro found hfound
      obtain ⟨record, hrecord, hle⟩ := hdelivered.reached found hfound
      by_cases haccount : found.accountId = event.accountId
      · rw [haccount] at hrecord ⊢
        exact ⟨_, JsMap.get_set_self _ _ _, hle.trans (hbound record hrecord)⟩
      · refine ⟨record, ?_, hle⟩
        rw [applied, JsMap.get_set_other _ _ haccount, hrecord]
    · intro key canonical hget
      rw [applied, JsMap.get_set] at hget
      split at hget
      · rename_i hkey
        exact ⟨event, List.mem_cons_self, hkey.symm⟩
      · obtain ⟨found, hfound, hkey⟩ := hdelivered.indexed key canonical hget
        exact ⟨found, List.mem_cons_of_mem _ hfound, hkey⟩

theorem Delivered.deliver (localeCompare : JsString → JsString → Int)
    (hdelivered : Delivered events delivered repository)
    (haccepted : ∀ event ∈ events, event.accepted = true) (hcompatible : Compatible events)
    (hsub : ∀ event ∈ delivered, event ∈ events) (deliveries : List CommercialEntitlementEvent)
    (hmem : ∀ event ∈ deliveries, event ∈ events) :
    Delivered events (deliveries.reverse ++ delivered)
      (deliver localeCompare repository deliveries) := by
  induction deliveries generalizing repository delivered with
  | nil => exact hdelivered
  | cons event rest ih =>
    rw [List.forall_mem_cons] at hmem
    rw [List.reverse_cons, List.append_assoc]
    apply ih (hdelivered.applyEvent haccepted hcompatible hsub hmem.1) _ hmem.2
    exact List.forall_mem_cons.mpr ⟨hmem.1, hsub⟩

/-- After a delivery of all events every account has the record of its greatest revision. -/
theorem deliver_greatest (localeCompare : JsString → JsString → Int) (haccepted : ∀ event ∈ events, event.accepted = true)
    (hcompatible : Compatible events) {deliveries : List CommercialEntitlementEvent}
    (hdelivers : Delivers events deliveries) (accountId : JsString) :
    IsGreatest events accountId (read (deliver localeCompare {} deliveries) accountId) := by
  have hdelivered := (Delivered.empty events).deliver localeCompare haccepted hcompatible (fun _ h => by cases h) deliveries hdelivers.1
  have hreached : ∀ event ∈ events, ∃ record,
      (deliver localeCompare {} deliveries).records.get event.accountId = some record ∧
        event.entitlementRevision ≤ record.entitlementRevision := by
    intro event hmem
    obtain ⟨found, hfound, hsame⟩ := hdelivers.2 event hmem
    have h := hdelivered.reached found
      (List.mem_append_left _ (List.mem_reverse.mpr hfound))
    rwa [hsame.accountId_eq, hsame.revision_eq] at h
  rw [read_eq]
  cases hget : (deliver localeCompare {} deliveries).records.get accountId with
  | none =>
    rintro event hmem rfl
    obtain ⟨record, hrecord, -⟩ := hreached event hmem
    rw [hget] at hrecord
    cases hrecord
  | some record =>
    refine ⟨hdelivered.recorded accountId record hget, ?_⟩
    rintro event hmem rfl
    obtain ⟨found, hrecord, hle⟩ := hreached event hmem
    rw [hget] at hrecord
    cases hrecord
    exact hle

/-- An account has one record of its greatest revision, up to the order of the permissions. -/
theorem IsGreatest.same (hcompatible : Compatible events) {accountId : JsString}
    {left right : Option CommercialEntitlementRecord} (hleft : IsGreatest events accountId left)
    (hright : IsGreatest events accountId right) :
    Option.Rel CommercialEntitlementRecord.Same left right := by
  cases left with
  | none =>
    cases right with
    | none => exact .none
    | some record =>
      obtain ⟨⟨event, hmem, haccount, -⟩, -⟩ := hright
      exact absurd haccount (hleft event hmem)
  | some record =>
    obtain ⟨⟨event, hmem, haccount, rfl⟩, hbound⟩ := hleft
    cases right with
    | none => exact absurd haccount (hright event hmem)
    | some found =>
      obtain ⟨⟨other, hother, hotherAccount, rfl⟩, hotherBound⟩ := hright
      have hrevision : event.entitlementRevision = other.entitlementRevision :=
        le_antisymm (hotherBound event hmem haccount) (hbound other hother hotherAccount)
      have hsame := hcompatible event hmem other hother
        (.inr ⟨haccount.trans hotherAccount.symm, hrevision⟩)
      exact .some hsame.record

/-- Whether an event uses its id: it is applied, or stale. -/
def Uses (localeCompare : JsString → JsString → Int) (repository : EntitlementRepository)
    (event : CommercialEntitlementEvent) : Prop :=
  (∃ record, (applyEvent localeCompare repository event).1 = some (.APPLIED record)) ∨
    ∃ revision, (applyEvent localeCompare repository event).1 = some (.STALE revision)

/-- A delivery of `first` and a later one of `second`, a different event with its id. -/
structure Reuse (before : List CommercialEntitlementEvent) (first : CommercialEntitlementEvent)
    (between : List CommercialEntitlementEvent) (second : CommercialEntitlementEvent)
    (deliveries : List CommercialEntitlementEvent) : Prop where
  order : ∃ after, deliveries = before ++ first :: (between ++ second :: after)
  accepted : second.accepted = true
  provider : second.provider = first.provider
  eventId : second.eventId = first.eventId
  different : ¬ second.Same first

/-- Every event whose id an earlier different event used is refused. -/
def ReusesRefused (localeCompare : JsString → JsString → Int)
    (deliveries : List CommercialEntitlementEvent) : Prop :=
  ∀ before first between second, Reuse before first between second deliveries →
    Uses localeCompare (deliver localeCompare {} before) first →
    (applyEvent localeCompare (deliver localeCompare {} (before ++ first :: between)) second).1 =
      some (.CONFLICT .EVENT_ID_REUSED)

/-- An event arrives when its account has a record of a greater revision, and later a different
event arrives with its id. -/
def LateIdReused (localeCompare : JsString → JsString → Int)
    (deliveries : List CommercialEntitlementEvent) : Prop :=
  ∃ before first between second, Reuse before first between second deliveries ∧
    Late (deliver localeCompare {} before) first

/-- An id that comes into the index during a run was brought there by an event applied in it. -/
theorem exists_applied {key : JsString} {canonical : CommercialEntitlementEvent}
    (deliveries : List CommercialEntitlementEvent) (hnone : repository.events.get key = none)
    (hsome : (deliver localeCompare repository deliveries).events.get key = some canonical) :
    ∃ before event after, deliveries = before ++ event :: after ∧ event.accepted = true ∧
      event.eventKey = key ∧
      (∀ current, (deliver localeCompare repository before).records.get event.accountId =
        some current → current.entitlementRevision ≤ event.entitlementRevision) ∧
      (applyEvent localeCompare (deliver localeCompare repository before) event).1 =
        some (.APPLIED (recordFromEvent event)) := by
  induction deliveries generalizing repository with
  | nil =>
    rw [deliver, List.foldl_nil, hnone] at hsome
    cases hsome
  | cons event rest ih =>
    rw [deliver_cons] at hsome
    by_cases hstill : (applyEvent localeCompare repository event).2.events.get key = none
    · obtain ⟨before, found, after, rfl, hfound⟩ := ih hstill hsome
      exact ⟨event :: before, found, after, rfl, hfound⟩
    · have heffect := applyEvent_effect localeCompare repository event
      generalize houtcome : applyEvent localeCompare repository event = outcome at hstill heffect
      cases heffect with
      | applied haccepted _ hbound =>
        refine ⟨[], event, rest, rfl, haccepted, ?_, hbound, congrArg Prod.fst houtcome⟩
        by_contra hkey
        exact hstill (by rw [applied, JsMap.get_set_other _ _ (Ne.symm hkey), hnone])
      | _ => exact absurd hnone hstill

/-- The runs in which every reuse of an id is refused are those in which no id of a late event is
reused. -/
theorem reusesRefused_iff (deliveries : List CommercialEntitlementEvent) :
    ReusesRefused localeCompare deliveries ↔ ¬ LateIdReused localeCompare deliveries := by
  constructor
  · rintro hrefused ⟨before, first, between, second, hreuse, hlate⟩
    have hresult := hrefused before first between second hreuse (.inr (applyEvent_late localeCompare hlate))
    have hfirst : (applyEvent localeCompare (deliver localeCompare {} before) first).2 =
        deliver localeCompare {} before := by
      obtain ⟨revision, hstale⟩ := applyEvent_late localeCompare hlate
      refine applyEvent_refused fun record h => ?_
      rw [hstale] at h
      cases h
    rw [deliver_append, deliver_cons, hfirst] at hresult
    have hindexed : ∃ canonical, (deliver localeCompare (deliver localeCompare {} before)
        between).events.get second.eventKey = some canonical := by
      have heffect := applyEvent_effect localeCompare
        (deliver localeCompare (deliver localeCompare {} before) between) second
      generalize applyEvent localeCompare _ second = outcome at hresult heffect
      cases heffect with
      | reused priorEvent _ hprior _ => exact ⟨priorEvent, hprior⟩
      | _ => cases hresult
    obtain ⟨canonical, hcanonical⟩ := hindexed
    have hkey : second.eventKey = first.eventKey :=
      (eventKey_eq_iff hreuse.accepted hlate.1).mpr
        ⟨hreuse.provider, hreuse.eventId⟩
    obtain ⟨haccepted, hnew, current, hcurrent, hless⟩ := hlate
    obtain ⟨start, middle, rest, hbetween, hmiddle, hmiddleKey, hbound, happlied⟩ :=
      exists_applied between (hkey ▸ hnew) hcanonical
    have hids := (eventKey_eq_iff hmiddle haccepted).mp
      (hmiddleKey.trans hkey)
    by_cases hsame : middle.Same first
    · -- The record that made the first event late is still not behind it.
      obtain ⟨next, hnext, hle⟩ := deliver_revision localeCompare start hcurrent
      rw [← hsame.accountId_eq] at hnext
      have hnotLate := hbound next hnext
      rw [hsame.revision_eq] at hnotLate
      omega
    · obtain ⟨after, horder⟩ := hreuse.order
      have hmiddleReuse : Reuse before first start middle deliveries :=
        ⟨⟨rest ++ second :: after, by rw [horder, hbetween]; simp⟩, hmiddle, hids.1, hids.2, hsame⟩
      have hmiddleResult := hrefused before first start middle hmiddleReuse
        (.inr (applyEvent_late localeCompare ⟨haccepted, hnew, current, hcurrent, hless⟩))
      rw [deliver_append, deliver_cons, hfirst, happlied] at hmiddleResult
      cases hmiddleResult
  · intro hnever before first between second hreuse huses
    have heffect := applyEvent_effect localeCompare (deliver localeCompare {} before) first
    rw [deliver_append, deliver_cons]
    rw [Uses] at huses
    generalize applyEvent localeCompare (deliver localeCompare {} before) first = outcome at *
    cases heffect with
    | applied haccepted _ _ =>
      have hkey : second.eventKey = first.eventKey :=
        (eventKey_eq_iff hreuse.accepted haccepted).mpr
          ⟨hreuse.provider, hreuse.eventId⟩
      have hindexed : (applied localeCompare (deliver localeCompare {} before) first).events.get
          second.eventKey = some (commercialEventCanonical localeCompare first) := by
        rw [hkey]
        exact JsMap.get_set_self _ _ _
      refine applyEvent_reused hreuse.accepted (deliver_events between hindexed) fun heq => ?_
      exact hreuse.different (same_of_canonical_eq heq).symm
    | stale _ hlate _ => exact absurd ⟨before, first, between, second, hreuse, hlate⟩ hnever
    | thrown => simp at huses
    | reused => simp at huses
    | duplicate => simp at huses
    | conflict => simp at huses

/-- Deliveries of the same events in any order end in the same records, those of the greatest
revisions; revisions never decrease, and an event that is not applied changes nothing. A run refuses
every reuse of an id by a different event if and only if no reused id is that of an event that came
late. -/
theorem commercial_events_converge (localeCompare : JsString → JsString → Int) :
    (∀ events, (∀ event ∈ events, event.accepted = true) → Compatible events →
      ∀ deliveries, Delivers events deliveries → ∀ accountId,
        IsGreatest events accountId (read (deliver localeCompare {} deliveries) accountId) ∧
        ∀ others, Delivers events others →
          Option.Rel CommercialEntitlementRecord.Same
            (read (deliver localeCompare {} deliveries) accountId)
            (read (deliver localeCompare {} others) accountId)) ∧
    (∀ repository deliveries accountId current, read repository accountId = some current →
      ∃ next, read (deliver localeCompare repository deliveries) accountId = some next ∧
        current.entitlementRevision ≤ next.entitlementRevision) ∧
    (∀ repository event,
      (∀ record, (applyEvent localeCompare repository event).1 ≠ some (.APPLIED record)) →
        (applyEvent localeCompare repository event).2 = repository) ∧
    ∀ deliveries, ReusesRefused localeCompare deliveries ↔ ¬ LateIdReused localeCompare deliveries := by
  refine ⟨?_, ?_, fun _ _ => applyEvent_refused, reusesRefused_iff⟩
  · intro events haccepted hcompatible deliveries hdelivers accountId
    have hgreatest := deliver_greatest localeCompare haccepted hcompatible
      hdelivers accountId
    refine ⟨hgreatest, fun others hothers => ?_⟩
    exact hgreatest.same hcompatible (deliver_greatest localeCompare haccepted hcompatible hothers accountId)
  · intro repository deliveries accountId current hcurrent
    rw [read_eq] at hcurrent
    simp only [read_eq]
    exact deliver_revision localeCompare deliveries hcurrent

/-- An event of the account `11111111-1111-4111-8111-111111111111`. -/
def synthetic (eventId : String) (entitlementRevision : Int)
    (lifecycle : CommercialEntitlementLifecycle) : CommercialEntitlementEvent where
  provider := units "simulator"
  eventId := units eventId
  accountId := units "11111111-1111-4111-8111-111111111111"
  planCode := units "synthetic-owner-approved-test-plan"
  lifecycle := lifecycle
  entitlementRevision := entitlementRevision
  effectiveFrom := 0
  effectiveUntil := none
  source := .BILLING_PROVIDER
  externalReference := none
  providerEventVersion := 1
  occurredAt := 0
  permissions := .empty

/-- The id of a stale event is applied again with another event. -/
theorem stale_id_reused :
    ¬ ReusesRefused (fun _ _ => 0)
      [synthetic "evt-2" 2 .ACTIVE, synthetic "evt-1" 1 .ACTIVE, synthetic "evt-1" 3 .ENDED] := by
  rw [reusesRefused_iff, not_not]
  refine ⟨[synthetic "evt-2" 2 .ACTIVE], synthetic "evt-1" 1 .ACTIVE, [],
    synthetic "evt-1" 3 .ENDED, ⟨⟨[], rfl⟩, by decide +kernel, rfl, rfl, by decide +kernel⟩, ?_⟩
  exact ⟨by decide +kernel, by decide +kernel,
    recordFromEvent (synthetic "evt-2" 2 .ACTIVE), by decide +kernel, by decide⟩

end SellerAgents.Billing
