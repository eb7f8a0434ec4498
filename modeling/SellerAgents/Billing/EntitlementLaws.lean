import SellerAgents.Billing.Entitlements

open SellerAgents.Js

namespace SellerAgents.Billing

theorem colon_notMem_machineRest {inWord : Bool} {s : JsString} (h : machineRest inWord s = true) :
    (58 : UInt16) ∉ s := by
  induction s generalizing inWord with
  | nil => exact List.not_mem_nil
  | cons u rest ih =>
    rw [machineRest] at h
    rw [List.mem_cons, not_or]
    split at h
    · rename_i hword
      refine ⟨?_, ih h⟩
      rintro rfl
      exact absurd hword (by decide)
    · simp only [Bool.and_eq_true] at h
      obtain ⟨⟨hseparator, -⟩, hrest⟩ := h
      refine ⟨?_, ih hrest⟩
      rintro rfl
      exact absurd hseparator (by decide)

theorem colon_notMem_machineKey {s : JsString} (h : isMachineKey s = true) : (58 : UInt16) ∉ s := by
  cases s with
  | nil => exact List.not_mem_nil
  | cons u rest =>
    simp only [isMachineKey, Bool.and_eq_true] at h
    obtain ⟨⟨-, hlower⟩, hrest⟩ := h
    rw [List.mem_cons, not_or]
    refine ⟨?_, colon_notMem_machineRest hrest⟩
    rintro rfl
    exact absurd hlower (by decide)

namespace CommercialEntitlementEvent

theorem accepted_provider {event : CommercialEntitlementEvent} (h : event.accepted = true) :
    isMachineKey event.provider = true := by
  simp only [accepted, Bool.and_eq_true] at h
  tauto

/-- The text before the first separator is read back. -/
theorem takeWhile_append_colon {s rest : JsString} (h : (58 : UInt16) ∉ s) :
    (s ++ 58 :: rest).takeWhile (· != 58) = s := by
  rw [List.takeWhile_append_of_pos]
  · simp
  · intro u hu
    rw [bne_iff_ne]
    rintro rfl
    exact h hu

variable {a b : CommercialEntitlementEvent}

/-- Two accepted events have one key when they share the provider and the id. -/
theorem eventKey_eq_iff (ha : a.accepted = true) (hb : b.accepted = true) :
    a.eventKey = b.eventKey ↔ a.provider = b.provider ∧ a.eventId = b.eventId := by
  have hproviderA := colon_notMem_machineKey (accepted_provider ha)
  have hproviderB := colon_notMem_machineKey (accepted_provider hb)
  constructor
  · intro h
    have hprovider : a.provider = b.provider := by
      have htaken := congrArg (List.takeWhile (· != 58)) h
      rwa [eventKey, eventKey, takeWhile_append_colon hproviderA,
        takeWhile_append_colon hproviderB] at htaken
    rw [eventKey, eventKey, hprovider] at h
    exact ⟨hprovider, List.cons_injective (List.append_cancel_left h)⟩
  · rintro ⟨hprovider, heventId⟩
    rw [eventKey, eventKey, hprovider, heventId]

/-- Equal but for the order of the permissions. -/
def Same (a b : CommercialEntitlementEvent) : Prop :=
  { a with permissions := b.permissions } = b ∧ a.permissions.entries.Perm b.permissions.entries

instance (a b : CommercialEntitlementEvent) : Decidable (a.Same b) :=
  inferInstanceAs (Decidable (_ ∧ _))

theorem Same.symm (h : a.Same b) : b.Same a := by
  refine ⟨?_, h.2.symm⟩
  rw [← h.1]

theorem Same.accountId_eq (h : a.Same b) :
    a.accountId = b.accountId := by
  rw [← h.1]

theorem Same.revision_eq (h : a.Same b) :
    a.entitlementRevision = b.entitlementRevision := by
  rw [← h.1]

end CommercialEntitlementEvent

/-- Equal but for the order of the permissions. -/
def CommercialEntitlementRecord.Same (a b : CommercialEntitlementRecord) : Prop :=
  { a with permissions := b.permissions } = b ∧ a.permissions.entries.Perm b.permissions.entries

theorem CommercialEntitlementEvent.Same.record {a b : CommercialEntitlementEvent} (h : a.Same b) :
    (recordFromEvent a).Same (recordFromEvent b) :=
  ⟨congrArg recordFromEvent h.1, h.2⟩

variable {localeCompare : JsString → JsString → Int} {repository : EntitlementRepository}
  {event other : CommercialEntitlementEvent}

/-- Events with the same text are the same. -/
theorem same_of_canonical_eq (h : commercialEventCanonical localeCompare event =
      commercialEventCanonical localeCompare other) : event.Same other := by
  have hpermissions : sortedEntries localeCompare event.permissions =
      sortedEntries localeCompare other.permissions :=
    congrArg (fun canonical => canonical.permissions.entries) h
  have hevent := sortedEntries_perm localeCompare event.permissions
  have hother := sortedEntries_perm localeCompare other.permissions
  rw [← hpermissions] at hother
  refine ⟨?_, hevent.symm.trans hother⟩
  exact congrArg (fun canonical : CommercialEntitlementEvent =>
    { canonical with permissions := other.permissions }) h

/-- Whether an event arrives under a new id when its account has a record of a greater revision. -/
def Late (repository : EntitlementRepository) (event : CommercialEntitlementEvent) : Prop :=
  event.accepted = true ∧ repository.events.get event.eventKey = none ∧
    ∃ current, repository.records.get event.accountId = some current ∧
      event.entitlementRevision < current.entitlementRevision

/-- The repository after an event that it applied. -/
def applied (localeCompare : JsString → JsString → Int) (repository : EntitlementRepository)
    (event : CommercialEntitlementEvent) : EntitlementRepository where
  events := repository.events.set event.eventKey (commercialEventCanonical localeCompare event)
  records := repository.records.set event.accountId (recordFromEvent event)

/-- All that an event can do to a repository. -/
inductive ApplyEffect (localeCompare : JsString → JsString → Int)
    (repository : EntitlementRepository) (event : CommercialEntitlementEvent) :
    Option CommercialEntitlementEventApplyResult × EntitlementRepository → Prop
  | thrown : event.accepted = false → ApplyEffect localeCompare repository event (none, repository)
  | reused (priorEvent : CommercialEntitlementEvent) :
      event.accepted = true →
      repository.events.get event.eventKey = some priorEvent →
      priorEvent ≠ commercialEventCanonical localeCompare event ∨
        repository.records.get event.accountId = none →
      ApplyEffect localeCompare repository event (some (.CONFLICT .EVENT_ID_REUSED), repository)
  | duplicate (current : CommercialEntitlementRecord) :
      event.accepted = true →
      repository.events.get event.eventKey = some (commercialEventCanonical localeCompare event) →
      repository.records.get event.accountId = some current →
      ApplyEffect localeCompare repository event (some (.DUPLICATE current), repository)
  | stale (current : CommercialEntitlementRecord) :
      Late repository event →
      repository.records.get event.accountId = some current →
      ApplyEffect localeCompare repository event
        (some (.STALE current.entitlementRevision), repository)
  | conflict (current : CommercialEntitlementRecord) :
      event.accepted = true →
      repository.events.get event.eventKey = none →
      repository.records.get event.accountId = some current →
      event.entitlementRevision = current.entitlementRevision →
      ApplyEffect localeCompare repository event
        (some (.CONFLICT .REVISION_CONFLICT), repository)
  | applied :
      event.accepted = true →
      repository.events.get event.eventKey = none →
      (∀ current, repository.records.get event.accountId = some current →
        current.entitlementRevision ≤ event.entitlementRevision) →
      ApplyEffect localeCompare repository event
        (some (.APPLIED (recordFromEvent event)), Billing.applied localeCompare repository event)

theorem applyEvent_effect (localeCompare : JsString → JsString → Int)
    (repository : EntitlementRepository) (event : CommercialEntitlementEvent) :
    ApplyEffect localeCompare repository event (applyEvent localeCompare repository event) := by
  rw [applyEvent]
  split
  · rename_i haccepted
    exact .thrown haccepted
  · rename_i hrefused
    have haccepted : event.accepted = true := by simpa using hrefused
    cases hprior : repository.events.get event.eventKey with
    | some priorEvent =>
      simp only
      split
      · rename_i hdifferent
        exact .reused priorEvent haccepted hprior (.inl hdifferent)
      · rename_i hsame
        rw [ne_eq, not_not] at hsame
        cases hcurrent : repository.records.get event.accountId with
        | none => exact .reused priorEvent haccepted hprior (.inr hcurrent)
        | some current => exact .duplicate current haccepted (hsame ▸ hprior) hcurrent
    | none =>
      cases hcurrent : repository.records.get event.accountId with
      | none =>
        refine .applied haccepted hprior fun current h => ?_
        rw [hcurrent] at h
        cases h
      | some current =>
        simp only [refusal]
        split
        · rename_i hrefusal
          split at hrefusal
          · rename_i hless
            cases hrefusal
            exact .stale current ⟨haccepted, hprior, current, hcurrent, hless⟩ hcurrent
          · split at hrefusal
            · rename_i hconflict
              cases hrefusal
              exact .conflict current haccepted hprior hcurrent hconflict.1
            · cases hrefusal
        · rename_i hrefusal
          split at hrefusal
          · cases hrefusal
          · rename_i hless
            refine .applied haccepted hprior fun other h => ?_
            rw [hcurrent] at h
            cases h
            exact not_lt.mp hless

/-- An event that is not applied changes nothing. -/
theorem applyEvent_refused
    (h : ∀ record, (applyEvent localeCompare repository event).1 ≠ some (.APPLIED record)) :
    (applyEvent localeCompare repository event).2 = repository := by
  have heffect := applyEvent_effect localeCompare repository event
  generalize applyEvent localeCompare repository event = outcome at h heffect
  cases heffect with
  | applied => exact absurd rfl (h _)
  | _ => rfl

/-- The record of an account is only replaced by one whose revision is not smaller. -/
theorem applyEvent_revision (localeCompare : JsString → JsString → Int)
    (event : CommercialEntitlementEvent) {accountId : JsString} {current : CommercialEntitlementRecord}
    (h : repository.records.get accountId = some current) :
    ∃ next, (applyEvent localeCompare repository event).2.records.get accountId = some next ∧
      current.entitlementRevision ≤ next.entitlementRevision := by
  have heffect := applyEvent_effect localeCompare repository event
  generalize applyEvent localeCompare repository event = outcome at heffect
  cases heffect with
  | applied _ _ hbound =>
    by_cases haccount : accountId = event.accountId
    · subst haccount
      exact ⟨recordFromEvent event, JsMap.get_set_self _ _ _, hbound current h⟩
    · refine ⟨current, ?_, le_refl _⟩
      rw [applied, JsMap.get_set_other _ _ haccount, h]
  | _ => exact ⟨current, h, le_refl _⟩

/-- The text under a key of the index is never replaced. -/
theorem applyEvent_events {key : JsString} {canonical : CommercialEntitlementEvent}
    (h : repository.events.get key = some canonical) :
    (applyEvent localeCompare repository event).2.events.get key = some canonical := by
  have heffect := applyEvent_effect localeCompare repository event
  generalize applyEvent localeCompare repository event = outcome at heffect
  cases heffect with
  | applied _ hnew _ =>
    have hother : key ≠ event.eventKey := by
      rintro rfl
      rw [h] at hnew
      cases hnew
    rw [applied, JsMap.get_set_other _ _ hother, h]
  | _ => exact h

/-- An event whose id is in the index with another text is refused. -/
theorem applyEvent_reused {priorEvent : CommercialEntitlementEvent} (haccepted : event.accepted = true)
    (hprior : repository.events.get event.eventKey = some priorEvent)
    (hdifferent : priorEvent ≠ commercialEventCanonical localeCompare event) :
    (applyEvent localeCompare repository event).1 = some (.CONFLICT .EVENT_ID_REUSED) := by
  simp [applyEvent, haccepted, hprior, hdifferent]

theorem applyEvent_late (localeCompare : JsString → JsString → Int) (h : Late repository event) :
    ∃ revision, (applyEvent localeCompare repository event).1 = some (.STALE revision) := by
  obtain ⟨haccepted, hnew, current, hcurrent, hless⟩ := h
  refine ⟨current.entitlementRevision, ?_⟩
  simp [applyEvent, haccepted, hnew, hcurrent, refusal, hless]

/-- A run keeps what one delivery keeps. -/
theorem deliver_keeps {P : EntitlementRepository → Prop} (deliveries : List CommercialEntitlementEvent)
    (hstep : ∀ repository event, P repository → P (applyEvent localeCompare repository event).2)
    (h : P repository) : P (deliver localeCompare repository deliveries) := by
  induction deliveries generalizing repository with
  | nil => exact h
  | cons event rest ih => exact ih (hstep repository event h)

theorem deliver_revision (localeCompare : JsString → JsString → Int) {accountId : JsString} {current : CommercialEntitlementRecord}
    (deliveries : List CommercialEntitlementEvent)
    (h : repository.records.get accountId = some current) :
    ∃ next, (deliver localeCompare repository deliveries).records.get accountId = some next ∧
      current.entitlementRevision ≤ next.entitlementRevision := by
  refine deliver_keeps (P := fun repository => ∃ next, repository.records.get accountId = some next ∧
    current.entitlementRevision ≤ next.entitlementRevision) deliveries ?_ ⟨current, h, le_refl _⟩
  rintro repository event ⟨next, hnext, hle⟩
  obtain ⟨later, hlater, hle'⟩ := applyEvent_revision localeCompare event hnext
  exact ⟨later, hlater, hle.trans hle'⟩

theorem deliver_events {key : JsString} {canonical : CommercialEntitlementEvent}
    (deliveries : List CommercialEntitlementEvent)
    (h : repository.events.get key = some canonical) :
    (deliver localeCompare repository deliveries).events.get key = some canonical :=
  deliver_keeps (P := fun repository => repository.events.get key = some canonical) deliveries
    (fun _ _ => applyEvent_events) h

theorem deliver_append (before after : List CommercialEntitlementEvent) :
    deliver localeCompare repository (before ++ after) =
      deliver localeCompare (deliver localeCompare repository before) after :=
  List.foldl_append

theorem deliver_cons (rest : List CommercialEntitlementEvent) :
    deliver localeCompare repository (event :: rest) =
      deliver localeCompare (applyEvent localeCompare repository event).2 rest := rfl

end SellerAgents.Billing
