import SellerAgents.Subscriptions.Lifecycle

namespace SellerAgents.Subscriptions

open SubscriptionSnapshot (eligible)

/-- The instant at which a subscription stops giving access, for one that gives it at all. -/
def SubscriptionSnapshot.accessEnd (subscription : SubscriptionSnapshot) : Option Date :=
  match subscription.state with
  | .TRIAL | .ACTIVE => some subscription.currentPeriodEnd
  | .GRACE => subscription.graceUntil
  | .CANCELED => if subscription.cancelAtPeriodEnd then some subscription.currentPeriodEnd else none
  | .PAST_DUE | .EXPIRED | .SUSPENDED => none

/-- The subscription gives access at an instant: access is what precedes its end. -/
def SubscriptionSnapshot.Open (subscription : SubscriptionSnapshot) (t : Date) : Prop :=
  ∃ accessEnd ∈ subscription.accessEnd, t < accessEnd

theorem SubscriptionSnapshot.Open.state_ne_expired {subscription : SubscriptionSnapshot} {t : Date}
    (h : subscription.Open t) : subscription.state ≠ .EXPIRED := by
  intro hstate
  obtain ⟨end', hend, -⟩ := h
  simp [SubscriptionSnapshot.accessEnd, hstate] at hend

/-- The access table, as the account's status and one interval of time. -/
theorem resolveSubscriptionAccess_eq_eligible_iff {accountStatus : AccountStatus}
    {subscription : SubscriptionSnapshot} {t : Date} :
    resolveSubscriptionAccess accountStatus (some subscription) t = subscription.eligible ↔
      accountStatus = .ACTIVE ∧ subscription.Open t := by
  cases accountStatus with
  | SUSPENDED => simp [resolveSubscriptionAccess, eligible]
  | ACTIVE =>
    unfold resolveSubscriptionAccess SubscriptionSnapshot.Open SubscriptionSnapshot.accessEnd
    cases hstate : subscription.state with
    | TRIAL =>
      by_cases h : t < subscription.currentPeriodEnd <;>
        simp [hstate, h, eligible]
    | ACTIVE =>
      by_cases h : t < subscription.currentPeriodEnd <;>
        simp [hstate, h, eligible]
    | GRACE =>
      cases hgrace : subscription.graceUntil with
      | none => simp [hstate, hgrace, eligible]
      | some graceUntil =>
        by_cases h : t < graceUntil <;> simp [hstate, hgrace, h, eligible]
    | CANCELED =>
      cases hcancel : subscription.cancelAtPeriodEnd with
      | false => simp [hstate, hcancel, eligible]
      | true =>
        by_cases h : t < subscription.currentPeriodEnd <;>
          simp [hstate, hcancel, h, eligible]
    | PAST_DUE => simp [hstate, eligible]
    | EXPIRED => simp [hstate, eligible]
    | SUSPENDED => simp [hstate, eligible]

/-- The table answers with the subscription's own eligible result or with a refusal. -/
theorem resolveSubscriptionAccess_cases (accountStatus : AccountStatus)
    (subscription : SubscriptionSnapshot) (t : Date) :
    resolveSubscriptionAccess accountStatus (some subscription) t = subscription.eligible ∨
      ∃ reason, resolveSubscriptionAccess accountStatus (some subscription) t = .INELIGIBLE reason := by
  unfold resolveSubscriptionAccess
  split
  · exact .inr ⟨_, rfl⟩
  · dsimp only
    split
    · exact .inr ⟨_, rfl⟩
    · exact .inr ⟨_, rfl⟩
    · exact .inr ⟨_, rfl⟩
    · split
      · exact .inr ⟨_, rfl⟩
      · split
        · exact .inl rfl
        · exact .inr ⟨_, rfl⟩
    all_goals
      split
      · exact .inl rfl
      · exact .inr ⟨_, rfl⟩

theorem resolveSubscriptionAccess_isEligible_iff {accountStatus : AccountStatus}
    {subscription : SubscriptionSnapshot} {t : Date} :
    (resolveSubscriptionAccess accountStatus (some subscription) t).isEligible = true ↔
      accountStatus = .ACTIVE ∧ subscription.Open t := by
  rw [← resolveSubscriptionAccess_eq_eligible_iff]
  rcases resolveSubscriptionAccess_cases accountStatus subscription t with h | ⟨reason, h⟩
  · rw [h]
    simp [SubscriptionAccessResult.isEligible, eligible]
  · rw [h]
    simp [SubscriptionAccessResult.isEligible, eligible]

/-- What the lifecycle decision reads of a subscription. -/
def SubscriptionSnapshot.lifecycleInput (subscription : SubscriptionSnapshot)
    (suspendedOrigin : Option SubscriptionState) (now : Date) : LifecycleInput where
  state := subscription.state
  cancelAtPeriodEnd := subscription.cancelAtPeriodEnd
  currentPeriodEnd := subscription.currentPeriodEnd
  graceUntil := subscription.graceUntil
  suspendedOrigin := suspendedOrigin
  now := now

/-- The subscription after a lifecycle transition. -/
def SubscriptionSnapshot.transitioned (subscription : SubscriptionSnapshot)
    (toState : SubscriptionState) (updatedAt : Date) : SubscriptionSnapshot :=
  { subscription with
    state := toState, stateRevision := subscription.stateRevision + 1, updatedAt := updatedAt }

variable {subscription : SubscriptionSnapshot} {suspendedOrigin : Option SubscriptionState}
  {now : Date} {toState : SubscriptionState} {reason : SubscriptionLifecycleReason} {dueAt : Date}

section

variable
  (h : decideSubscriptionLifecycle (subscription.lifecycleInput suspendedOrigin now) = .TRANSITION
    toState reason dueAt)
include h

/-- What a due transition says: which states it leads from and to, and that the access of the old
state has ended. -/
theorem transition_due :
    (toState = .EXPIRED ∧ subscription.state ∈ [.TRIAL, .ACTIVE, .CANCELED, .SUSPENDED] ∨
      toState = .PAST_DUE ∧ subscription.state = .GRACE) ∧
      ∀ accessEnd ∈ subscription.accessEnd, accessEnd ≤ now := by
  unfold decideSubscriptionLifecycle SubscriptionSnapshot.lifecycleInput at h
  unfold SubscriptionSnapshot.accessEnd
  cases hstate : subscription.state with
  | TRIAL =>
    by_cases hdue : subscription.currentPeriodEnd ≤ now <;> simp [hstate, hdue] at h ⊢
    exact h.1.symm
  | ACTIVE =>
    by_cases hdue : subscription.currentPeriodEnd ≤ now <;> simp [hstate, hdue] at h ⊢
    exact h.1.symm
  | CANCELED =>
    by_cases hdue : subscription.currentPeriodEnd ≤ now <;> simp [hstate, hdue] at h ⊢
    exact h.1.symm
  | GRACE =>
    cases hgrace : subscription.graceUntil with
    | none => simp [hstate, hgrace] at h
    | some graceUntil =>
      by_cases hdue : graceUntil ≤ now <;> simp [hstate, hgrace, hdue] at h ⊢
      exact h.1.symm
  | SUSPENDED =>
    have hto : toState = .EXPIRED := by
      simp only [hstate] at h
      split at h
      · cases h
      · split at h
        · cases h
          rfl
        · split at h
          · split at h
            · cases h
            · split at h
              · cases h
                rfl
              · cases h
          · cases h
    simp [hto]
  | PAST_DUE => simp [hstate] at h
  | EXPIRED => simp [hstate] at h

theorem transition_allowed :
    validateSubscriptionStateTransition (some subscription.state) toState = none := by
  obtain ⟨⟨rfl, hfrom⟩ | ⟨rfl, hfrom⟩, -⟩ := transition_due h
  · simp only [List.mem_cons, List.not_mem_nil, or_false] at hfrom
    rcases hfrom with hfrom | hfrom | hfrom | hfrom <;> rw [hfrom] <;> rfl
  · rw [hfrom]
    rfl

theorem transition_closed {t : Date} (ht : now ≤ t) : ¬subscription.Open t := by
  rintro ⟨accessEnd, hend, hlt⟩
  have hle : accessEnd ≤ now := (transition_due h).2 accessEnd hend
  exact absurd hlt (not_lt.mpr (hle.trans ht))

theorem transitioned_accessEnd (updatedAt : Date) :
    (subscription.transitioned toState updatedAt).accessEnd = none := by
  obtain ⟨⟨rfl, -⟩ | ⟨rfl, -⟩, -⟩ := transition_due h <;> rfl

theorem transitioned_not_open (updatedAt t : Date) :
    ¬(subscription.transitioned toState updatedAt).Open t := by
  rintro ⟨accessEnd, hend, -⟩
  simp [transitioned_accessEnd h] at hend

theorem transitioned_noop (updatedAt : Date) (origin : Option SubscriptionState) (later : Date) :
    decideSubscriptionLifecycle
      ((subscription.transitioned toState updatedAt).lifecycleInput origin later) = .NOOP := by
  obtain ⟨⟨rfl, -⟩ | ⟨rfl, -⟩, -⟩ := transition_due h <;> rfl

end

/-- While a subscription gives access, its lifecycle has nothing due. -/
theorem Open.noop (h : subscription.Open now) :
    decideSubscriptionLifecycle (subscription.lifecycleInput suspendedOrigin now) = .NOOP := by
  obtain ⟨accessEnd, hend, hlt⟩ := h
  unfold SubscriptionSnapshot.accessEnd at hend
  unfold decideSubscriptionLifecycle SubscriptionSnapshot.lifecycleInput
  cases hstate : subscription.state with
  | TRIAL =>
    simp only [hstate, Option.mem_some_iff] at hend
    simp only [if_neg (not_le.mpr (hend ▸ hlt))]
  | ACTIVE =>
    simp only [hstate, Option.mem_some_iff] at hend
    simp only [if_neg (not_le.mpr (hend ▸ hlt))]
  | CANCELED =>
    cases hcancel : subscription.cancelAtPeriodEnd with
    | false => simp [hstate, hcancel] at hend
    | true =>
      simp only [hstate, hcancel, if_true, Option.mem_some_iff] at hend
      simp only [if_neg (not_le.mpr (hend ▸ hlt))]
  | GRACE =>
    simp only [hstate, Option.mem_def] at hend
    simp only [hend, if_neg (not_le.mpr hlt)]
  | PAST_DUE => rfl
  | EXPIRED => rfl
  | SUSPENDED => simp [hstate] at hend

end SellerAgents.Subscriptions
