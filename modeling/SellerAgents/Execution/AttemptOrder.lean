import SellerAgents.Execution.ProviderOutcome

open SellerAgents.Js

namespace SellerAgents.Execution

/-- One move of the state of an attempt. -/
inductive AttemptState.Next : AttemptState → AttemptState → Prop where
  | received : Next .DISPATCH_INTENT_COMMITTED .RESPONSE_RECEIVED
  | unknown : Next .DISPATCH_INTENT_COMMITTED .OUTCOME_UNKNOWN
  | completed : Next .RESPONSE_RECEIVED .COMPLETED_KNOWN
  | failed : Next .RESPONSE_RECEIVED .FAILED_KNOWN
  | waiting : Next .RESPONSE_RECEIVED .RETRY_WAIT_KNOWN

/-- Any number of moves. -/
def AttemptState.Forward : AttemptState → AttemptState → Prop := Relation.ReflTransGen AttemptState.Next

/-- The known final states. -/
def AttemptState.isKnown : AttemptState → Bool
  | .COMPLETED_KNOWN | .FAILED_KNOWN | .RETRY_WAIT_KNOWN => true
  | _ => false

/-- A final state is never left. -/
theorem AttemptState.Forward.final {state state' : AttemptState} (h : state.Forward state')
    (hfinal : ProviderOutcome.isFinal state = true) : state' = state := by
  induction h with
  | refl => rfl
  | tail _ hnext ih =>
    subst ih
    cases hnext <;> cases hfinal

/-- Nothing leads back to a committed intent. -/
theorem AttemptState.Forward.eq_dispatch {state : AttemptState}
    (h : state.Forward .DISPATCH_INTENT_COMMITTED) : state = .DISPATCH_INTENT_COMMITTED := by
  rcases Relation.ReflTransGen.cases_tail h with heq | ⟨mid, _, hnext⟩
  · exact heq.symm
  · cases hnext

/-- A received response leads to each known final state. -/
theorem AttemptState.Forward.known {state : AttemptState} (h : state.isKnown = true) :
    AttemptState.RESPONSE_RECEIVED.Forward state := by
  cases state with
  | COMPLETED_KNOWN => exact .single .completed
  | FAILED_KNOWN => exact .single .failed
  | RETRY_WAIT_KNOWN => exact .single .waiting
  | NOT_DISPATCHED | DISPATCH_INTENT_COMMITTED | RESPONSE_RECEIVED | OUTCOME_UNKNOWN => cases h

/-- An attempt that moved forward under its id. -/
structure ProviderAttempt.Forward (record record' : ProviderAttempt) : Prop where
  id : record'.provider_attempt_id = record.provider_attempt_id
  state : record.state.Forward record'.state

/-- An attempt that may still get a known result. -/
structure ProviderAttempt.Open (record : ProviderAttempt) : Prop where
  dispatched : record.state ≠ .NOT_DISPATCHED
  unsettled : record.state.isKnown = false

theorem ProviderAttempt.Forward.refl (record : ProviderAttempt) : record.Forward record :=
  ⟨Eq.refl _, .refl⟩

theorem ProviderAttempt.Forward.trans {record record' record'' : ProviderAttempt}
    (h : record.Forward record') (h' : record'.Forward record'') : record.Forward record'' :=
  ⟨h'.id.trans h.id, Relation.ReflTransGen.trans h.state h'.state⟩

namespace ProviderOutcome

theorem isKnown_knownState (record : ProviderAttempt) (ok : Bool) :
    (knownState record ok).isKnown = true := by
  unfold knownState
  split
  · split
    · rfl
    · split <;> rfl
  · split <;> rfl

theorem markResponseReceived_id (record : ProviderAttempt) (response : ProviderResponse) (now : Int) :
    (markResponseReceived record response now).provider_attempt_id = record.provider_attempt_id := by
  unfold markResponseReceived
  split <;> rfl

theorem markKnown_id (record : ProviderAttempt) (ok : Bool) (now : Int) :
    (markKnown record ok now).provider_attempt_id = record.provider_attempt_id := by
  unfold markKnown
  split <;> rfl

/-- A response moves an open attempt forward, and leaves it open. -/
theorem markResponseReceived_forward {record : ProviderAttempt} (h : record.Open)
    (response : ProviderResponse) (now : Int) :
    record.Forward (markResponseReceived record response now) ∧
      (markResponseReceived record response now).Open := by
  obtain ⟨hdispatched, hunsettled⟩ := h
  have hstate := markResponseReceived_state record response now
  refine ⟨⟨markResponseReceived_id record response now, ?_⟩, ?_, ?_⟩
  · rw [hstate]
    cases hcase : record.state with
    | NOT_DISPATCHED => exact absurd hcase hdispatched
    | DISPATCH_INTENT_COMMITTED => exact .single .received
    | RESPONSE_RECEIVED => exact .refl
    | OUTCOME_UNKNOWN => exact .refl
    | COMPLETED_KNOWN | FAILED_KNOWN | RETRY_WAIT_KNOWN => simp [hcase, AttemptState.isKnown] at hunsettled
  · rw [hstate]
    split <;> exact nofun
  · rw [hstate]
    split <;> rfl

/-- A known result moves an open attempt forward. -/
theorem markKnown_forward {record : ProviderAttempt} (h : record.Open) (ok : Bool) (now : Int) :
    record.Forward (markKnown record ok now) := by
  obtain ⟨hdispatched, hunsettled⟩ := h
  refine ⟨markKnown_id record ok now, ?_⟩
  have hknown := AttemptState.Forward.known (isKnown_knownState record ok)
  rw [markKnown_state]
  cases hcase : record.state with
  | NOT_DISPATCHED => exact absurd hcase hdispatched
  | DISPATCH_INTENT_COMMITTED => exact .head .received hknown
  | RESPONSE_RECEIVED => exact hknown
  | OUTCOME_UNKNOWN => exact .refl
  | COMPLETED_KNOWN | FAILED_KNOWN | RETRY_WAIT_KNOWN => simp [hcase, AttemptState.isKnown] at hunsettled

end ProviderOutcome

end SellerAgents.Execution
