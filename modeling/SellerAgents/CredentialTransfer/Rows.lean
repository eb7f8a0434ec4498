import SellerAgents.CredentialTransfer.Repository

namespace SellerAgents.CredentialTransfer

open Js
open Subscriptions (Date)

/-- What no call changes in a row. -/
structure RowKept (row row' : TransferRequestV1) : Prop where
  account : row'.accountId = row.accountId
  recipient : row'.recipientDeviceId = row.recipientDeviceId
  expiry : row'.expiresAt = row.expiresAt
  source : ∀ device, row.sourceDeviceId = some device → row'.sourceDeviceId = some device
  terminal : row.state.terminal = true → row'.state = row.state

namespace RowKept

variable {row row' row'' : TransferRequestV1}

theorem refl (row : TransferRequestV1) : RowKept row row := ⟨rfl, rfl, rfl, fun _ h => h, fun _ => rfl⟩

theorem trans (h : RowKept row row') (h' : RowKept row' row'') : RowKept row row'' where
  account := h'.account.trans h.account
  recipient := h'.recipient.trans h.recipient
  expiry := h'.expiry.trans h.expiry
  source device hsource := h'.source device (h.source device hsource)
  terminal hterminal := by
    have hsame := h.terminal hterminal
    rw [h'.terminal (hsame ▸ hterminal), hsame]

/-- A row that is not settled may expire. -/
theorem expired (h : row.state.terminal = false) (revision : Nat) :
    RowKept row { row with state := .EXPIRED, revision } :=
  ⟨rfl, rfl, rfl, fun _ hsource => hsource, fun hterminal => by simp [h] at hterminal⟩

end RowKept

/-- How a call may change the state of a row, other than by its expiry. -/
def RepositoryCall.Moves (id : String) (s s' : TransferState) : RepositoryCall → Prop
  | .markSourceSeen _ requestId => requestId = id ∧ s' = .SOURCE_SEEN
  | .markPacketAvailable _ requestId => requestId = id ∧ s' = .PACKET_AVAILABLE_EPHEMERAL
  | .markDelivered _ requestId => requestId = id ∧ s' = .DELIVERED_TO_RECIPIENT
  | .acknowledge _ ack => ack.requestId = id ∧ s' = .COMPLETED ∧ s = .DELIVERED_TO_RECIPIENT
  | .cancel _ requestId => requestId = id ∧ s' = .CANCELLED ∧ (s = .REQUESTED ∨ s = .SOURCE_SEEN)
  | _ => False

/-- One row before and after a call. -/
structure RowMoved (now : Date) (move : TransferState → TransferState → Prop)
    (row row' : TransferRequestV1) : Prop where
  kept : RowKept row row'
  state : row'.state = row.state ∨ (row'.state = .EXPIRED ∧ row.expiresAt ≤ now) ∨
    move row.state row'.state

theorem RowMoved.refl (now : Date) (move : TransferState → TransferState → Prop)
    (row : TransferRequestV1) : RowMoved now move row row := ⟨.refl row, .inl rfl⟩

theorem RowMoved.mono {now : Date} {move move' : TransferState → TransferState → Prop}
    {row row' : TransferRequestV1} (h : RowMoved now move row row')
    (hmove : ∀ s s', move s s' → move' s s') : RowMoved now move' row row' :=
  ⟨h.kept, h.state.imp_right (.imp_right (hmove _ _))⟩

namespace Repository

variable {principal : ExtensionPrincipal} {now : Date} {rows : Rows} {id : String}
  {row : TransferRequestV1} {move : TransferState → TransferState → Prop}

theorem find_other {other : String} (h : other ≠ id) :
    (find principal now rows id).2.get other = rows.get other := by
  unfold find
  split
  · rfl
  split_ifs
  · rfl
  · exact JsMap.get_set_other rows _ h
  · rfl

theorem find_row (principal : ExtensionPrincipal) (now : Date) (h : rows.get id = some row) :
    ∃ row', (find principal now rows id).2.get id = some row' ∧ RowKept row row' ∧
      (row'.state = row.state ∨ (row'.state = .EXPIRED ∧ row.expiresAt ≤ now)) := by
  unfold find
  rw [h]
  dsimp only
  split_ifs with hprincipal hdue
  · exact ⟨row, h, .refl row, .inl rfl⟩
  · exact ⟨_, JsMap.get_set_self _ _ _, .expired hdue.2 _, .inr ⟨rfl, hdue.1⟩⟩
  · exact ⟨row, h, .refl row, .inl rfl⟩

theorem find_none (h : rows.get id = none) : find principal now rows id = (none, rows) := by
  unfold find
  rw [h]

theorem find_some (h : (find principal now rows id).1 = some row) :
    (find principal now rows id).2.get id = some row ∧ row.accountId = principal.accountId := by
  unfold find at h ⊢
  split at h
  · cases h
  rename_i found hfound
  split_ifs at h with hprincipal hdue
  all_goals
    cases h
    simp only [hprincipal, hdue, if_false]
    rw [not_or, not_not] at hprincipal
  · exact ⟨JsMap.get_set_self _ _ _, hprincipal.1⟩
  · exact ⟨hfound, hprincipal.1⟩

section OnRow

variable {α : Type} {missing : Except TransferFailure α}
  {f : TransferRequestV1 → Except TransferFailure α × TransferRequestV1}

theorem onRow_other {other : String} (h : other ≠ id) :
    (onRow principal now rows id missing f).2.get other = rows.get other := by
  unfold onRow
  dsimp only
  split
  · exact find_other h
  · rw [JsMap.get_set_other _ _ h]
    exact find_other h

theorem onRow_none (h : rows.get id = none) : (onRow principal now rows id missing f).2 = rows := by
  unfold onRow
  rw [find_none h]

theorem onRow_row (hf : ∀ row, RowMoved now move row (f row).2) (h : rows.get id = some row) :
    ∃ row', (onRow principal now rows id missing f).2.get id = some row' ∧
      RowMoved now move row row' := by
  obtain ⟨found, hfound, hkept, hstate⟩ := find_row principal now h
  unfold onRow
  dsimp only
  split
  · exact ⟨found, hfound, hkept, hstate.imp_right .inl⟩
  rename_i seen hseen
  obtain ⟨hget, -⟩ := find_some hseen
  rw [hfound] at hget
  cases hget
  refine ⟨_, JsMap.get_set_self _ _ _, hkept.trans (hf found).kept, ?_⟩
  rcases hstate with hstate | hexpired
  · rw [← hstate, ← hkept.expiry]
    exact (hf found).state
  · have hterminal : found.state.terminal = true := by rw [hexpired.1]; rfl
    exact .inr (.inl ⟨((hf found).kept.terminal hterminal).trans hexpired.1, hexpired.2⟩)

/-- A call that answers has found the row, unless a missing one is an answer too. -/
theorem onRow_ok {value : α} (h : (onRow principal now rows id missing f).1 = .ok value) :
    missing = .ok value ∨ ∃ row, row.accountId = principal.accountId ∧ (f row).1 = .ok value ∧
      (onRow principal now rows id missing f).2.get id = some (f row).2 := by
  unfold onRow at h ⊢
  dsimp only at h ⊢
  split at h
  · exact .inl h
  · rename_i row hrow
    exact .inr ⟨row, (find_some hrow).2, h, JsMap.get_set_self _ _ _⟩

end OnRow

variable {states : List TransferState} {requestId : String} {value : TransferRequestV1}
  {state : TransferState}

theorem transition_ok (h : (transition states state row).1 = .ok value) :
    (transition states state row).2 = value ∧ value.state = state := by
  unfold transition at h ⊢
  split_ifs at h ⊢
  cases h
  exact ⟨rfl, rfl⟩

theorem transition_moved (now : Date) (states : List TransferState) (state : TransferState)
    (row : TransferRequestV1) :
    RowMoved now (fun s s' => s' = state ∧ s ∈ states) row (transition states state row).2 := by
  unfold transition
  split_ifs with hexpired hsettled hstates
  · exact .refl _ _ row
  · exact .refl _ _ row
  · refine ⟨⟨rfl, rfl, rfl, fun _ h => h, fun hterminal => ?_⟩, .inr (.inr ⟨rfl, hstates⟩)⟩
    rw [not_or] at hsettled
    cases hstate : row.state <;> simp_all [TransferState.terminal]
  · exact .refl _ _ row

theorem RowKept.assigned (row : TransferRequestV1) (device : String) :
    RowKept row { row with sourceDeviceId := some (row.sourceDeviceId.getD device) } :=
  ⟨rfl, rfl, rfl, fun _ h => by rw [h]; rfl, fun _ => rfl⟩

section

variable (h : rows.get id = some row)
include h

theorem markSourceSeen_row :
    ∃ row', (markSourceSeen principal now rows requestId).2.get id = some row' ∧
      RowMoved now (fun _ s' => requestId = id ∧ s' = .SOURCE_SEEN) row row' := by
  by_cases hid : id = requestId
  · subst hid
    refine onRow_row (fun row => ?_) h
    split
    · exact .refl _ _ row
    · have hmoved := transition_moved now [.REQUESTED, .SOURCE_SEEN, .PACKET_AVAILABLE_EPHEMERAL,
        .DELIVERED_TO_RECIPIENT] .SOURCE_SEEN
        { row with sourceDeviceId := some (row.sourceDeviceId.getD principal.deviceId) }
      refine ⟨(RowKept.assigned row _).trans hmoved.kept, ?_⟩
      exact hmoved.state.imp_right (.imp_right fun h => ⟨rfl, h.1⟩)
  · exact ⟨row, (onRow_other hid).trans h, .refl _ _ row⟩

theorem markPacketAvailable_row :
    ∃ row', (markPacketAvailable principal now rows requestId).2.get id = some row' ∧
      RowMoved now (fun _ s' => requestId = id ∧ s' = .PACKET_AVAILABLE_EPHEMERAL) row row' := by
  by_cases hid : id = requestId
  · subst hid
    refine onRow_row (fun row => ?_) h
    split
    · exact .refl _ _ row
    · exact (transition_moved now _ _ row).mono fun _ _ h => ⟨rfl, h.1⟩
  · exact ⟨row, (onRow_other hid).trans h, .refl _ _ row⟩

theorem recipientTransition_row :
    ∃ row', (recipientTransition principal now rows requestId states state).2.get id = some row' ∧
      RowMoved now (fun s s' => requestId = id ∧ s' = state ∧ s ∈ states) row row' := by
  by_cases hid : id = requestId
  · subst hid
    refine onRow_row (fun row => ?_) h
    split
    · exact .refl _ _ row
    · exact (transition_moved now states state row).mono fun _ _ h => ⟨rfl, h⟩
  · exact ⟨row, (onRow_other hid).trans h, .refl _ _ row⟩

theorem read_row :
    ∃ row', (read principal now rows requestId).2.get id = some row' ∧ RowMoved now move row row' := by
  by_cases hid : id = requestId
  · subst hid
    refine onRow_row (fun row => ?_) h
    split <;> exact .refl _ _ row
  · exact ⟨row, (onRow_other hid).trans h, .refl _ _ row⟩

theorem readForSource_row :
    ∃ row', (readForSource principal now rows requestId).2.get id = some row' ∧
      RowMoved now move row row' := by
  by_cases hid : id = requestId
  · subst hid
    refine onRow_row (fun row => ?_) h
    split <;> exact .refl _ _ row
  · exact ⟨row, (onRow_other hid).trans h, .refl _ _ row⟩

theorem create_row {request : TransferCreateRequestV1} :
    (create principal now rows request).2.get id = some row := by
  unfold create
  split
  · exact h
  split
  · split <;> exact h
  · rename_i hnone
    have hid : id ≠ request.requestId := fun heq => by
      rw [← heq, h] at hnone
      cases hnone
    exact (JsMap.get_set_other rows _ hid).trans h

theorem expireDue_row :
    ∃ row', (expireDue now rows).2.get id = some row' ∧ RowMoved now move row row' := by
  simp only [expireDue, JsMap.get_mapValues, h, Option.map_some, Option.some.injEq, exists_eq_left']
  split
  · rename_i hdue
    simp only [due, Bool.and_eq_true, Bool.not_eq_true'] at hdue
    exact ⟨.expired hdue.2 _, .inr (.inl ⟨rfl, of_decide_eq_true hdue.1⟩)⟩
  · exact .refl _ _ row

end

theorem recipientTransition_ok
    (h : (recipientTransition principal now rows requestId states state).1 = .ok value) :
    (recipientTransition principal now rows requestId states state).2.get requestId = some value ∧
      value.state = state := by
  rcases onRow_ok h with hmissing | ⟨row, -, hvalue, hget⟩
  · cases hmissing
  split_ifs at hvalue hget with hother
  obtain ⟨rfl, hstate⟩ := transition_ok hvalue
  exact ⟨hget, hstate⟩

/-- A transition that throws leaves the state of the row, or lets it expire. -/
theorem recipientTransition_error {error : TransferFailure}
    (h : (recipientTransition principal now rows requestId states state).1 = .error error)
    (hrow : rows.get requestId = some row) :
    ∃ row', (recipientTransition principal now rows requestId states state).2.get requestId =
      some row' ∧ (row'.state = row.state ∨ row'.state = .EXPIRED) := by
  unfold recipientTransition onRow at h ⊢
  obtain ⟨found, hfound, -, hstate⟩ := find_row principal now hrow
  dsimp only at h ⊢
  split
  · exact ⟨found, hfound, hstate.imp_right And.left⟩
  rename_i seen hseen
  obtain ⟨hget, -⟩ := find_some hseen
  rw [hfound] at hget
  cases hget
  rw [hseen] at h
  dsimp only at h
  refine ⟨_, JsMap.get_set_self _ _ _, ?_⟩
  split_ifs at h ⊢ with hother
  · exact hstate.imp_right And.left
  · unfold transition at h ⊢
    split_ifs at h ⊢ with hexpired hsettled hstates
    · exact hstate.imp_right And.left
    · exact hstate.imp_right And.left
    · exact hstate.imp_right And.left

theorem markPacketAvailable_ok
    (h : (markPacketAvailable principal now rows requestId).1 = .ok value) :
    (markPacketAvailable principal now rows requestId).2.get requestId = some value ∧
      value.state = .PACKET_AVAILABLE_EPHEMERAL := by
  rcases onRow_ok h with hmissing | ⟨row, -, hvalue, hget⟩
  · cases hmissing
  split_ifs at hvalue hget with hother
  obtain ⟨rfl, hstate⟩ := transition_ok hvalue
  exact ⟨hget, hstate⟩

theorem read_ok (h : (read principal now rows requestId).1 = .ok (some row)) :
    (read principal now rows requestId).2.get requestId = some row := by
  rcases onRow_ok h with hmissing | ⟨found, -, hvalue, hget⟩
  · cases hmissing
  split at hvalue
  · cases hvalue
  rename_i hpart
  rw [if_neg hpart] at hget
  cases hvalue
  exact hget

theorem create_none {request : TransferCreateRequestV1} (h : rows.get id = none)
    (hget : (create principal now rows request).2.get id = some row) : row.state = .REQUESTED := by
  unfold create at hget
  split at hget
  · simp [h] at hget
  split at hget
  · split at hget <;> simp [h] at hget
  · by_cases hid : id = request.requestId
    · subst hid
      simp only [JsMap.get_set_self, Option.some.injEq] at hget
      subst hget
      rfl
    · simp [JsMap.get_set_other _ _ hid, h] at hget

end Repository

namespace RepositoryCall

variable {now : Date} {rows : Rows} {id : String} {row : TransferRequestV1}

/-- What a call does to a row. -/
theorem perform_row (call : RepositoryCall) (h : rows.get id = some row) :
    ∃ row', (call.perform now rows).2.get id = some row' ∧
      RowMoved now (fun s s' => call.Moves id s s') row row' := by
  have quiet {rows' : Rows} (hget : rows'.get id = some row) :
      ∃ row', rows'.get id = some row' ∧ RowMoved now (fun s s' => call.Moves id s s') row row' :=
    ⟨row, hget, .refl _ _ row⟩
  cases call with
  | create principal request => exact quiet (Repository.create_row h)
  | read principal requestId => exact Repository.read_row h
  | readForSource principal requestId => exact Repository.readForSource_row h
  | listForSource principal => exact quiet h
  | markSourceSeen principal requestId => exact Repository.markSourceSeen_row h
  | markPacketAvailable principal requestId => exact Repository.markPacketAvailable_row h
  | markDelivered principal requestId =>
    obtain ⟨row', hget, hmoved⟩ := Repository.recipientTransition_row h
    exact ⟨row', hget, hmoved.mono fun _ _ h => ⟨h.1, h.2.1⟩⟩
  | acknowledge principal ack =>
    obtain ⟨row', hget, hmoved⟩ := Repository.recipientTransition_row h
    exact ⟨row', hget, hmoved.mono fun _ _ h => ⟨h.1, h.2.1, List.mem_singleton.mp h.2.2⟩⟩
  | cancel principal requestId =>
    obtain ⟨row', hget, hmoved⟩ := Repository.recipientTransition_row h
    exact ⟨row', hget, hmoved.mono fun _ _ h => ⟨h.1, h.2.1, by simpa using h.2.2⟩⟩
  | expireDue => exact Repository.expireDue_row h

/-- A call only adds requested rows. -/
theorem perform_none (call : RepositoryCall) (h : rows.get id = none)
    (hget : (call.perform now rows).2.get id = some row) : row.state = .REQUESTED := by
  have onRow_new {α : Type} {principal : ExtensionPrincipal} {requestId : String}
      {missing : Except TransferFailure α}
      {f : TransferRequestV1 → Except TransferFailure α × TransferRequestV1} :
      (Repository.onRow principal now rows requestId missing f).2.get id ≠ some row := by
    intro hsome
    by_cases hid : id = requestId
    · subst hid
      rw [Repository.onRow_none h, h] at hsome
      cases hsome
    · rw [Repository.onRow_other hid, h] at hsome
      cases hsome
  cases call with
  | create principal request => exact Repository.create_none h hget
  | listForSource principal =>
    rw [perform, h] at hget
    cases hget
  | expireDue =>
    rw [perform, Repository.expireDue, JsMap.get_mapValues, h] at hget
    cases hget
  | _ => exact absurd hget onRow_new

end RepositoryCall

end SellerAgents.CredentialTransfer
