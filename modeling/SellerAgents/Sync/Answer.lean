import SellerAgents.Sync.MarkerOrder
import SellerAgents.Sync.Repository

open SellerAgents.Js Ranking

namespace SellerAgents.Sync

/-- What a state says apart from its reconciliation. -/
def explicitState (state : SyncPayload) : SyncPayload := { state with reconciliation := none }

/-- The entry names a store by its own id, with a marketplace, a name and a revision. -/
def NamesStore (entry : SyncEntry) : Prop :=
  truthy entry.payload.storeId = true ∧
    some entry.entityId = entry.payload.storeId.map (units "store:" ++ ·) ∧
    entry.payload.marketplace.isSome = true ∧ truthy entry.payload.name = true ∧
    entry.payload.metadataRevision.any safeNat = true

/-- The store metadata of the entry may take the place of the current metadata. -/
structure StoreSuccessor (entry : SyncEntry) (current : SyncPayload) : Prop where
  store : current.kind.isStore = true
  storeId : current.storeId = entry.payload.storeId
  marketplace : current.marketplace = entry.payload.marketplace
  active : current.lifecycleState ≠ some .TOMBSTONED
  identity : current.providerIdentityState = some .CONFIRMED →
    (storeStateFromEntry entry).providerIdentityState = some .CONFIRMED →
    current.providerAccountId = (storeStateFromEntry entry).providerAccountId
  metadataRevision :
    current.metadataRevision.getD 0 ≤ entry.payload.metadataRevision.getD 0

/-- The binding of the entry may take the place of the current one. -/
structure BindingSuccessor (principal : Principal) (entry : SyncEntry) (current : SyncPayload) :
    Prop where
  differs : sameEffectiveBinding (sanitizeExplicit entry) current principal.accountId
    entry.entityId = false
  bindingRevision : current.bindingRevision < entry.payload.bindingRevision

/-- The entry replaces what the entity says: it speaks of the current revision, and its binding or
metadata succeeds the current one. -/
def Accepts (principal : Principal) (entry : SyncEntry) (current : Option SyncPayload)
    (serverRevision : Nat) : Prop :=
  match entry.kind with
  | .STORE_UPSERT | .STORE_TOMBSTONE =>
    NamesStore entry ∧ ∀ state ∈ current,
      entry.baseRevision = serverRevision ∧ StoreSuccessor entry state
  | .DELIVERY_MARKER => False
  | .BINDING_UPSERT | .FINISH =>
    ∀ state ∈ current, entry.baseRevision = serverRevision ∧ BindingSuccessor principal entry state

/-- What the entry states for the entity; a confirmed identity of a store stays. -/
def statedBy (entry : SyncEntry) (current : Option SyncPayload) : SyncPayload :=
  match entry.kind with
  | .STORE_UPSERT | .STORE_TOMBSTONE =>
    match current with
    | some state =>
      if state.providerIdentityState = some .CONFIRMED then
        { storeStateFromEntry entry with
          providerIdentityState := some .CONFIRMED
          providerAccountId := some (orNull state.providerAccountId.join) }
      else storeStateFromEntry entry
    | none => storeStateFromEntry entry
  | _ => sanitizeExplicit entry

/-- The state only differs in its reconciliation, which the kernel made. -/
def Rereconciled (state state' : SyncPayload) : Prop :=
  ∃ classification markers actingInstallationId receiveAtMs preferred,
    state' = reconciled state classification markers actingInstallationId receiveAtMs preferred

/-- What the kernel can answer. -/
inductive Answer (principal : Principal) (entry : SyncEntry) (current : Option SyncPayload)
    (serverRevision : Nat) (result : SyncResult) : Prop where
  | kept (hrefused : ¬ Accepts principal entry current serverRevision)
      (hrevision : result.serverRevision = serverRevision)
      (hstate : ∀ state' ∈ stateToWrite result, ∃ state, current = some state ∧
        (state' = state ∨ (entry.kind.isBinding = true ∧ Rereconciled state state')))
  | replaced (state' : SyncPayload) (haccepted : Accepts principal entry current serverRevision)
      (hrevision : result.serverRevision = serverRevision + 1)
      (hwrite : stateToWrite result = some state')
      (hstate : state' = statedBy entry current ∨ Rereconciled (statedBy entry current) state')

variable {localeCompare : JsString → JsString → Ordering} {current : Option SyncPayload}
  {serverRevision : Nat} {entry : SyncEntry} {principal : Principal} {receiveAtMs : Int}
  {revoked : List JsString}

theorem namesStore_iff :
    NamesStore entry ↔ ¬ ((!truthy (storeStateFromEntry entry).storeId ||
      some entry.entityId ≠ (storeStateFromEntry entry).storeId.map (units "store:" ++ ·) ||
      (storeStateFromEntry entry).marketplace.isNone ||
      !truthy (storeStateFromEntry entry).name ||
      !(storeStateFromEntry entry).metadataRevision.any safeNat) = true) := by
  simp [NamesStore, storeStateFromEntry, Option.isSome_iff_ne_none, and_assoc]

theorem accepts_store_iff (hkind : entry.kind.isStore = true) :
    Accepts principal entry current serverRevision ↔
      NamesStore entry ∧ ∀ state ∈ current,
        entry.baseRevision = serverRevision ∧ StoreSuccessor entry state := by
  unfold Accepts
  cases h : entry.kind <;> simp_all [SyncKind.isStore]

theorem statedBy_store (hkind : entry.kind.isStore = true) (state : SyncPayload) :
    statedBy entry (some state) =
      if state.providerIdentityState = some .CONFIRMED then
        { storeStateFromEntry entry with
          providerIdentityState := some .CONFIRMED
          providerAccountId := some (orNull state.providerAccountId.join) }
      else storeStateFromEntry entry := by
  unfold statedBy
  cases h : entry.kind <;> simp_all [SyncKind.isStore]

theorem statedBy_store_none (hkind : entry.kind.isStore = true) :
    statedBy entry none = storeStateFromEntry entry := by
  unfold statedBy
  cases h : entry.kind <;> simp_all [SyncKind.isStore]

theorem applyStoreMetadataEntry_answer (hkind : entry.kind.isStore = true) :
    Answer principal entry current serverRevision
      (applyStoreMetadataEntry current serverRevision entry) := by
  unfold applyStoreMetadataEntry
  simp only []
  split
  · next hinvalid =>
    refine .kept (fun h => ?_) rfl (by simp [stateToWrite])
    exact namesStore_iff.mp ((accepts_store_iff hkind).mp h).1 hinvalid
  next hvalid =>
  have hnames : NamesStore entry := namesStore_iff.mpr hvalid
  cases current with
  | none =>
    refine .replaced _ ((accepts_store_iff hkind).mpr ⟨hnames, by simp⟩) rfl rfl ?_
    exact .inl (statedBy_store_none hkind).symm
  | some state =>
    have hsuccessor : Accepts principal entry (some state) serverRevision →
        entry.baseRevision = serverRevision ∧ StoreSuccessor entry state :=
      fun h => ((accepts_store_iff hkind).mp h).2 state rfl
    have hkept : ∀ state' ∈ stateToWrite ⟨.ACK, serverRevision, some state, some .IN_SYNC⟩,
        ∃ old, some state = some old ∧
          (state' = old ∨ (entry.kind.isBinding = true ∧ Rereconciled old state')) := by
      simp [stateToWrite]
    simp only []
    split
    · next hother =>
      refine .kept (fun h => ?_) rfl (by simp [stateToWrite])
      have hs := (hsuccessor h).2
      simp [hs.store, hs.storeId, hs.marketplace, storeStateFromEntry] at hother
    next hsame =>
    split
    · next htombstoned =>
      have hrefused : ¬ Accepts principal entry (some state) serverRevision :=
        fun h => (hsuccessor h).2.active htombstoned
      split
      · exact .kept hrefused rfl hkept
      · exact .kept hrefused rfl (by simp [stateToWrite])
    next hactive =>
    split
    · next hbase =>
      have hrefused : ¬ Accepts principal entry (some state) serverRevision :=
        fun h => hbase (hsuccessor h).1
      split
      · exact .kept hrefused rfl hkept
      · exact .kept hrefused rfl (by simp [stateToWrite])
    next hbase =>
    split
    · next hidentity =>
      refine .kept (fun h => ?_) rfl (by simp [stateToWrite])
      simp only [Bool.and_eq_true, decide_eq_true_eq] at hidentity
      exact hidentity.2 ((hsuccessor h).2.identity hidentity.1.1 hidentity.1.2)
    next hidentity =>
    split
    · next hrevision =>
      refine .kept (fun h => ?_) rfl (by simp [stateToWrite])
      exact absurd (hsuccessor h).2.metadataRevision (not_le.mpr hrevision)
    next hrevision =>
    have haccepted : Accepts principal entry (some state) serverRevision := by
      refine (accepts_store_iff hkind).mpr ⟨hnames, ?_⟩
      simp only [Option.mem_def, Option.some.injEq, forall_eq']
      simp only [Bool.or_eq_true, Bool.not_eq_true', decide_eq_true_eq, not_or, Bool.not_eq_false,
        ne_eq, not_not] at hsame
      simp only [Bool.and_eq_true, decide_eq_true_eq, ne_eq, not_and, not_not] at hidentity
      refine ⟨not_not.mp hbase, hsame.1.1, hsame.1.2, hsame.2, hactive, ?_, not_lt.mp hrevision⟩
      exact fun hcurrent hdesired => hidentity ⟨hcurrent, hdesired⟩
    split
    · next hconfirmed =>
      refine .replaced _ haccepted rfl rfl (.inl ?_)
      rw [statedBy_store hkind, if_pos hconfirmed]
    · next hconfirmed =>
      refine .replaced _ haccepted rfl rfl (.inl ?_)
      rw [statedBy_store hkind, if_neg hconfirmed]

theorem applyDeliveryMarker_answer {state : SyncPayload} (hkind : entry.kind = .DELIVERY_MARKER) :
    Answer principal entry (some state) serverRevision
      (applyDeliveryMarker localeCompare state serverRevision entry principal receiveAtMs revoked) := by
  have hrefused : ¬ Accepts principal entry (some state) serverRevision := by
    unfold Accepts
    rw [hkind]
    exact id
  have hbinding : entry.kind.isBinding = true := by rw [hkind]; rfl
  unfold applyDeliveryMarker
  simp only []
  split <;>
  · refine .kept hrefused rfl ?_
    simp only [stateToWrite, if_true, Option.mem_def, Option.some.injEq, forall_eq', exists_eq_left']
    exact .inr ⟨hbinding, _, _, _, _, _, rfl⟩

section

variable (hkind : entry.kind = .BINDING_UPSERT ∨ entry.kind = .FINISH)
include hkind

theorem accepts_binding_iff :
    Accepts principal entry current serverRevision ↔ ∀ state ∈ current,
      entry.baseRevision = serverRevision ∧ BindingSuccessor principal entry state := by
  unfold Accepts
  rcases hkind with h | h <;> simp [h]

theorem statedBy_binding :
    statedBy entry current = sanitizeExplicit entry := by
  unfold statedBy
  rcases hkind with h | h <;> simp [h]

theorem applyExplicitEntry_answer :
    Answer principal entry current serverRevision
      (applyExplicitEntry current serverRevision entry principal receiveAtMs) := by
  have hbinding : entry.kind.isBinding = true := by
    rcases hkind with h | h <;> rw [h] <;> rfl
  have hstated : Rereconciled (statedBy entry current)
      (reconciled (sanitizeExplicit entry) .IN_SYNC [] principal.deviceId receiveAtMs
        ⟨.VALID_CURRENT, some principal.deviceId,
          some (some (units "EXPLICIT_ACCEPTED_BINDING_ACTION"))⟩) := by
    rw [statedBy_binding hkind]
    exact ⟨_, _, _, _, _, rfl⟩
  unfold applyExplicitEntry
  cases current with
  | none =>
    exact .replaced _ ((accepts_binding_iff hkind).mpr (by simp)) rfl rfl (.inr hstated)
  | some state =>
    have hsuccessor : Accepts principal entry (some state) serverRevision →
        entry.baseRevision = serverRevision ∧ BindingSuccessor principal entry state :=
      fun h => (accepts_binding_iff hkind).mp h state rfl
    have hkept : ∀ classification code, ∀ state' ∈ stateToWrite ⟨.ACK, serverRevision,
        some (reconciled state classification (markersOf state) principal.deviceId receiveAtMs
          (preferredOf state)), code⟩, ∃ old, some state = some old ∧
          (state' = old ∨ (entry.kind.isBinding = true ∧ Rereconciled old state')) := by
      intro classification code
      simp only [stateToWrite, if_true, Option.mem_def, Option.some.injEq, forall_eq',
        exists_eq_left']
      exact .inr ⟨hbinding, _, _, _, _, _, rfl⟩
    simp only []
    split
    · next hbase =>
      have hrefused : ¬ Accepts principal entry (some state) serverRevision :=
        fun h => hbase (hsuccessor h).1
      split
      · exact .kept hrefused rfl (hkept _ _)
      · exact .kept hrefused rfl (by simp [stateToWrite])
    next hbase =>
    split
    · next hsame =>
      refine .kept (fun h => ?_) rfl (hkept _ _)
      rw [(hsuccessor h).2.differs] at hsame
      exact Bool.false_ne_true hsame
    next hdiffers =>
    split
    · next hrevision =>
      refine .kept (fun h => ?_) rfl (by simp [stateToWrite])
      exact absurd hrevision (not_le.mpr (hsuccessor h).2.bindingRevision)
    next hrevision =>
    refine .replaced _ ((accepts_binding_iff hkind).mpr ?_) rfl rfl (.inr hstated)
    simp only [Option.mem_def, Option.some.injEq, forall_eq']
    exact ⟨not_not.mp hbase, Bool.eq_false_iff.mpr hdiffers, not_le.mp hrevision⟩

end

/-- Every answer of the kernel keeps what the entity says, or replaces it by what an accepted entry
states. -/
theorem applyReconciliationEntry_answer :
    Answer principal entry current serverRevision
      (applyReconciliationEntry localeCompare current serverRevision entry principal receiveAtMs
        revoked) := by
  unfold applyReconciliationEntry
  cases hkind : entry.kind with
  | STORE_UPSERT | STORE_TOMBSTONE =>
    exact applyStoreMetadataEntry_answer (by rw [hkind]; rfl)
  | DELIVERY_MARKER =>
    cases current with
    | none =>
      refine .kept ?_ rfl (by simp [stateToWrite])
      unfold Accepts
      rw [hkind]
      exact id
    | some state => exact applyDeliveryMarker_answer hkind
  | BINDING_UPSERT => exact applyExplicitEntry_answer (.inl hkind)
  | FINISH => exact applyExplicitEntry_answer (.inr hkind)

/-- What the kernel answers on the selected row. -/
theorem Applied.answer_selected {platform : Platform} {store store' : SyncStore} {request : Request}
    {result : SyncResult} (h : Applied platform store request result store') :
    Answer request.principal (canonicalEntry request.entry)
      ((selected store request).head?.map SyncEntity.state)
      (((selected store request).head?.map SyncEntity.serverRevision).getD 0) result := by
  rw [h.result_eq]
  exact applyReconciliationEntry_answer

/-! What a new reconciliation leaves as it is. -/

theorem Rereconciled.explicitState_eq {state state' : SyncPayload} (h : Rereconciled state state') :
    explicitState state' = explicitState state := by
  obtain ⟨_, _, _, _, _, rfl⟩ := h
  rfl

end SellerAgents.Sync
