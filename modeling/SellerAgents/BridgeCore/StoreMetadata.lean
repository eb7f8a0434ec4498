import SellerAgents.Sync.Entities

open SellerAgents.Js SellerAgents.Sync

namespace SellerAgents.BridgeCore

/-- The fields of a store that both sides reconcile. -/
structure StoreFields where
  storeId : Option JsString
  marketplace : Option Marketplace
  name : Option JsString
  providerAccountId : Nullish JsString
  providerIdentityState : Option ProviderIdentityState
  credentialRevision : Option JsString
  metadataRevision : Option Nat
  lifecycleState : Option LifecycleState
deriving DecidableEq

/-- The object that `storeState` builds. -/
structure StoreState : Type extends StoreFields where
  kind : SyncKind

/-- The answer of `applyStoreMetadata`. -/
structure StoreAnswer where
  outcome : Outcome
  serverRevision : Nat
  serverState : Option StoreState
  code : Option ResultCode

/-- `storeState`; `payload.providerAccountId` of a confirmed identity is taken as it is. -/
def storeState (entry : SyncEntry) : StoreState :=
  let payload := entry.payload
  { kind := entry.kind
    storeId := payload.storeId
    marketplace := payload.marketplace
    name := payload.name
    providerAccountId :=
      if payload.providerIdentityState = some .CONFIRMED then payload.providerAccountId
      else some none
    providerIdentityState :=
      some (if payload.providerIdentityState = some .CONFIRMED then .CONFIRMED else .UNCONFIRMED)
    credentialRevision := orNull payload.credentialRevision
    metadataRevision := some ((payload.metadataRevision.filter safeNat).getD 0)
    lifecycleState := some (if entry.kind = .STORE_TOMBSTONE then .TOMBSTONED else .ACTIVE) }

/-- `sameStoreState`, which leaves the kind out. -/
def sameStoreState (left right : StoreState) : Bool := left.toStoreFields = right.toStoreFields

/-- The client's kernel: the answer to a store entry at the revision it knows. -/
def applyStoreMetadata (current : Option StoreState) (serverRevision : Nat) (entry : SyncEntry) :
    StoreAnswer :=
  let desired := storeState entry
  if !truthy desired.storeId || desired.marketplace.isNone || !truthy desired.name then
    ⟨.CONFLICT, serverRevision, current, some .STORE_METADATA_INVALID⟩
  else
    match current with
    | none => ⟨.ACK, serverRevision + 1, some desired, none⟩
    | some current =>
      if current.lifecycleState = some .TOMBSTONED then
        if desired.lifecycleState = some .TOMBSTONED then
          ⟨.ACK, serverRevision, some current, some .IN_SYNC⟩
        else ⟨.CONFLICT, serverRevision, some current, some .STORE_TOMBSTONE_DOMINATES⟩
      else if entry.baseRevision ≠ serverRevision then
        if sameStoreState desired current then
          ⟨.ACK, serverRevision, some current, some .IN_SYNC⟩
        else ⟨.CONFLICT, serverRevision, some current, some .SYNC_CONFLICT⟩
      else if current.providerIdentityState = some .CONFIRMED &&
          desired.providerIdentityState = some .CONFIRMED &&
          current.providerAccountId ≠ desired.providerAccountId then
        ⟨.CONFLICT, serverRevision, some current, some .STORE_PROVIDER_IDENTITY_MISMATCH⟩
      else if desired.metadataRevision.getD 0 < current.metadataRevision.getD 0 then
        ⟨.CONFLICT, serverRevision, some current, some .STORE_STALE_REVISION⟩
      else if current.providerIdentityState = some .CONFIRMED then
        ⟨.ACK, serverRevision + 1,
          some { desired with
            providerIdentityState := some .CONFIRMED
            providerAccountId := current.providerAccountId }, none⟩
      else ⟨.ACK, serverRevision + 1, some desired, none⟩

/-- A state of the server, as the client receives it. -/
def received (state : SyncPayload) : StoreState where
  kind := state.kind
  storeId := state.storeId
  marketplace := state.marketplace
  name := state.name
  providerAccountId := state.providerAccountId
  providerIdentityState := state.providerIdentityState
  credentialRevision := state.credentialRevision
  metadataRevision := state.metadataRevision
  lifecycleState := state.lifecycleState

section Received

variable (state : SyncPayload)

@[simp] theorem received_providerAccountId :
    (received state).providerAccountId = state.providerAccountId := rfl

end Received

/-- The outcome, the code, the revision and the store fields of the two answers are the same. -/
structure Agree (server : SyncResult) (client : StoreAnswer) : Prop where
  outcome : server.outcome = client.outcome
  code : server.code = client.code
  serverRevision : server.serverRevision = client.serverRevision
  fields : server.serverState.map (fun state => (received state).toStoreFields) =
    client.serverState.map StoreState.toStoreFields

/-- Both sides answer with the state as it is. -/
theorem Agree.kept (outcome : Outcome) (serverRevision : Nat) (state : SyncPayload)
    (code : Option ResultCode) :
    Agree ⟨outcome, serverRevision, some state, code⟩
      ⟨outcome, serverRevision, some (received state), code⟩ := ⟨rfl, rfl, rfl, rfl⟩

/-! What the server holds of a store. -/

/-- The two fields of a stored store state that the reconciliation relies on: a null in place of a
missing or empty account, and the lifecycle of its kind. -/
def Held (state : SyncPayload) : Prop :=
  state.kind.isStore = true → state.providerAccountId = some (orNull state.providerAccountId.join) ∧
    state.lifecycleState = some (if state.kind = .STORE_TOMBSTONE then .TOMBSTONED else .ACTIVE)

theorem held_account (entry : SyncEntry) : (storeStateFromEntry entry).providerAccountId =
    some (orNull (storeStateFromEntry entry).providerAccountId.join) := by
  simp only [storeStateFromEntry]
  split
  · exact congrArg some (orNull_join _).symm
  · rfl

theorem held_statedBy (entry : SyncEntry) (current : Option SyncPayload) :
    Held (statedBy entry current) := by
  intro hstore
  rw [statedBy_kind] at hstore
  cases current with
  | none =>
    rw [statedBy_store_none hstore]
    exact ⟨held_account entry, rfl⟩
  | some state =>
    rw [statedBy_store hstore]
    split
    · exact ⟨congrArg some (orNull_join _).symm, rfl⟩
    · exact ⟨held_account entry, rfl⟩

/-- A property of states that a new reconciliation keeps, and that every accepted entry states,
holds of all states of a store that grew from the empty one. -/
theorem run_states {P : SyncPayload → Prop}
    (hre : ∀ state state', Rereconciled state state' → P state → P state')
    (hstated : ∀ principal entry current serverRevision,
      Accepts principal entry current serverRevision → P (statedBy entry current))
    (platform : Platform) (steps : List SyncStep) :
    ∀ row ∈ (run platform {} steps).entities, P row.state := by
  have hrun : Canonical (run platform {} steps) ∧
      ∀ row ∈ (run platform {} steps).entities, P row.state := by
    refine run_induct (P := fun store => Canonical store ∧ ∀ row ∈ store.entities, P row.state)
      steps ⟨canonical_empty, by simp⟩ fun store step ⟨hc, hP⟩ => ?_
    refine ⟨hc.next step, ?_⟩
    rcases step.next_cases platform store with hsame | ⟨tables, -, hnext⟩ | ⟨_, _, -, happlied⟩
    · rwa [hsame]
    · rw [hnext]
      exact hP
    · intro row hrow
      rw [happlied.entities_eq] at hrow
      rcases mem_answeredEntities hrow with hmem | ⟨state', hwrite, rfl⟩
      · exact hP row hmem
      · cases happlied.answer hc with
        | kept _ _ hstate =>
          obtain ⟨state, hcurrent, hcase⟩ := hstate state' hwrite
          obtain ⟨row, hrow, rfl⟩ := Option.map_eq_some_iff.mp hcurrent
          have hold := hP row (entityAt_mem hrow).1
          rcases hcase with rfl | ⟨-, hchanged⟩
          · exact hold
          · exact hre _ _ hchanged hold
        | replaced written haccepted _ hwritten hstate =>
          obtain rfl : written = state' := Option.some.inj (hwritten.symm.trans hwrite)
          have hnew := hstated _ _ _ _ haccepted
          rcases hstate with rfl | hchanged
          · exact hnew
          · exact hre _ _ hchanged hnew
  exact hrun.2

/-- Every row of a store that grew from the empty one is named for its entity, and held. -/
theorem run_held (platform : Platform) (steps : List SyncStep) :
    ∀ row ∈ (run platform {} steps).entities, Named row.entityId row.state ∧ Held row.state := by
  intro row hrow
  refine ⟨(canonical_run canonical_empty steps).named row hrow, ?_⟩
  refine run_states (P := Held) ?_ (fun _ entry current _ _ => held_statedBy entry current) platform
    steps row hrow
  rintro state _ ⟨_, _, _, _, _, rfl⟩ hheld
  exact hheld

/-! When the two answers agree. -/

/-- The entry says that its identity is confirmed, and leaves out of which account. -/
def Unnamed (entry : SyncEntry) : Prop :=
  entry.payload.providerIdentityState = some .CONFIRMED ∧ entry.payload.providerAccountId = none

/-- The answer on the current state does not come to the account of the entry's identity. -/
def Settled (state : SyncPayload) (serverRevision : Nat) (entry : SyncEntry) : Prop :=
  state.lifecycleState = some .TOMBSTONED ∨
    if entry.baseRevision ≠ serverRevision then
      Sync.sameStoreState (storeStateFromEntry entry) state = false
    else if state.providerIdentityState = some .CONFIRMED then state.providerAccountId ≠ some none
    else entry.payload.metadataRevision.getD 0 < state.metadataRevision.getD 0

/-- The entry has no marketplace; or it is under the id of its store, whose marketplace it does not
change, and its identity is not an unnamed one that would count. -/
def Alike (current : Option SyncPayload) (serverRevision : Nat) (entry : SyncEntry) : Prop :=
  entry.payload.marketplace = none ∨
    some entry.entityId = entry.payload.storeId.map (units "store:" ++ ·) ∧
    (∀ state ∈ current, state.marketplace = entry.payload.marketplace) ∧
    (Unnamed entry → ∃ state ∈ current, Settled state serverRevision entry)

/-- What the schema says of a store entry. -/
structure StoreEntry (entry : SyncEntry) : Prop where
  storeId : truthy entry.payload.storeId = true
  name : truthy entry.payload.name = true
  metadataRevision : ∃ n, entry.payload.metadataRevision = some n ∧ safeNat n = true
  account : entry.payload.providerAccountId ≠ some (some [])

theorem bounded_ne_nil {max : Nat} {s : JsString} (h : bounded max s = true) : s ≠ [] := by
  cases s with
  | nil => simp [bounded] at h
  | cons u s => simp

theorem storeEntry_of_valid {entry : SyncEntry} (hkind : entry.kind.isStore = true)
    (h : entry.valid = true) : StoreEntry entry := by
  simp only [SyncEntry.valid, hkind, if_true, Bool.and_eq_true, SyncPayload.valid] at h
  obtain ⟨⟨⟨⟨-, hpayload⟩, -⟩, -⟩, ⟨⟨⟨⟨⟨hstoreId, hname⟩, -⟩, hrevision⟩, -⟩, -⟩⟩ := h
  obtain ⟨⟨⟨⟨⟨⟨⟨⟨⟨⟨⟨-, -⟩, -⟩, hstore⟩, -⟩, -⟩, -⟩, -⟩, -⟩, hnames⟩, haccount⟩, hsafe⟩ := hpayload
  obtain ⟨storeId, hstoreId⟩ := Option.isSome_iff_exists.mp hstoreId
  obtain ⟨name, hname⟩ := Option.isSome_iff_exists.mp hname
  obtain ⟨revision, hrevision⟩ := Option.isSome_iff_exists.mp hrevision
  rw [hstoreId] at hstore
  rw [hname] at hnames
  rw [hrevision] at hsafe
  refine ⟨?_, ?_, ⟨revision, hrevision, hsafe⟩, ?_⟩
  · rw [hstoreId, truthy_some]
    exact bounded_ne_nil hstore
  · rw [hname, truthy_some]
    exact bounded_ne_nil hnames
  · intro hempty
    rw [hempty] at haccount
    simp [optionalString, nullableString, bounded] at haccount

section Agreement

variable {entry : SyncEntry} {serverRevision : Nat}

theorem storeState_account_eq_iff (h : StoreEntry entry) :
    (storeStateFromEntry entry).providerAccountId = (storeState entry).providerAccountId ↔
      ¬ Unnamed entry := by
  unfold storeStateFromEntry storeState Unnamed
  by_cases hconfirmed : entry.payload.providerIdentityState = some .CONFIRMED
  · simp only [hconfirmed, if_true, true_and]
    cases haccount : entry.payload.providerAccountId with
    | none => simp
    | some account =>
      cases account with
      | none => simp [orNull]
      | some account =>
        have hne : account ≠ [] := fun hnil => h.account (by rw [haccount, hnil])
        simp [orNull, truthy_some.mpr hne]
  · simp [hconfirmed]

/-- The two desired states differ at most in the account of the identity. -/
theorem received_storeStateFromEntry (h : StoreEntry entry) :
    received (storeStateFromEntry entry) =
      { storeState entry with
        providerAccountId := (storeStateFromEntry entry).providerAccountId } := by
  obtain ⟨n, hrevision, hsafe⟩ := h.metadataRevision
  simp [received, storeStateFromEntry, storeState, hrevision, hsafe, Option.filter]

theorem fields_storeStateFromEntry_iff (h : StoreEntry entry) :
    (received (storeStateFromEntry entry)).toStoreFields = (storeState entry).toStoreFields ↔
      ¬ Unnamed entry := by
  rw [received_storeStateFromEntry h, ← storeState_account_eq_iff h]
  constructor
  · exact fun heq => congrArg StoreFields.providerAccountId heq
  · intro heq
    rw [heq]

variable {marketplace : Marketplace}

theorem storeMetadata_valid (h : StoreEntry entry)
    (hmarketplace : entry.payload.marketplace = some marketplace) :
    (!truthy (storeState entry).storeId || (storeState entry).marketplace.isNone ||
      !truthy (storeState entry).name) = false := by
  simp [storeState, h.storeId, h.name, hmarketplace]

/-- The client refuses an entry with a marketplace for other reasons only. -/
theorem applyStoreMetadata_code (h : StoreEntry entry)
    (hmarketplace : entry.payload.marketplace = some marketplace) (current : Option StoreState) :
    (applyStoreMetadata current serverRevision entry).code ≠ some .STORE_METADATA_INVALID := by
  unfold applyStoreMetadata
  simp only [storeMetadata_valid h hmarketplace, Bool.false_eq_true, if_false]
  cases current with
  | none => simp
  | some current =>
    simp only []
    split_ifs <;> simp

/-- The server refuses an entry that is not under the id of its store. -/
theorem applyStoreMetadataEntry_misnamed (current : Option SyncPayload)
    (hname : some entry.entityId ≠ entry.payload.storeId.map (units "store:" ++ ·)) :
    applyStoreMetadataEntry current serverRevision entry =
      ⟨.CONFLICT, serverRevision, current, some .STORE_METADATA_INVALID⟩ := by
  have hguard : (!truthy (storeStateFromEntry entry).storeId ||
      some entry.entityId ≠ (storeStateFromEntry entry).storeId.map (units "store:" ++ ·) ||
      (storeStateFromEntry entry).marketplace.isNone || !truthy (storeStateFromEntry entry).name ||
      !(storeStateFromEntry entry).metadataRevision.any safeNat) = true := by
    simp [storeStateFromEntry, hname]
  unfold applyStoreMetadataEntry
  simp only [hguard, if_true]

section

variable (h : StoreEntry entry) (hmarketplace : entry.payload.marketplace = some marketplace)
  (hname : some entry.entityId = entry.payload.storeId.map (units "store:" ++ ·))
include h hmarketplace hname

theorem applyStoreMetadataEntry_named :
    NamesStore entry := by
  obtain ⟨n, hrevision, hsafe⟩ := h.metadataRevision
  exact ⟨h.storeId, hname, by simp [hmarketplace], h.name, by simp [hrevision, hsafe]⟩

theorem agree_none_iff :
    Agree (applyStoreMetadataEntry none serverRevision entry)
      (applyStoreMetadata none serverRevision entry) ↔ ¬ Unnamed entry := by
  have hserver := namesStore_iff.mp (applyStoreMetadataEntry_named h hmarketplace hname)
  unfold applyStoreMetadataEntry applyStoreMetadata
  simp only [hserver, storeMetadata_valid h hmarketplace, Bool.false_eq_true, if_false]
  rw [← fields_storeStateFromEntry_iff h]
  constructor
  · exact fun hagree => by simpa using hagree.fields
  · exact fun hfields => ⟨rfl, rfl, rfl, by simpa using hfields⟩

end

/-- The lifecycle of a store state tells its kind. -/
theorem serverSame_iff (hkind : entry.kind.isStore = true) {state : SyncPayload}
    (hstore : state.kind.isStore = true) (hheld : Held state) :
    Sync.sameStoreState (storeStateFromEntry entry) state = true ↔
      (received (storeStateFromEntry entry)).toStoreFields = (received state).toStoreFields := by
  simp only [Sync.sameStoreState, Bool.and_eq_true, decide_eq_true_eq, received,
    StoreFields.mk.injEq]
  constructor
  · rintro ⟨⟨⟨⟨⟨⟨⟨⟨-, hid⟩, hmarketplace⟩, hname⟩, haccount⟩, hidentity⟩, hcredential⟩, hrevision⟩,
      hlifecycle⟩
    exact ⟨hid, hmarketplace, hname, haccount, hidentity, hcredential, hrevision, hlifecycle⟩
  · rintro ⟨hid, hmarketplace, hname, haccount, hidentity, hcredential, hrevision, hlifecycle⟩
    have hkinds : (storeStateFromEntry entry).kind = state.kind := by
      have hstate := hlifecycle
      rw [(hheld hstore).2] at hstate
      simp only [storeStateFromEntry] at hstate ⊢
      cases hentryKind : entry.kind <;> cases hstateKind : state.kind <;>
        simp_all [SyncKind.isStore]
    exact ⟨⟨⟨⟨⟨⟨⟨⟨hkinds, hid⟩, hmarketplace⟩, hname⟩, haccount⟩, hidentity⟩, hcredential⟩, hrevision⟩,
      hlifecycle⟩

theorem storeState_account_of_unnamed (h : Unnamed entry) :
    (storeState entry).providerAccountId = none ∧
      (storeStateFromEntry entry).providerAccountId = some none := by
  simp [storeState, storeStateFromEntry, h.1, h.2, orNull]

/-- The answers on a state that an entry under another revision does not replace. -/
theorem clientSame_iff (h : StoreEntry entry) (hkind : entry.kind.isStore = true)
    {state : SyncPayload} (hstore : state.kind.isStore = true) (hheld : Held state) :
    sameStoreState (storeState entry) (received state) =
        Sync.sameStoreState (storeStateFromEntry entry) state ↔
      (Unnamed entry → Sync.sameStoreState (storeStateFromEntry entry) state = false) := by
  by_cases hunnamed : Unnamed entry
  · have hclient : sameStoreState (storeState entry) (received state) = false := by
      rw [sameStoreState, decide_eq_false_iff_not]
      intro heq
      have haccount := congrArg StoreFields.providerAccountId heq
      rw [(storeState_account_of_unnamed hunnamed).1] at haccount
      rw [received_providerAccountId, (hheld hstore).1] at haccount
      cases haccount
    rw [hclient]
    exact ⟨fun heq _ => heq.symm, fun hserver => (hserver hunnamed).symm⟩
  · have hfields := (fields_storeStateFromEntry_iff h).mpr hunnamed
    have hsame : sameStoreState (storeState entry) (received state) =
        Sync.sameStoreState (storeStateFromEntry entry) state := by
      rw [Bool.eq_iff_iff, serverSame_iff hkind hstore hheld, hfields, sameStoreState,
        decide_eq_true_eq]
    simp [hsame, hunnamed]

/-- The server refuses to give a store another marketplace. -/
theorem applyStoreMetadataEntry_moved {state : SyncPayload}
    (hmarketplace : state.marketplace ≠ entry.payload.marketplace) :
    applyStoreMetadataEntry (some state) serverRevision entry =
      ⟨.CONFLICT, serverRevision, some state, some .STORE_METADATA_INVALID⟩ := by
  have hguard : (!state.kind.isStore || state.storeId ≠ (storeStateFromEntry entry).storeId ||
      state.marketplace ≠ (storeStateFromEntry entry).marketplace) = true := by
    simp [storeStateFromEntry, hmarketplace]
  unfold applyStoreMetadataEntry
  simp only [hguard, if_true]
  split <;> rfl

section

variable (h : StoreEntry entry) (hmarketplace : entry.payload.marketplace = some marketplace)
include h hmarketplace

theorem applyStoreMetadataEntry_same
    (hname : some entry.entityId = entry.payload.storeId.map (units "store:" ++ ·))
    {state : SyncPayload} (hstore : state.kind.isStore = true)
    (hid : state.storeId = entry.payload.storeId)
    (hsame : state.marketplace = entry.payload.marketplace) :
    applyStoreMetadataEntry (some state) serverRevision entry =
      if state.lifecycleState = some .TOMBSTONED then
        if (storeStateFromEntry entry).lifecycleState = some .TOMBSTONED then
          ⟨.ACK, serverRevision, some state, some .IN_SYNC⟩
        else ⟨.CONFLICT, serverRevision, some state, some .STORE_TOMBSTONE_DOMINATES⟩
      else if entry.baseRevision ≠ serverRevision then
        if Sync.sameStoreState (storeStateFromEntry entry) state then
          ⟨.ACK, serverRevision, some state, some .IN_SYNC⟩
        else ⟨.CONFLICT, serverRevision, some state, some .SYNC_CONFLICT⟩
      else if state.providerIdentityState = some .CONFIRMED &&
          (storeStateFromEntry entry).providerIdentityState = some .CONFIRMED &&
          state.providerAccountId ≠ (storeStateFromEntry entry).providerAccountId then
        ⟨.CONFLICT, serverRevision, some state, some .STORE_PROVIDER_IDENTITY_MISMATCH⟩
      else if (storeStateFromEntry entry).metadataRevision.getD 0 < state.metadataRevision.getD 0 then
        ⟨.CONFLICT, serverRevision, some state, some .STORE_STALE_REVISION⟩
      else if state.providerIdentityState = some .CONFIRMED then
        ⟨.ACK, serverRevision + 1,
          some { storeStateFromEntry entry with
            providerIdentityState := some .CONFIRMED
            providerAccountId := some (orNull state.providerAccountId.join) }, none⟩
      else ⟨.ACK, serverRevision + 1, some (storeStateFromEntry entry), none⟩ := by
  have hvalid := namesStore_iff.mp (applyStoreMetadataEntry_named h hmarketplace hname)
  have hguard : (!state.kind.isStore || state.storeId ≠ (storeStateFromEntry entry).storeId ||
      state.marketplace ≠ (storeStateFromEntry entry).marketplace) = false := by
    simp [storeStateFromEntry, hstore, hid, hsame]
  unfold applyStoreMetadataEntry
  simp only [hvalid, hguard, Bool.false_eq_true, if_false]

theorem applyStoreMetadata_received (state : SyncPayload) :
    applyStoreMetadata (some (received state)) serverRevision entry =
      if state.lifecycleState = some .TOMBSTONED then
        if (storeState entry).lifecycleState = some .TOMBSTONED then
          ⟨.ACK, serverRevision, some (received state), some .IN_SYNC⟩
        else ⟨.CONFLICT, serverRevision, some (received state), some .STORE_TOMBSTONE_DOMINATES⟩
      else if entry.baseRevision ≠ serverRevision then
        if sameStoreState (storeState entry) (received state) then
          ⟨.ACK, serverRevision, some (received state), some .IN_SYNC⟩
        else ⟨.CONFLICT, serverRevision, some (received state), some .SYNC_CONFLICT⟩
      else if state.providerIdentityState = some .CONFIRMED &&
          (storeState entry).providerIdentityState = some .CONFIRMED &&
          state.providerAccountId ≠ (storeState entry).providerAccountId then
        ⟨.CONFLICT, serverRevision, some (received state), some .STORE_PROVIDER_IDENTITY_MISMATCH⟩
      else if (storeState entry).metadataRevision.getD 0 < state.metadataRevision.getD 0 then
        ⟨.CONFLICT, serverRevision, some (received state), some .STORE_STALE_REVISION⟩
      else if state.providerIdentityState = some .CONFIRMED then
        ⟨.ACK, serverRevision + 1,
          some { storeState entry with
            providerIdentityState := some .CONFIRMED
            providerAccountId := state.providerAccountId }, none⟩
      else ⟨.ACK, serverRevision + 1, some (storeState entry), none⟩ := by
  unfold applyStoreMetadata
  simp only [storeMetadata_valid h hmarketplace, Bool.false_eq_true, if_false]
  rfl

/-- The answers to an entry under the current revision of an active state. -/
theorem agree_current_iff
    (hname : some entry.entityId = entry.payload.storeId.map (units "store:" ++ ·))
    {state : SyncPayload} (hstore : state.kind.isStore = true) (hheld : Held state)
    (hid : state.storeId = entry.payload.storeId)
    (hsame : state.marketplace = entry.payload.marketplace)
    (hactive : state.lifecycleState ≠ some .TOMBSTONED)
    (hbase : entry.baseRevision = serverRevision) :
    Agree (applyStoreMetadataEntry (some state) serverRevision entry)
        (applyStoreMetadata (some (received state)) serverRevision entry) ↔
      (Unnamed entry →
        if state.providerIdentityState = some .CONFIRMED then state.providerAccountId ≠ some none
        else entry.payload.metadataRevision.getD 0 < state.metadataRevision.getD 0) := by
  have haccount := (hheld hstore).1
  obtain ⟨n, hrevision, hsafe⟩ := h.metadataRevision
  have hclientRevision : (storeState entry).metadataRevision.getD 0 = n := by
    simp [storeState, hrevision, hsafe, Option.filter]
  have hserverRevision : (storeStateFromEntry entry).metadataRevision.getD 0 = n := by
    simp [storeStateFromEntry, hrevision]
  have hidentity : (storeStateFromEntry entry).providerIdentityState =
      (storeState entry).providerIdentityState := rfl
  rw [applyStoreMetadataEntry_same h hmarketplace hname hstore hid hsame,
    applyStoreMetadata_received h hmarketplace]
  simp only [hactive, hbase, ne_eq, not_true_eq_false, if_false, hclientRevision, hserverRevision,
    hidentity]
  by_cases hunnamed : Unnamed entry
  · obtain ⟨hclientAccount, hserverAccount⟩ := storeState_account_of_unnamed hunnamed
    have hconfirmed : (storeState entry).providerIdentityState = some .CONFIRMED := by
      simp [storeState, hunnamed.1]
    simp only [hclientAccount, hserverAccount, hconfirmed, hunnamed, decide_true, Bool.and_true,
      forall_true_left, hrevision, Option.getD_some]
    by_cases hstate : state.providerIdentityState = some .CONFIRMED
    · have hpresent : state.providerAccountId ≠ none := by
        rw [haccount]
        simp
      by_cases hnull : state.providerAccountId = some none
      · -- the server passes on, and the client compares null with undefined
        simp only [hstate, hnull, decide_true, not_true_eq_false, decide_false,
          Bool.and_false, Bool.false_eq_true, if_false, if_true, reduceCtorEq, not_false_eq_true,
          Bool.and_self, iff_false]
        intro hagree
        have hcode := hagree.code
        split_ifs at hcode
        cases hcode
      · simp only [hstate, hnull, hpresent, decide_true, not_false_eq_true, Bool.and_self,
          if_true, iff_true]
        exact .kept _ _ state _
    · simp only [hstate, decide_false, Bool.false_and, Bool.false_eq_true, if_false]
      by_cases hstale : n < state.metadataRevision.getD 0
      · simp only [hstale, if_true, iff_true]
        exact .kept _ _ state _
      · simp only [hstale, if_false, iff_false]
        intro hagree
        have hfields : (received (storeStateFromEntry entry)).toStoreFields =
            (storeState entry).toStoreFields := by simpa using hagree.fields
        exact (fields_storeStateFromEntry_iff h).mp hfields hunnamed
  · have hsameAccount := (storeState_account_eq_iff h).mpr hunnamed
    have hfields := (fields_storeStateFromEntry_iff h).mpr hunnamed
    simp only [hsameAccount, hunnamed, false_implies, iff_true, Bool.and_eq_true, decide_eq_true_eq]
    by_cases hmismatch : (state.providerIdentityState = some .CONFIRMED ∧
        (storeState entry).providerIdentityState = some .CONFIRMED) ∧
        ¬ state.providerAccountId = (storeState entry).providerAccountId
    · rw [if_pos hmismatch, if_pos hmismatch]
      exact .kept _ _ state _
    rw [if_neg hmismatch, if_neg hmismatch]
    by_cases hstale : n < state.metadataRevision.getD 0
    · rw [if_pos hstale, if_pos hstale]
      exact .kept _ _ state _
    rw [if_neg hstale, if_neg hstale]
    by_cases hstate : state.providerIdentityState = some .CONFIRMED
    · rw [if_pos hstate, if_pos hstate]
      refine ⟨rfl, rfl, rfl, ?_⟩
      have hconfirmed := congrArg (fun fields : StoreFields => { fields with
        providerAccountId := state.providerAccountId
        providerIdentityState := some .CONFIRMED }) hfields
      simpa [received, ← haccount] using hconfirmed
    · rw [if_neg hstate, if_neg hstate]
      exact ⟨rfl, rfl, rfl, by simpa using hfields⟩

end

theorem agree_some_iff (h : StoreEntry entry) (hkind : entry.kind.isStore = true)
    (hmarketplace : entry.payload.marketplace = some marketplace)
    (hname : some entry.entityId = entry.payload.storeId.map (units "store:" ++ ·))
    {state : SyncPayload} (hstore : state.kind.isStore = true) (hheld : Held state)
    (hid : state.storeId = entry.payload.storeId) :
    Agree (applyStoreMetadataEntry (some state) serverRevision entry)
        (applyStoreMetadata (some (received state)) serverRevision entry) ↔
      state.marketplace = entry.payload.marketplace ∧
        (Unnamed entry → Settled state serverRevision entry) := by
  by_cases hsame : state.marketplace = entry.payload.marketplace
  swap
  · constructor
    · intro hagree
      have hcode := hagree.code
      rw [applyStoreMetadataEntry_moved hsame] at hcode
      exact absurd hcode.symm (applyStoreMetadata_code h hmarketplace _)
    · exact fun halike => absurd halike.1 hsame
  rw [and_iff_right hsame]
  by_cases hactive : state.lifecycleState = some .TOMBSTONED
  · have hlifecycle : (storeStateFromEntry entry).lifecycleState = (storeState entry).lifecycleState := rfl
    rw [applyStoreMetadataEntry_same h hmarketplace hname hstore hid hsame,
      applyStoreMetadata_received h hmarketplace, if_pos hactive, if_pos hactive, hlifecycle]
    refine iff_of_true ?_ fun _ => .inl hactive
    split
    · exact .kept _ _ state _
    · exact .kept _ _ state _
  by_cases hbase : entry.baseRevision = serverRevision
  · rw [agree_current_iff h hmarketplace hname hstore hheld hid hsame hactive hbase]
    simp only [Settled, hactive, hbase, ne_eq, not_true_eq_false, if_false, false_or]
  · rw [applyStoreMetadataEntry_same h hmarketplace hname hstore hid hsame,
      applyStoreMetadata_received h hmarketplace, if_neg hactive, if_neg hactive, if_pos hbase,
      if_pos hbase]
    simp only [Settled, hactive, hbase, ne_eq, not_false_eq_true, if_true, false_or]
    rw [← clientSame_iff h hkind hstore hheld]
    cases hserver : Sync.sameStoreState (storeStateFromEntry entry) state <;>
      cases hclient : sameStoreState (storeState entry) (received state)
    · exact iff_of_true (.kept _ _ state _) rfl
    · exact iff_of_false (fun hagree => nomatch hagree.code) nofun
    · exact iff_of_false (fun hagree => nomatch hagree.code) nofun
    · exact iff_of_true (.kept _ _ state _) rfl

/-- What the current state of an entity is to an entry for the entity: none, or a store's. -/
def CurrentStore (entry : SyncEntry) (current : Option SyncPayload) : Prop :=
  ∀ state ∈ current, state.kind.isStore = true ∧ Named entry.entityId state ∧ Held state

theorem Named.storeId_eq {entityId : JsString} {state : SyncPayload}
    (h : Named entityId state) (hstore : state.kind.isStore = true) {storeId : Option JsString}
    (hname : some entityId = storeId.map (units "store:" ++ ·)) : state.storeId = storeId := by
  rcases h with ⟨-, hid⟩ | ⟨hkind, -⟩
  · have hsame := hid.symm.trans hname
    cases hstate : state.storeId with
    | none => simp [hstate] at hid
    | some id =>
      cases storeId with
      | none => simp at hname
      | some other => simpa [hstate] using hsame
  · rcases hkind with hkind | hkind <;> simp [hkind, SyncKind.isStore] at hstore

theorem agree_iff (h : StoreEntry entry) (hkind : entry.kind.isStore = true)
    {current : Option SyncPayload} (hcurrent : CurrentStore entry current) :
    Agree (applyStoreMetadataEntry current serverRevision entry)
        (applyStoreMetadata (current.map received) serverRevision entry) ↔
      Alike current serverRevision entry := by
  cases hmarketplace : entry.payload.marketplace with
  | none =>
    refine iff_of_true ?_ (.inl hmarketplace)
    have hserver : applyStoreMetadataEntry current serverRevision entry =
        ⟨.CONFLICT, serverRevision, current, some .STORE_METADATA_INVALID⟩ := by
      unfold applyStoreMetadataEntry
      simp [storeStateFromEntry, hmarketplace]
    have hclient : applyStoreMetadata (current.map received) serverRevision entry =
        ⟨.CONFLICT, serverRevision, current.map received, some .STORE_METADATA_INVALID⟩ := by
      unfold applyStoreMetadata
      simp [storeState, hmarketplace]
    rw [hserver, hclient]
    refine ⟨rfl, rfl, rfl, ?_⟩
    rw [Option.map_map]
    rfl
  | some marketplace =>
    unfold Alike
    rw [hmarketplace, ← hmarketplace, or_iff_right (by simp [hmarketplace])]
    by_cases hname : some entry.entityId = entry.payload.storeId.map (units "store:" ++ ·)
    swap
    · rw [applyStoreMetadataEntry_misnamed current hname]
      refine iff_of_false (fun hagree => ?_) fun halike => hname halike.1
      exact applyStoreMetadata_code h hmarketplace _ hagree.code.symm
    rw [and_iff_right hname]
    cases current with
    | none => simp [agree_none_iff h hmarketplace hname]
    | some state =>
      obtain ⟨hstore, hnamed, hheld⟩ := hcurrent state rfl
      have hid := BridgeCore.Named.storeId_eq hnamed hstore hname
      rw [Option.map_some, agree_some_iff h hkind hmarketplace hname hstore hheld hid]
      simp

end Agreement

/-- On a store state that the server holds for the entity of the entry, and on an entity without a
state, the two sides agree on exactly the entries that are alike to them. -/
theorem storeMetadata_agree_iff (platform : Platform) (steps : List SyncStep) (entry : SyncEntry)
    (serverRevision : Nat) (hentry : entry.valid = true) (hkind : entry.kind.isStore = true) :
    (Agree (applyStoreMetadataEntry none serverRevision entry)
        (applyStoreMetadata none serverRevision entry) ↔ Alike none serverRevision entry) ∧
    ∀ row ∈ (run platform {} steps).entities, row.entityId = entry.entityId →
      row.state.kind.isStore = true →
      (Agree (applyStoreMetadataEntry (some row.state) serverRevision entry)
          (applyStoreMetadata (some (received row.state)) serverRevision entry) ↔
        Alike (some row.state) serverRevision entry) := by
  have h := storeEntry_of_valid hkind hentry
  have hempty : CurrentStore entry none := fun state hstate => by cases hstate
  refine ⟨agree_iff h hkind hempty, fun row hrow hid hstore => ?_⟩
  obtain ⟨hnamed, hheld⟩ := run_held platform steps row hrow
  rw [hid] at hnamed
  have hcurrent : CurrentStore entry (some row.state) := by
    intro state hstate
    rw [← Option.some.inj hstate]
    exact ⟨hstore, hnamed, hheld⟩
  exact agree_iff h hkind hcurrent

/-! A store whose marketplace another entry changes. -/

def sampleStorePayload (marketplace : Marketplace) (metadataRevision : Nat) : SyncPayload where
  kind := .STORE_UPSERT
  conversationKeyDigest := List.replicate 64 97
  bindingId := none
  bindingRevision := 0
  storeId := some (units "store-1")
  marketplace := some marketplace
  credentialRevision := some (List.replicate 64 97)
  name := some (units "Synthetic shop")
  providerAccountId := some none
  providerIdentityState := some .UNCONFIRMED
  metadataRevision := some metadataRevision
  lifecycleState := some .ACTIVE

def sampleStoreEntry (baseRevision : Nat) (payload : SyncPayload) : SyncEntry where
  requestId := units "00000000-0000-4000-8000-000000000010"
  mutationId := units "device:1"
  entityId := units "store:store-1"
  baseRevision := baseRevision
  localSequence := 1
  mutationGeneration := units "device:store:1"
  kind := payload.kind
  payload := payload

def sampleStorePrincipal : Principal where
  accountId := units "00000000-0000-4000-8000-000000000001"
  deviceId := units "00000000-0000-4000-8000-000000000002"
  sessionId := units "00000000-0000-4000-8000-000000000003"

def sampleStoreAuthority : Authority where
  users := [⟨units "user", .ACTIVE⟩]
  accounts := [⟨sampleStorePrincipal.accountId, .ACTIVE⟩]
  devices := [⟨sampleStorePrincipal.deviceId, sampleStorePrincipal.accountId, units "user",
    .ACTIVE, none⟩]
  sessions := [⟨sampleStorePrincipal.sessionId, sampleStorePrincipal.accountId,
    sampleStorePrincipal.deviceId, .ACTIVE, none⟩]

/-- The digest is the one of the entry that creates the sample store. -/
def storePlatform : Platform where
  localeCompare := compare
  accepts _ := true
  fingerprint _ := units "dc22c9d9cfca0e666816d0bb221d57377f51ef87c9c96af72e0399d28e64ad21"

/-- The store is created in one marketplace. -/
def sampleStoreSteps : List SyncStep :=
  [.authority sampleStoreAuthority,
    .apply ⟨sampleStorePrincipal, sampleStoreEntry 0 (sampleStorePayload .ozon 1), 1⟩]

/-- The row of the created store. -/
def sampleStoreRow : SyncEntity where
  accountId := sampleStorePrincipal.accountId
  entityId := units "store:store-1"
  serverRevision := 1
  state := storeStateFromEntry (sampleStoreEntry 0 (sampleStorePayload .ozon 1))
  installationId := sampleStorePrincipal.deviceId

theorem sampleStoreRow_mem :
    (run storePlatform {} sampleStoreSteps).entities = [sampleStoreRow] := by decide +kernel

theorem storeMetadata_agree_iff_sample :
    Agree (applyStoreMetadataEntry (some sampleStoreRow.state) 1
        (sampleStoreEntry 1 (sampleStorePayload .ozon 2)))
      (applyStoreMetadata (some (received sampleStoreRow.state)) 1
        (sampleStoreEntry 1 (sampleStorePayload .ozon 2))) := by
  have hmem : sampleStoreRow ∈ (run storePlatform {} sampleStoreSteps).entities := by
    rw [sampleStoreRow_mem]
    exact List.mem_singleton_self _
  have hagree := (storeMetadata_agree_iff storePlatform sampleStoreSteps
    (sampleStoreEntry 1 (sampleStorePayload .ozon 2)) 1 (by decide +kernel) rfl).2
      sampleStoreRow hmem rfl rfl
  refine hagree.mpr (.inr ⟨by decide +kernel, by decide +kernel, fun hunnamed => ?_⟩)
  exact absurd hunnamed.2 (by decide +kernel)

/-- The server keeps the store in its marketplace, and the client moves it. -/
theorem client_moves_marketplace :
    sampleStoreRow ∈ (run storePlatform {} sampleStoreSteps).entities ∧
    (sampleStoreEntry 1 (sampleStorePayload .wildberries 2)).valid = true ∧
    (applyStoreMetadataEntry (some sampleStoreRow.state) 1
      (sampleStoreEntry 1 (sampleStorePayload .wildberries 2))).code = some .STORE_METADATA_INVALID ∧
    (applyStoreMetadata (some (received sampleStoreRow.state)) 1
      (sampleStoreEntry 1 (sampleStorePayload .wildberries 2))).code = none ∧
    ¬ Agree (applyStoreMetadataEntry (some sampleStoreRow.state) 1
        (sampleStoreEntry 1 (sampleStorePayload .wildberries 2)))
      (applyStoreMetadata (some (received sampleStoreRow.state)) 1
        (sampleStoreEntry 1 (sampleStorePayload .wildberries 2))) := by
  refine ⟨by decide +kernel, by decide +kernel, by decide +kernel, by decide +kernel, ?_⟩
  intro hagree
  have hcode := hagree.code
  revert hcode
  decide +kernel

end SellerAgents.BridgeCore
