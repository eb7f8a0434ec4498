import SellerAgents.BridgeCore.CatalogLaws

open SellerAgents.Js SellerAgents.Sync

namespace SellerAgents.BridgeCore

/-- The store is a tombstone of the catalog, without credentials. -/
def Deleted (scope : Scope) (storeId : JsString) : Prop :=
  ∃ store, scope.stores.get storeId = some store ∧ store.lifecycleState = .TOMBSTONED ∧
    store.credentials = {}

/-- The record gives way to the tombstone: it is one itself, or it is not ahead of the metadata
revision and not confirmed for another account. -/
def Yields (store : Store) (tombstone : StoreState) : Prop :=
  store.lifecycleState = .TOMBSTONED ∨
    store.metadataRevision ≤ incomingRevision tombstone ∧
    ¬ (store.providerIdentityState = .CONFIRMED ∧
      tombstone.providerIdentityState = some .CONFIRMED ∧
      some store.providerAccountId ≠ tombstone.providerAccountId)

/-- What the catalog shows under the id of the tombstone gives way to it: there is nothing, or a
record that does. A member of `Object.prototype` is refused as a store of another account. -/
def Shown.GivesWay (shown : Shown) (tombstone : StoreState) : Prop :=
  match shown with
  | .absent => True
  | .inherited => False
  | .record store => Yields store tombstone

/-- The catalog after it took the metadata of a server state. -/
def convergedScope (normalizeCredentials : NormalizeCredentials) (accountId : JsString)
    (calls : List CatalogCall) (state : SyncPayload) (now : Int) : Scope :=
  (CatalogCall.applyRemoteMetadata (received state) now).next normalizeCredentials accountId
    (catalog normalizeCredentials accountId calls)

theorem truthy_statedBy {principal : Principal} {entry : SyncEntry} {current : Option SyncPayload}
    {serverRevision : Nat} (haccepted : Accepts principal entry current serverRevision)
    (hstore : (statedBy entry current).kind.isStore = true) :
    truthy (statedBy entry current).storeId = true := by
  rw [statedBy_kind] at hstore
  have hnames := ((accepts_store_iff hstore).mp haccepted).1.1
  cases current with
  | none =>
    rw [statedBy_store_none hstore]
    exact hnames
  | some state =>
    rw [statedBy_store hstore]
    split
    · exact hnames
    · exact hnames

/-- A store state of the server names its store. -/
theorem run_truthy (platform : Platform) (steps : List SyncStep) :
    ∀ row ∈ (run platform {} steps).entities, row.state.kind.isStore = true →
      truthy row.state.storeId = true := by
  refine run_states (P := fun state => state.kind.isStore = true → truthy state.storeId = true) ?_
    (fun _ _ _ _ haccepted => truthy_statedBy haccepted) platform steps
  rintro state _ ⟨_, _, _, _, _, rfl⟩ htruthy
  exact htruthy

variable {accountId : JsString} {scope : Scope} {input : StoreState} {now : Int} {store : Store}

/-- A tombstone that the catalog takes deletes the store. -/
theorem deleted_put {storeId : JsString} {previous : Option Store}
    (hid : (previous.map Store.id).getD storeId = storeId) (hkind : input.kind = .STORE_TOMBSTONE) :
    Deleted (scope.put (remoteStore accountId previous storeId input now)) storeId := by
  refine ⟨remoteStore accountId previous storeId input now, ?_, ?_, ?_⟩
  · have hget : (scope.put (remoteStore accountId previous storeId input now)).stores.get
        (remoteStore accountId previous storeId input now).id = _ := get_of_put rfl
    rwa [show (remoteStore accountId previous storeId input now).id = storeId from hid] at hget
  · simp [remoteStore, hkind]
  · simp [remoteStore, hkind]

theorem not_deleted_none {storeId : JsString} (hget : scope.stores.get storeId = none) :
    ¬ Deleted scope storeId := by
  rintro ⟨store, hstore, -⟩
  rw [hget] at hstore
  cases hstore

theorem not_deleted (hget : scope.stores.get store.id = some store)
    (hactive : store.lifecycleState ≠ .TOMBSTONED) : ¬ Deleted scope store.id := by
  rintro ⟨store', hstore', htombstoned, -⟩
  obtain rfl := Option.some.inj (hget.symm.trans hstore')
  exact hactive htombstoned

section Remote

variable {normalizeCredentials : NormalizeCredentials}

theorem next_of_ok {answer : PublicStore} {written : Scope}
    (h : applyRemoteMetadata accountId input now scope = .ok (answer, written)) :
    (CatalogCall.applyRemoteMetadata input now).next normalizeCredentials accountId scope =
      written := by
  simp only [CatalogCall.next, CatalogCall.written, h, Except.toOption, Option.map_some,
    Option.getD_some]

theorem next_of_error {error : CatalogError}
    (h : applyRemoteMetadata accountId input now scope = .error error) :
    (CatalogCall.applyRemoteMetadata input now).next normalizeCredentials accountId scope =
      scope := by
  simp only [CatalogCall.next, CatalogCall.written, h, Except.toOption, Option.map_none,
    Option.getD_none]

theorem applyRemoteMetadata_none (accountId : JsString) (now : Int)
    (htruthy : truthy input.storeId = true) (hstore : input.kind.isStore = true)
    (hshown : scope.lookup (input.storeId.getD []) = .absent) :
    ∃ answer, applyRemoteMetadata accountId input now scope =
      .ok (answer, scope.put (remoteStore accountId none (input.storeId.getD []) input now)) := by
  refine ⟨publicStore (remoteStore accountId none (input.storeId.getD []) input now), ?_⟩
  unfold applyRemoteMetadata
  simp only [htruthy, hstore, hshown, Bool.not_true, Bool.or_self, Bool.false_eq_true, if_false]

/-- An id that names a member of `Object.prototype` is refused. -/
theorem applyRemoteMetadata_inherited (accountId : JsString) (now : Int)
    (htruthy : truthy input.storeId = true) (hstore : input.kind.isStore = true)
    (hshown : scope.lookup (input.storeId.getD []) = .inherited) :
    applyRemoteMetadata accountId input now scope = .error .STORE_NOT_FOUND := by
  unfold applyRemoteMetadata
  simp only [htruthy, hstore, hshown, Bool.not_true, Bool.or_self, Bool.false_eq_true, if_false]

/-- A tombstone on a record of the account. -/
theorem applyRemoteMetadata_tombstone (now : Int) (htruthy : truthy input.storeId = true)
    (hkind : input.kind = .STORE_TOMBSTONE)
    (hshown : scope.lookup (input.storeId.getD []) = .record store)
    (howned : store.accountId = accountId) :
    applyRemoteMetadata accountId input now scope =
      if store.lifecycleState = .TOMBSTONED then
        if store.metadataRevision < incomingRevision input then
          let newer := { store with metadataRevision := (incomingRevision input : Int) }
          .ok (publicStore newer, scope.put newer)
        else .ok (publicStore store, scope)
      else if (incomingRevision input : Int) < store.metadataRevision then
        .ok (publicStore store, scope)
      else if store.providerIdentityState = .CONFIRMED &&
          input.providerIdentityState = some .CONFIRMED &&
          some store.providerAccountId ≠ input.providerAccountId then
        .error .STORE_PROVIDER_IDENTITY_MISMATCH
      else
        let taken := remoteStore accountId (some store) (input.storeId.getD []) input now
        .ok (publicStore taken, scope.put taken) := by
  unfold applyRemoteMetadata
  simp only [htruthy, hkind, hshown, howned, SyncKind.isStore, Bool.not_true, Bool.or_self,
    Bool.false_eq_true, if_false, ne_eq, not_true_eq_false, decide_true, Bool.true_and,
    decide_eq_true_eq]

theorem deleted_iff (hw : WellFormed accountId scope) (htruthy : truthy input.storeId = true)
    (hkind : input.kind = .STORE_TOMBSTONE) :
    Deleted ((CatalogCall.applyRemoteMetadata input now).next normalizeCredentials accountId scope)
        (input.storeId.getD []) ↔
      (scope.lookup (input.storeId.getD [])).GivesWay input := by
  have hstore : input.kind.isStore = true := by rw [hkind]; rfl
  cases hshown : scope.lookup (input.storeId.getD []) with
  | absent =>
    obtain ⟨answer, happly⟩ := applyRemoteMetadata_none accountId now htruthy hstore hshown
    rw [next_of_ok happly]
    exact iff_of_true (deleted_put rfl hkind) trivial
  | inherited =>
    rw [next_of_error (applyRemoteMetadata_inherited accountId now htruthy hstore hshown)]
    exact iff_of_false (not_deleted_none (lookup_inherited hshown)) id
  | record store =>
    have hget := lookup_record hshown
    have hid := hw.keyed _ store hget
    have happly := applyRemoteMetadata_tombstone now htruthy hkind hshown
      (hw.owned _ store hget)
    unfold Shown.GivesWay
    dsimp only
    by_cases htombstoned : store.lifecycleState = .TOMBSTONED
    · refine iff_of_true ?_ (.inl htombstoned)
      have hempty := hw.emptied _ store hget htombstoned
      rw [if_pos htombstoned] at happly
      split at happly
      · rw [next_of_ok happly, ← hid]
        exact ⟨{ store with metadataRevision := (incomingRevision input : Int) },
          Properties.get_set_self _ _ _, htombstoned, hempty⟩
      · rw [next_of_ok happly]
        exact ⟨store, hget, htombstoned, hempty⟩
    rw [if_neg htombstoned] at happly
    unfold Yields
    rw [or_iff_right htombstoned]
    have hkept := not_deleted (hw.own hget) htombstoned
    by_cases hahead : (incomingRevision input : Int) < store.metadataRevision
    · rw [if_pos hahead] at happly
      rw [next_of_ok happly, ← hid]
      exact iff_of_false hkept fun hyields => absurd hahead (Int.not_lt.mpr hyields.1)
    rw [if_neg hahead] at happly
    by_cases hother : store.providerIdentityState = .CONFIRMED ∧
        input.providerIdentityState = some .CONFIRMED ∧
        some store.providerAccountId ≠ input.providerAccountId
    · rw [if_pos (by simpa [and_assoc] using hother)] at happly
      rw [next_of_error happly, ← hid]
      exact iff_of_false hkept fun hyields => hyields.2 hother
    · rw [if_neg (by simpa [and_assoc] using hother)] at happly
      rw [next_of_ok happly]
      exact iff_of_true (deleted_put hid hkind) ⟨Int.not_lt.mp hahead, hother⟩

end Remote

/-- A device that takes the tombstone of the server deletes its store exactly when what it has under
that id gives way: its record if it has one, and no member of `Object.prototype`. -/
theorem tombstone_converges_iff (platform : Platform) (steps : List SyncStep)
    (normalizeCredentials : NormalizeCredentials) (accountId : JsString)
    (calls : List CatalogCall) (now : Int) :
    ∀ row ∈ (run platform {} steps).entities, row.state.kind.isStore = true →
      row.state.lifecycleState = some .TOMBSTONED →
      (Deleted (convergedScope normalizeCredentials accountId calls row.state now)
          (row.state.storeId.getD []) ↔
        ((catalog normalizeCredentials accountId calls).lookup
          (row.state.storeId.getD [])).GivesWay (received row.state)) := by
  intro row hrow hstore htombstoned
  have hkind : (received row.state).kind = .STORE_TOMBSTONE := by
    have hlifecycle := ((run_held platform steps row hrow).2 hstore).2
    rw [htombstoned, Option.some.injEq] at hlifecycle
    by_contra hother
    exact absurd (hlifecycle.trans (if_neg hother)) nofun
  exact deleted_iff (wellFormed_catalogFrom normalizeCredentials calls (wellFormed_empty accountId))
    (run_truthy platform steps row hrow hstore) hkind

/-! A store that one device deletes while another one renames it. -/

def sampleTombstone : SyncPayload :=
  { sampleStorePayload .ozon 1 with kind := .STORE_TOMBSTONE, lifecycleState := some .TOMBSTONED }

/-- The digest is the one of the entry with the sample tombstone. -/
def tombstonePlatform : Platform where
  localeCompare := compare
  accepts _ := true
  fingerprint _ := units "117117f648837fce9091b709ee754685b5620d6237f6e5b8c7162094754afc63"

def sampleTombstoneSteps : List SyncStep :=
  [.authority sampleStoreAuthority,
    .apply ⟨sampleStorePrincipal, sampleStoreEntry 0 sampleTombstone, 1⟩]

/-- The row of the deleted store. -/
def sampleTombstoneRow : SyncEntity :=
  { sampleStoreRow with state := storeStateFromEntry (sampleStoreEntry 0 sampleTombstone) }

theorem sampleTombstoneRow_mem :
    sampleTombstoneRow ∈ (run tombstonePlatform {} sampleTombstoneSteps).entities := by
  decide +kernel

theorem tombstone_converges_sample :
    Deleted (convergedScope samplePort sampleStorePrincipal.accountId [sampleSave]
      sampleTombstoneRow.state 2) (units "store-1") := by
  refine (tombstone_converges_iff tombstonePlatform sampleTombstoneSteps samplePort
    sampleStorePrincipal.accountId [sampleSave] 2 sampleTombstoneRow sampleTombstoneRow_mem
    (by decide +kernel) (by decide +kernel)).mpr ?_
  exact .inr ⟨by decide +kernel, fun hother => by cases hother.1⟩

def sampleRename : CatalogCall :=
  .save { id := some (units "store-1"), name := some (units "Renamed"),
          credentials := { token := some (units "key") } }
    ⟨units "credential-2", units "2", 2⟩

/-- The renamed store, ahead of the tombstone by one revision, stays active. -/
theorem renamed_store_stays :
    sampleTombstoneRow ∈ (run tombstonePlatform {} sampleTombstoneSteps).entities ∧
    sampleTombstoneRow.state.lifecycleState = some .TOMBSTONED ∧
    ¬ Deleted (convergedScope samplePort sampleStorePrincipal.accountId [sampleSave, sampleRename]
      sampleTombstoneRow.state 3) (units "store-1") := by
  refine ⟨sampleTombstoneRow_mem, rfl, ?_⟩
  rintro ⟨store, hstore, htombstoned, -⟩
  obtain rfl := Option.some.inj hstore
  cases htombstoned

end SellerAgents.BridgeCore
