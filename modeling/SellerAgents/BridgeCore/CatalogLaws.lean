import SellerAgents.BridgeCore.Catalog

open SellerAgents.Js SellerAgents.Sync

namespace SellerAgents.BridgeCore

/-- Credentials that were saved or imported for a store under a credential revision. -/
structure Provision where
  storeId : JsString
  credentialRevision : Option JsString
  credentials : Credentials

section Calls

variable (normalizeCredentials : NormalizeCredentials) (accountId : JsString)

/-- The credentials of a form that changes those of its store, under the revision drawn for them. -/
def SaveInput.provision (input : SaveInput) (drawn : Drawn) (scope : Scope) (answer : PublicStore) :
    Option Provision :=
  let previous := (input.previous scope).map Store.credentials
  match normalizeCredentials answer.marketplace input.credentials previous with
  | .ok credentials =>
    if previous = some credentials then none else some ⟨answer.id, some drawn.revision, credentials⟩
  | .error _ => none

/-- The credentials of a packet, under its revision. -/
def CredentialImport.provision (input : CredentialImport) : Option Provision :=
  (normalizeCredentials input.marketplace input.credentials (some {})).toOption.map
    (⟨input.id, some input.credentialRevision, ·⟩)

/-- The credentials of a store of a backup, under its revision. -/
def BackupStore.provision (incoming : BackupStore) : Option Provision :=
  (backupCredentials normalizeCredentials incoming).toOption.map
    (⟨incoming.storeId, some incoming.credentialRevision, ·⟩)

/-- The credentials that a call saves or imports: those of its own input, of the stores that it
answers to have saved or imported. -/
def CatalogCall.provisions (call : CatalogCall) (scope : Scope) : List Provision :=
  match call with
  | .save input drawn =>
    match BridgeCore.save normalizeCredentials accountId input drawn scope with
    | .ok (answer, _) => (input.provision normalizeCredentials drawn scope answer).toList
    | .error _ => []
  | .importCredential input now =>
    match BridgeCore.importCredential normalizeCredentials accountId input now scope with
    | .ok (answer, _) =>
      if answer.kind = .IMPORTED then (input.provision normalizeCredentials).toList else []
    | .error _ => []
  | .applyBackupImport payload expectedPlan now =>
    match BridgeCore.applyBackupImport normalizeCredentials accountId payload expectedPlan now
        scope with
    | .ok (answer, _) => payload.stores.filterMap fun incoming =>
      if answer.imported.any (·.id = incoming.storeId) then incoming.provision normalizeCredentials
      else none
    | .error _ => []
  | _ => []

/-- The credentials saved or imported by the calls of a run. -/
def provisionsFrom (scope : Scope) : List CatalogCall → List Provision
  | [] => []
  | call :: rest =>
    call.provisions normalizeCredentials accountId scope ++
      provisionsFrom (call.next normalizeCredentials accountId scope) rest

end Calls

/-- What a step of the catalog may change of a store. -/
structure Kept (previous store : Store) : Prop where
  tombstoned : previous.lifecycleState = .TOMBSTONED → store.lifecycleState = .TOMBSTONED
  metadataRevision : previous.metadataRevision ≤ store.metadataRevision
  identity : previous.providerIdentityState = .CONFIRMED →
    store.providerIdentityState = .CONFIRMED ∧ store.providerAccountId = previous.providerAccountId
  marketplace : store.marketplace = previous.marketplace

theorem Kept.refl (store : Store) : Kept store store :=
  ⟨id, Int.le_refl _, fun h => ⟨h, rfl⟩, rfl⟩

theorem Kept.trans {first second third : Store} (h : Kept first second) (h' : Kept second third) :
    Kept first third where
  tombstoned htombstoned := h'.tombstoned (h.tombstoned htombstoned)
  metadataRevision := Int.le_trans h.metadataRevision h'.metadataRevision
  identity hconfirmed := by
    obtain ⟨hstill, haccount⟩ := h.identity hconfirmed
    obtain ⟨hlater, hsame⟩ := h'.identity hstill
    exact ⟨hlater, hsame.trans haccount⟩
  marketplace := h'.marketplace.trans h.marketplace

/-- Credentials that are current are the ones that came with the credential revision. -/
def Provided (log : List Provision) (store : Store) : Prop :=
  store.credentialsStale = false → store.credentials ≠ {} →
    ⟨store.id, store.credentialRevision, store.credentials⟩ ∈ log

/-- The credentials of the store are current as they were. -/
def SameCredentials (previous store : Store) : Prop :=
  previous.credentialsStale = false ∧ previous.credentials = store.credentials ∧
    previous.credentialRevision = store.credentialRevision

/-- A record that takes the place of the previous one: of the account, empty once it is a tombstone,
and within the laws if the step is sound. -/
structure Lawful (accountId : JsString) (sound : Prop) (log : List Provision)
    (previous : Option Store) (store : Store) : Prop where
  owned : store.accountId = accountId
  emptied : store.lifecycleState = .TOMBSTONED → store.credentials = {}
  kept : sound → ∀ p ∈ previous, Kept p store
  provided : sound → store.credentialsStale = false → store.credentials ≠ {} →
    ⟨store.id, store.credentialRevision, store.credentials⟩ ∈ log ∨
      ∃ p ∈ previous, SameCredentials p store

/-- Every store is as it was, or replaced by a lawful record. -/
def LawfulStep (accountId : JsString) (sound : Prop) (log : List Provision)
    (scope scope' : Scope) : Prop :=
  ∀ id, scope'.stores.get id = scope.stores.get id ∨
    ∃ store, scope'.stores.get id = some store ∧ store.id = id ∧
      Lawful accountId sound log (scope.stores.get id) store

/-- What holds of every scope that the calls of an account lead to. -/
structure WellFormed (accountId : JsString) (scope : Scope) : Prop where
  keyed : ∀ id store, scope.stores.get id = some store → store.id = id
  owned : ∀ id store, scope.stores.get id = some store → store.accountId = accountId
  emptied : ∀ id store, scope.stores.get id = some store →
    store.lifecycleState = .TOMBSTONED → store.credentials = {}

/-- The stores whose credentials are all provided. -/
def AllProvided (log : List Provision) (scope : Scope) : Prop :=
  ∀ id store, scope.stores.get id = some store → Provided log store

variable {accountId : JsString} {sound : Prop} {log log' : List Provision} {scope scope' : Scope}
  {id : JsString} {store : Store}

theorem wellFormed_empty (accountId : JsString) : WellFormed accountId {} := by
  constructor <;> exact fun id store hget => by cases hget

theorem WellFormed.own (h : WellFormed accountId scope) (hget : scope.stores.get id = some store) :
    scope.stores.get store.id = some store := by
  rw [h.keyed id store hget, hget]

theorem LawfulStep.refl (scope : Scope) : LawfulStep accountId sound log scope scope :=
  fun _ => .inl rfl

theorem get_of_put (h : scope'.stores = (scope.put store).stores) :
    scope'.stores.get store.id = some store := by
  rw [h]
  exact Properties.get_set_self _ _ _

theorem LawfulStep.put (h : Lawful accountId sound log (scope.stores.get store.id) store)
    (hstores : scope'.stores = scope.stores.set store.id store) :
    LawfulStep accountId sound log scope scope' := by
  intro id
  rw [hstores]
  by_cases hid : id = store.id
  · subst hid
    exact .inr ⟨store, Properties.get_set_self _ _ _, rfl, h⟩
  · exact .inl (Properties.get_set_other _ _ hid)

theorem LawfulStep.kept (h : LawfulStep accountId sound log scope scope') (hsound : sound)
    (hget : scope.stores.get id = some store) :
    ∃ store', scope'.stores.get id = some store' ∧ Kept store store' := by
  rcases h id with hsame | ⟨store', hstore', -, hlawful⟩
  · exact ⟨store, hsame.trans hget, .refl store⟩
  · exact ⟨store', hstore', hlawful.kept hsound store hget⟩

theorem LawfulStep.wellFormed (h : LawfulStep accountId sound log scope scope')
    (hw : WellFormed accountId scope) : WellFormed accountId scope' where
  keyed id store hget := by
    rcases h id with hsame | ⟨store', hstore', hid, -⟩
    · exact hw.keyed id store (hsame.symm.trans hget)
    · rwa [← Option.some.inj (hstore'.symm.trans hget)]
  owned id store hget := by
    rcases h id with hsame | ⟨store', hstore', -, hlawful⟩
    · exact hw.owned id store (hsame.symm.trans hget)
    · rw [← Option.some.inj (hstore'.symm.trans hget)]
      exact hlawful.owned
  emptied id store hget := by
    rcases h id with hsame | ⟨store', hstore', -, hlawful⟩
    · exact hw.emptied id store (hsame.symm.trans hget)
    · rw [← Option.some.inj (hstore'.symm.trans hget)]
      exact hlawful.emptied

theorem LawfulStep.allProvided (h : LawfulStep accountId sound log' scope scope') (hsound : sound)
    (hw : WellFormed accountId scope) (hp : AllProvided log scope) :
    AllProvided (log ++ log') scope' := by
  intro id store hget hfresh hne
  rcases h id with hsame | ⟨store', hstore', hid, hlawful⟩
  · have hlogged := hp id store (hsame.symm.trans hget) hfresh hne
    exact List.mem_append_left _ hlogged
  · obtain rfl := Option.some.inj (hstore'.symm.trans hget)
    rcases hlawful.provided hsound hfresh hne with
      hlogged | ⟨p, hprevious, hpfresh, hcredentials, hrevision⟩
    · exact List.mem_append_right _ hlogged
    · have hlogged := hp id p hprevious hpfresh (hcredentials ▸ hne)
      rw [hcredentials, hrevision, hw.keyed id p hprevious, ← hid] at hlogged
      exact List.mem_append_left _ hlogged

/-! When a call keeps the laws. -/

/-- The packet rebuilds the record of a store that has no credential revision. -/
def Rebuilt (previous : Store) (input : CredentialImport) : Prop :=
  truthy previous.credentialRevision = false ∧
    previous.credentialRevision ≠ some input.credentialRevision

/-- What keeps the laws: a form for a store with a marketplace, and none for a new store under an id
in use; a packet that does not rebuild a record with less; remote metadata that name the marketplace
of the store, no other account and, for an empty revision, a new one. -/
def CatalogCall.Sound (scope : Scope) : CatalogCall → Prop
  | .save input drawn =>
    (truthy input.id = false → scope.stores.get (units "store-" ++ drawn.uuid) = none) ∧
      ∀ previous ∈ input.id.bind scope.stores.get, previous.marketplace.isSome ∧
        (previous.providerIdentityState = .CONFIRMED → previous.providerAccountId ≠ some [])
  | .importCredential input _ =>
    ∀ previous ∈ scope.stores.get input.id, Rebuilt previous input →
      previous.metadataRevision ≤ input.metadataRevision.getD 0 ∧
        (previous.providerIdentityState = .CONFIRMED →
          input.providerIdentityState = some .CONFIRMED ∧ previous.providerAccountId ≠ some [])
  | .applyRemoteMetadata input _ =>
    ∀ previous ∈ input.storeId.bind scope.stores.get, previous.lifecycleState = .ACTIVE →
      previous.metadataRevision ≤ incomingRevision input →
        input.marketplace = previous.marketplace ∧
        (previous.providerIdentityState = .CONFIRMED → truthy previous.providerAccountId = false →
          previous.providerAccountId = none ∧ truthy input.providerAccountId.join = false) ∧
        (previous.credentialRevision = some [] → truthy input.credentialRevision = false →
          previous.credentialsStale = true ∨ previous.credentials = {} ∨
            input.kind = .STORE_TOMBSTONE)
  | _ => True

section Steps

variable {normalizeCredentials : NormalizeCredentials}

variable {drawn : Drawn} {now : Int} {storeId : JsString} {expectedRevision : Option JsString}
  {answer : PublicStore} {written : Scope} {previous : Store} {input : StoreState}

theorem lookup_record {id : JsString} (h : scope.lookup id = .record store) :
    scope.stores.get id = some store := by
  unfold Scope.lookup at h
  split at h
  · rename_i found hget
    cases h
    exact hget
  · split at h <;> cases h

theorem lookup_of_get {id : JsString} (h : scope.stores.get id = some store) :
    scope.lookup id = .record store := by
  rw [Scope.lookup, h]

theorem lookup_none {id : JsString} (h : ∀ store, scope.lookup id ≠ .record store) :
    scope.stores.get id = none := by
  cases hget : scope.stores.get id with
  | none => rfl
  | some store => exact absurd (lookup_of_get hget) (h store)

theorem lookup_absent {id : JsString} (h : scope.lookup id = .absent) :
    scope.stores.get id = none :=
  lookup_none fun store hrecord => by rw [h] at hrecord; cases hrecord

theorem lookup_inherited {id : JsString} (h : scope.lookup id = .inherited) :
    scope.stores.get id = none :=
  lookup_none fun store hrecord => by rw [h] at hrecord; cases hrecord

/-- What `save` writes. -/
theorem save_ok {input : SaveInput}
    (h : save normalizeCredentials accountId input drawn scope = .ok (answer, written)) :
    ∃ marketplace name credentials,
      (truthy input.id = true → (input.previous scope).isSome = true) ∧
      ((input.previous scope).bind Store.marketplace).or input.marketplace = some marketplace ∧
      normalizeCredentials (some marketplace) input.credentials
        ((input.previous scope).map Store.credentials) = .ok credentials ∧
      answer = publicStore
        (savedStore accountId (input.previous scope) marketplace name credentials input drawn) ∧
      written.stores = (scope.put (savedStore accountId (input.previous scope) marketplace name
        credentials input drawn)).stores ∧
      ∀ p ∈ input.previous scope, p.lifecycleState ≠ .TOMBSTONED := by
  unfold save at h
  simp only [] at h
  split at h
  · cases h
  rename_i hfound
  split at h
  · cases h
  rename_i hactive
  split at h
  · cases h
  split at h
  · cases h
  rename_i marketplace hmarketplace
  split at h
  · cases h
  split at h
  · cases h
  rename_i credentials hcredentials
  split at h
  · cases h
  rw [Except.ok.injEq, Prod.mk.injEq] at h
  obtain ⟨rfl, rfl⟩ := h
  refine ⟨marketplace, _, credentials, ?_, hmarketplace, hcredentials, rfl, ?_, ?_⟩
  · intro htruthy
    rw [htruthy, Bool.true_and] at hfound
    simpa [Option.isSome_iff_ne_none] using hfound
  · split
    · cases marketplace <;> rfl
    · rfl
  · intro p hp htombstoned
    rw [hp] at hactive
    simp [htombstoned] at hactive

theorem orNull_eq_self {s : Option JsString} (h : s ≠ some []) : orNull s = s := by
  cases s with
  | none => rfl
  | some s => exact if_pos (truthy_some.mpr fun hnil => h (by rw [hnil]))

/-- A new record is lawful once its credentials are logged. -/
theorem Lawful.new {previous : Option Store} (howned : store.accountId = accountId)
    (hactive : store.lifecycleState = .ACTIVE) (hnew : sound → previous = none)
    (hlogged : sound → ⟨store.id, store.credentialRevision, store.credentials⟩ ∈ log) :
    Lawful accountId sound log previous store where
  owned := howned
  emptied htombstoned := by simp [hactive] at htombstoned
  kept hsound := by simp [hnew hsound]
  provided hsound _ _ := .inl (hlogged hsound)

variable {credentials : Credentials} {incoming : List BackupStore}

/-- The record that a form writes over the previous one. -/
theorem savedStore_lawful {marketplace : Marketplace} {name : JsString} {input : SaveInput}
    (hactive : previous.lifecycleState ≠ .TOMBSTONED)
    (hsound : sound → previous.marketplace.isSome ∧
      (previous.providerIdentityState = .CONFIRMED → previous.providerAccountId ≠ some []))
    (hmarketplace : (previous.marketplace.or input.marketplace) = some marketplace)
    (hlogged : previous.credentials ≠ credentials →
      (let store := savedStore accountId (some previous) marketplace name credentials input drawn
       ⟨store.id, store.credentialRevision, store.credentials⟩ ∈ log)) :
    Lawful accountId sound log (some previous)
      (savedStore accountId (some previous) marketplace name credentials input drawn) where
  owned := rfl
  emptied := nofun
  kept h := by
    intro p hp
    obtain rfl := Option.some.inj hp
    obtain ⟨hsome, haccount⟩ := hsound h
    refine ⟨fun htombstoned => absurd htombstoned hactive, ?_, fun hconfirmed => ?_, ?_⟩
    · exact Int.le_add_of_nonneg_right (by decide)
    · exact ⟨hconfirmed, orNull_eq_self (haccount hconfirmed)⟩
    · obtain ⟨own, hown⟩ := Option.isSome_iff_exists.mp hsome
      rw [hown, Option.some_or] at hmarketplace
      exact hmarketplace.symm.trans hown.symm
  provided _ hstale _ := by
    by_cases hsame : previous.credentials = credentials
    · refine .inr ⟨previous, rfl, ?_, hsame, ?_⟩
      · simpa [savedStore, hsame] using hstale
      · simp [savedStore, hsame]
    · exact .inl (hlogged hsame)

/-- Credentials that a form changes are logged as they are saved. -/
theorem savedStore_provision {previous : Option Store} {marketplace : Marketplace} {name : JsString}
    {input : SaveInput} (hprevious : input.previous scope = previous)
    (hcredentials : normalizeCredentials (some marketplace) input.credentials
      (previous.map Store.credentials) = .ok credentials)
    (hchanged : previous.map Store.credentials ≠ some credentials) :
    let store := savedStore accountId previous marketplace name credentials input drawn
    ⟨store.id, store.credentialRevision, store.credentials⟩ ∈
      (input.provision normalizeCredentials drawn scope (publicStore store)).toList := by
  have hprovision : input.provision normalizeCredentials drawn scope (publicStore
      (savedStore accountId previous marketplace name credentials input drawn)) =
      some ⟨(savedStore accountId previous marketplace name credentials input drawn).id,
        some drawn.revision, credentials⟩ := by
    unfold SaveInput.provision
    rw [hprevious]
    simp only [publicStore, savedStore, hcredentials, if_neg hchanged]
  simp only [hprovision]
  simp [savedStore, hchanged]

theorem save_lawful {input : SaveInput} (hw : WellFormed accountId scope)
    (h : save normalizeCredentials accountId input drawn scope = .ok (answer, written)) :
    LawfulStep accountId ((CatalogCall.save input drawn).Sound scope)
      ((CatalogCall.save input drawn).provisions normalizeCredentials accountId scope)
      scope written := by
  have hlog : (CatalogCall.save input drawn).provisions normalizeCredentials accountId scope =
      (input.provision normalizeCredentials drawn scope answer).toList := by
    simp only [CatalogCall.provisions, h]
  rw [hlog]
  obtain ⟨marketplace, name, credentials, hfound, hmarketplace, hcredentials, rfl, hstores,
    hactive⟩ := save_ok h
  refine .put ?_ hstores
  cases hprev : input.previous scope with
  | none =>
    rw [hprev] at hfound hcredentials
    have hnew : truthy input.id = false := by simpa using hfound
    have hnone (hsound : (CatalogCall.save input drawn).Sound scope) : scope.stores.get (savedStore
        accountId none marketplace name credentials input drawn).id = none := hsound.1 hnew
    exact .new rfl rfl hnone fun _ => savedStore_provision hprev hcredentials (by simp)
  | some previous =>
    rw [hprev] at hmarketplace hcredentials
    have hat : input.id.bind scope.stores.get = some previous := by
      unfold SaveInput.previous at hprev
      split at hprev
      · exact hprev
      · cases hprev
    obtain ⟨id, -, hid⟩ := Option.bind_eq_some_iff.mp hat
    have hown : scope.stores.get (savedStore accountId (some previous) marketplace name credentials
        input drawn).id = some previous := hw.own hid
    rw [hown]
    refine savedStore_lawful (hactive previous hprev) (fun hsound => hsound.2 previous hat)
      hmarketplace fun hchanged => savedStore_provision hprev hcredentials ?_
    simpa using hchanged

/-! `importCredential`. -/

theorem importNew_ok {input : CredentialImport} {answer : ImportAnswer}
    (h : importNew normalizeCredentials accountId input now scope = .ok (answer, written)) :
    ∃ credentials,
      normalizeCredentials input.marketplace input.credentials (some {}) = .ok credentials ∧
      answer = ⟨.IMPORTED, publicStore (importedStore accountId credentials input now)⟩ ∧
      written = scope.assign (importedStore accountId credentials input now) := by
  unfold importNew at h
  split at h
  · cases h
  rename_i credentials hcredentials
  rw [Except.ok.injEq, Prod.mk.injEq] at h
  exact ⟨credentials, hcredentials, h.1.symm, h.2.symm⟩

/-- Credentials of a packet are logged as they are imported. -/
theorem mem_importProvision {input : CredentialImport}
    (hcredentials : normalizeCredentials input.marketplace input.credentials (some {}) =
      .ok credentials) :
    ⟨input.id, some input.credentialRevision, credentials⟩ ∈
      (input.provision normalizeCredentials).toList := by
  simp [CredentialImport.provision, hcredentials, Except.toOption]

theorem LawfulStep.assign (h : Lawful accountId sound log (scope.stores.get store.id) store) :
    LawfulStep accountId sound log scope (scope.assign store) := by
  unfold Scope.assign
  split
  · exact .refl scope
  · exact .put h rfl

/-- The import of a store that the catalog has no record of. -/
theorem importNew_lawful {input : CredentialImport} {answer : ImportAnswer}
    (hnone : scope.stores.get input.id = none)
    (h : importNew normalizeCredentials accountId input now scope = .ok (answer, written)) :
    LawfulStep accountId sound
      (if answer.kind = .IMPORTED then (input.provision normalizeCredentials).toList else [])
      scope written := by
  obtain ⟨credentials, hcredentials, rfl, rfl⟩ := importNew_ok h
  refine .assign ?_
  rw [show scope.stores.get (importedStore accountId credentials input now).id = none from hnone]
  exact .new rfl rfl (fun _ => rfl) fun _ => mem_importProvision hcredentials

/-- A packet that rebuilds the record. -/
theorem importedStore_lawful {input : CredentialImport}
    (hactive : previous.lifecycleState ≠ .TOMBSTONED)
    (hmarketplace : previous.marketplace = input.marketplace)
    (haccount : previous.providerIdentityState = .CONFIRMED →
      input.providerIdentityState = some .CONFIRMED →
      some previous.providerAccountId = input.providerAccountId)
    (hsound : sound → previous.metadataRevision ≤ input.metadataRevision.getD 0 ∧
      (previous.providerIdentityState = .CONFIRMED →
        input.providerIdentityState = some .CONFIRMED ∧ previous.providerAccountId ≠ some []))
    (hlogged : (let store := importedStore accountId credentials input now
      ⟨store.id, store.credentialRevision, store.credentials⟩ ∈ log)) :
    Lawful accountId sound log (some previous)
      (importedStore accountId credentials input now) where
  owned := rfl
  emptied := nofun
  kept h := by
    intro p hp
    obtain rfl := Option.some.inj hp
    obtain ⟨hrevision, hidentity⟩ := hsound h
    refine ⟨fun htombstoned => absurd htombstoned hactive, hrevision, fun hconfirmed => ?_,
      hmarketplace.symm⟩
    obtain ⟨hinput, hne⟩ := hidentity hconfirmed
    refine ⟨if_pos hinput, ?_⟩
    simp only [importedStore, if_pos hinput, ← haccount hconfirmed hinput, Option.join_some]
    exact orNull_eq_self hne
  provided _ _ _ := .inl hlogged

theorem importCredential_lawful {input : CredentialImport} {answer : ImportAnswer}
    (hw : WellFormed accountId scope)
    (h : importCredential normalizeCredentials accountId input now scope = .ok (answer, written)) :
    LawfulStep accountId ((CatalogCall.importCredential input now).Sound scope)
      ((CatalogCall.importCredential input now).provisions normalizeCredentials accountId scope)
      scope written := by
  have hlog : (CatalogCall.importCredential input now).provisions normalizeCredentials accountId
      scope =
        (if answer.kind = .IMPORTED then (input.provision normalizeCredentials).toList else []) := by
    simp only [CatalogCall.provisions, h]
  rw [hlog]
  unfold importCredential at h
  split at h
  · rename_i hshown
    exact importNew_lawful (lookup_absent hshown) h
  · rename_i hshown
    split at h
    · cases h
    · exact importNew_lawful (lookup_inherited hshown) h
  rename_i previous hshown
  have hget := lookup_record hshown
  split at h
  · cases h
  rename_i hguard
  split at h
  · cases h
  rename_i hidentity
  obtain ⟨hactive, hmarketplace⟩ : previous.lifecycleState ≠ .TOMBSTONED ∧
      previous.marketplace = input.marketplace := by simpa using hguard
  split at h
  · rename_i hrevision
    split at h
    · split at h
      · cases h
      rename_i credentials hcredentials
      rw [Except.ok.injEq, Prod.mk.injEq] at h
      obtain ⟨rfl, rfl⟩ := h
      refine .put ?_ rfl
      rw [show scope.stores.get previous.id = some previous from hw.own hget]
      refine ⟨hw.owned _ previous hget, fun htombstoned => absurd htombstoned hactive, fun _ => ?_,
        fun _ _ _ => .inl ?_⟩
      · intro p hp
        obtain rfl := Option.some.inj hp
        exact ⟨id, Int.le_refl _, fun hconfirmed => ⟨hconfirmed, rfl⟩, rfl⟩
      · dsimp only
        rw [if_pos rfl, hrevision, hw.keyed _ previous hget]
        exact mem_importProvision hcredentials
    · rw [Except.ok.injEq, Prod.mk.injEq] at h
      exact h.2 ▸ .refl _
  rename_i hrevision
  split at h
  · rw [Except.ok.injEq, Prod.mk.injEq] at h
    exact h.2 ▸ .refl _
  rename_i hfalsy
  obtain ⟨credentials, hcredentials, rfl, rfl⟩ := importNew_ok h
  refine .assign ?_
  rw [show scope.stores.get (importedStore accountId credentials input now).id = some previous
    from hget]
  refine importedStore_lawful hactive hmarketplace ?_
    (fun hsound => hsound previous hget ⟨by simpa using hfalsy, hrevision⟩)
    (mem_importProvision hcredentials)
  intro hprevious hinput
  by_contra hne
  exact hidentity (by simp [hprevious, hinput, hne])

/-! `applyBackupImport`. -/

/-- A record that the loop of `applyBackupImport` has written from a store of the backup. -/
structure Restored (normalizeCredentials : NormalizeCredentials) (accountId : JsString)
    (safe : JsString → Bool) (incoming : List BackupStore) (imported : List PublicStore)
    (store : Store) : Prop where
  safe : safe store.id = true
  owned : store.accountId = accountId
  active : store.lifecycleState = .ACTIVE
  answered : ∃ answer ∈ imported, answer.id = store.id
  source : ∃ source ∈ incoming, source.storeId = store.id ∧
    source.provision normalizeCredentials =
      some ⟨store.id, store.credentialRevision, store.credentials⟩

theorem Restored.cons {safe : JsString → Bool} {imported : List PublicStore}
    (h : Restored normalizeCredentials accountId safe incoming imported store) (first : BackupStore) :
    Restored normalizeCredentials accountId safe (first :: incoming) imported store where
  safe := h.safe
  owned := h.owned
  active := h.active
  answered := h.answered
  source := by
    obtain ⟨source, hmem, hsource⟩ := h.source
    exact ⟨source, List.mem_cons_of_mem _ hmem, hsource⟩

/-- After the stores of a backup, a store is as it was or one of the imported. -/
theorem importStores_ok {safe : JsString → Bool} {before imported : List PublicStore}
    (h : importStores normalizeCredentials accountId now safe incoming before scope =
      .ok (imported, written)) :
    (∀ answer ∈ before, answer ∈ imported) ∧
    ∀ id, written.stores.get id = scope.stores.get id ∨
      ∃ store, written.stores.get id = some store ∧ store.id = id ∧
        Restored normalizeCredentials accountId safe incoming imported store := by
  induction incoming generalizing before scope with
  | nil =>
    rw [importStores, Except.ok.injEq, Prod.mk.injEq] at h
    obtain ⟨rfl, rfl⟩ := h
    exact ⟨fun _ hmem => hmem, fun _ => .inl rfl⟩
  | cons first rest ih =>
    rw [importStores] at h
    split at h
    · obtain ⟨hbefore, hstores⟩ := ih h
      refine ⟨hbefore, fun id => (hstores id).imp_right ?_⟩
      exact fun ⟨store, hstore, hid, hrestored⟩ => ⟨store, hstore, hid, hrestored.cons first⟩
    rename_i hsafe
    split at h
    · cases h
    rename_i credentials hcredentials
    obtain ⟨hbefore, hstores⟩ := ih h
    refine ⟨fun answer hmem => hbefore answer (List.mem_append_left _ hmem), fun id => ?_⟩
    rcases hstores id with hsame | ⟨store, hstore, hid, hrestored⟩
    · by_cases hid : id = first.storeId
      · subst hid
        refine .inr ⟨restoredStore accountId credentials first now,
          hsame.trans (Properties.get_set_self _ _ _), rfl,
          by simpa [restoredStore] using hsafe, rfl, rfl,
          ⟨publicStore (restoredStore accountId credentials first now), ?_, rfl⟩,
          ⟨first, List.mem_cons_self, rfl, ?_⟩⟩
        · exact hbefore _ (List.mem_append_right _ (List.mem_singleton_self _))
        · simp [BackupStore.provision, hcredentials, Except.toOption, restoredStore]
      · exact .inl (hsame.trans (Properties.get_set_other _ _ hid))
    · exact .inr ⟨store, hstore, hid, hrestored.cons first⟩

/-- A store that is classified as new is not in the catalog. -/
theorem mapM_classify_new {actual : List Classification}
    (h : incoming.mapM (classify normalizeCredentials scope) = .ok actual) :
    ∀ row ∈ actual, row.kind = .IMPORT_NEW → scope.stores.get row.storeId = none := by
  induction incoming generalizing actual with
  | nil =>
    rw [List.mapM_nil] at h
    cases h
    nofun
  | cons first rest ih =>
    rw [List.mapM_cons] at h
    cases hfirst : classify normalizeCredentials scope first with
    | error error =>
      rw [hfirst] at h
      cases h
    | ok row =>
      cases hrest : rest.mapM (classify normalizeCredentials scope) with
      | error error =>
        rw [hfirst, hrest] at h
        cases h
      | ok rows =>
        rw [hfirst, hrest] at h
        cases h
        intro row' hmem hkind
        rcases List.mem_cons.mp hmem with rfl | hmem
        · unfold classify at hfirst
          split at hfirst
          · rename_i hshown
            cases hfirst
            exact lookup_absent hshown
          · split at hfirst
            · cases hfirst
              cases hkind
            · cases hbackup : backupCredentials normalizeCredentials first with
              | error error =>
                rw [hbackup] at hfirst
                cases hfirst
              | ok credentials =>
                rw [hbackup] at hfirst
                cases hfirst
                cases hkind
          · split_ifs at hfirst
            · cases hfirst
              cases hkind
            · cases hfirst
              cases hkind
            · cases hfirst
              cases hkind
            · split at hfirst
              · cases hfirst
              · split at hfirst <;> cases hfirst <;> cases hkind
        · exact ih hrest row' hmem hkind

theorem applyBackupImport_lawful {payload : BackupPayload} {expectedPlan : BackupPlan}
    {answer : BackupAnswer}
    (h : applyBackupImport normalizeCredentials accountId payload expectedPlan now scope =
      .ok (answer, written)) :
    LawfulStep accountId sound ((CatalogCall.applyBackupImport payload expectedPlan now).provisions
      normalizeCredentials accountId scope) scope written := by
  have hlog : (CatalogCall.applyBackupImport payload expectedPlan now).provisions
      normalizeCredentials accountId scope = payload.stores.filterMap fun incoming =>
        if answer.imported.any (·.id = incoming.storeId) then incoming.provision normalizeCredentials
        else none := by
    simp only [CatalogCall.provisions, h]
  rw [hlog]
  unfold applyBackupImport at h
  split at h
  · cases h
  split at h
  · cases h
  rename_i actual hactual
  split at h
  · cases h
  simp only [] at h
  split at h
  · cases h
  rename_i imported written' himported
  rw [Except.ok.injEq, Prod.mk.injEq] at h
  obtain ⟨rfl, rfl⟩ := h
  intro id
  rcases (importStores_ok himported).2 id with
    hsame | ⟨store, hstore, rfl, hrestored⟩
  · exact .inl hsame
  · refine .inr ⟨store, hstore, rfl, ?_⟩
    have hnone : scope.stores.get store.id = none := by
      have hsafe := hrestored.safe
      simp only [Bool.and_eq_true, decide_eq_true_eq, Option.map_eq_some_iff] at hsafe
      obtain ⟨-, row, hfind, hkind⟩ := hsafe
      have hid := List.find?_some hfind
      rw [decide_eq_true_eq] at hid
      rw [← hid]
      exact mapM_classify_new hactual row (List.mem_of_find?_eq_some hfind) hkind
    obtain ⟨source, hsource, hid, hprovision⟩ := hrestored.source
    refine .new hrestored.owned hrestored.active (fun _ => hnone)
      fun _ => List.mem_filterMap.mpr ⟨source, hsource, ?_⟩
    rw [if_pos (by simpa [hid] using hrestored.answered), hprovision]

/-! The operations on one record. -/

theorem remove_lawful {id : JsString} {answer : Option PublicStore} (hw : WellFormed accountId scope)
    (h : remove id scope = .ok (answer, written)) :
    LawfulStep accountId sound log scope written := by
  unfold remove at h
  split at h
  · cases h
  · cases h
    exact .refl _
  rename_i previous hshown
  have hget := lookup_record hshown
  rw [Except.ok.injEq, Prod.mk.injEq] at h
  obtain ⟨-, rfl⟩ := h
  refine .put ?_ rfl
  rw [show scope.stores.get previous.id = some previous from hw.own hget]
  refine ⟨hw.owned _ previous hget, fun _ => rfl, fun _ => ?_, fun _ => nofun⟩
  intro p hp
  obtain rfl := Option.some.inj hp
  exact ⟨fun _ => rfl, Int.le_add_of_nonneg_right (by decide),
    fun hconfirmed => ⟨hconfirmed, rfl⟩, rfl⟩

theorem pinnedStore_some {id : JsString} (h : pinnedStore id expectedRevision scope = some store) :
    scope.stores.get id = some store ∧ store.lifecycleState ≠ .TOMBSTONED := by
  obtain ⟨hget, hpinned⟩ := Option.filter_eq_some_iff.mp h
  simp only [Bool.and_eq_true, decide_eq_true_eq] at hpinned
  exact ⟨hget, hpinned.1⟩

theorem noteVerification_lawful {id : JsString} {part : JsString} {result : ProviderCheck}
    (hw : WellFormed accountId scope)
    (h : noteVerification id expectedRevision part result now scope = .ok (answer, written)) :
    LawfulStep accountId sound log scope written := by
  unfold noteVerification at h
  split at h
  · cases h
  rename_i previous hpinned
  obtain ⟨hget, hactive⟩ := pinnedStore_some hpinned
  rw [Except.ok.injEq, Prod.mk.injEq] at h
  obtain ⟨-, rfl⟩ := h
  refine .put ?_ rfl
  rw [show scope.stores.get previous.id = some previous from hw.own hget]
  refine ⟨hw.owned _ previous hget, fun htombstoned => absurd htombstoned hactive, fun _ => ?_,
    fun _ hstale _ => .inr ⟨previous, rfl, hstale, rfl, rfl⟩⟩
  intro p hp
  obtain rfl := Option.some.inj hp
  exact ⟨fun htombstoned => htombstoned, Int.le_refl _, fun hconfirmed => ⟨hconfirmed, rfl⟩, rfl⟩

theorem confirmProviderIdentity_lawful {id : JsString} {providerAccountId : JsString}
    (hw : WellFormed accountId scope)
    (h : confirmProviderIdentity id expectedRevision providerAccountId scope =
      .ok (answer, written)) :
    LawfulStep accountId sound log scope written := by
  unfold confirmProviderIdentity at h
  split at h
  · cases h
  split at h
  · cases h
  rename_i previous hpinned
  obtain ⟨hget, hactive⟩ := pinnedStore_some hpinned
  split at h
  · cases h
  rename_i hsame
  rw [Except.ok.injEq, Prod.mk.injEq] at h
  obtain ⟨-, rfl⟩ := h
  refine .put ?_ rfl
  rw [show scope.stores.get previous.id = some previous from hw.own hget]
  refine ⟨hw.owned _ previous hget, fun htombstoned => absurd htombstoned hactive, fun _ => ?_,
    fun _ hstale _ => .inr ⟨previous, rfl, hstale, rfl, rfl⟩⟩
  intro p hp
  obtain rfl := Option.some.inj hp
  refine ⟨fun htombstoned => htombstoned, Int.le_add_of_nonneg_right (by decide),
    fun hconfirmed => ⟨rfl, ?_⟩, rfl⟩
  by_contra hne
  exact hsame (by simp [hconfirmed, Ne.symm hne])

/-! `applyRemoteMetadata`. -/

theorem remoteStore_new :
    Lawful accountId sound log none (remoteStore accountId none storeId input now) where
  owned := rfl
  emptied _ := by simp [remoteStore]
  kept _ := fun p hp => by cases hp
  provided _ _ hne := absurd (by simp [remoteStore]) hne

/-- Remote metadata keep the account of a confirmed identity. -/
theorem remoteStore_identity (hconfirmed : previous.providerIdentityState = .CONFIRMED)
    (haccount : truthy previous.providerAccountId = false →
      previous.providerAccountId = none ∧ truthy input.providerAccountId.join = false) :
    let store := remoteStore accountId (some previous) storeId input now
    store.providerIdentityState = .CONFIRMED ∧
      store.providerAccountId = previous.providerAccountId := by
  refine ⟨by simp [remoteStore, hconfirmed], ?_⟩
  simp only [remoteStore, Option.any_some, hconfirmed, decide_true, Bool.true_or, if_true,
    Option.bind_some, orElse]
  split
  · rfl
  · rename_i hfalsy
    obtain ⟨hnone, hinput⟩ := haccount (by simpa using hfalsy)
    rw [hnone]
    simp [orNull, hinput]

/-- Credentials that stay current stay under their revision. -/
theorem remoteStore_current
    (hrevision : previous.credentialRevision = some [] → truthy input.credentialRevision = false →
      previous.credentialsStale = true ∨ previous.credentials = {} ∨
        input.kind = .STORE_TOMBSTONE)
    (hcurrent : (remoteStore accountId (some previous) storeId input now).credentialsStale = false) :
    SameCredentials previous (remoteStore accountId (some previous) storeId input now) := by
  simp only [remoteStore, Bool.or_eq_false_iff, decide_eq_false_iff_not, Option.any_some,
    Option.isSome_some, Bool.true_and, Option.bind_some, Option.map_some, Option.getD_some,
    ne_eq, not_not] at hcurrent
  obtain ⟨⟨⟨hkind, hstale⟩, hne⟩, hsame⟩ := hcurrent
  rw [if_neg hkind] at hne
  refine ⟨hstale, ?_, ?_⟩
  · simp only [remoteStore, if_neg hkind, Option.map_some, Option.getD_some]
  · simp only [remoteStore, Option.bind_some]
    rw [← hsame]
    refine (orNull_eq_self fun hempty => ?_).symm
    have hfalsy : truthy input.credentialRevision = false := by
      by_contra htruthy
      rw [Bool.not_eq_false] at htruthy
      rw [hempty, orElse, if_pos htruthy] at hsame
      rw [← hsame] at htruthy
      cases htruthy
    rcases hrevision hempty hfalsy with hstale' | hempty' | hkind'
    · rw [hstale] at hstale'
      cases hstale'
    · exact hne hempty'
    · exact hkind hkind'

theorem applyRemoteMetadata_lawful (hw : WellFormed accountId scope)
    (h : applyRemoteMetadata accountId input now scope = .ok (answer, written)) :
    LawfulStep accountId ((CatalogCall.applyRemoteMetadata input now).Sound scope) log scope
      written := by
  unfold applyRemoteMetadata at h
  split at h
  · cases h
  rename_i hguard
  simp only [] at h
  split at h
  · rename_i hshown
    rw [Except.ok.injEq, Prod.mk.injEq] at h
    obtain ⟨-, rfl⟩ := h
    refine .put ?_ rfl
    rw [show scope.stores.get (remoteStore accountId none (input.storeId.getD []) input now).id =
      none from lookup_absent hshown]
    exact remoteStore_new
  · cases h
  rename_i previous hshown
  have hget := lookup_record hshown
  have hat : input.storeId.bind scope.stores.get = some previous := by
    cases hid : input.storeId with
    | none => simp [hid] at hguard
    | some storeId => rwa [hid] at hget
  split at h
  · cases h
  split at h
  · rename_i htombstoned
    split at h
    · rename_i hnewer
      rw [Except.ok.injEq, Prod.mk.injEq] at h
      obtain ⟨-, rfl⟩ := h
      refine .put ?_ rfl
      rw [show scope.stores.get previous.id = some previous from hw.own hget]
      refine ⟨hw.owned _ previous hget, hw.emptied _ previous hget, fun _ => ?_,
        fun _ hstale _ => .inr ⟨previous, rfl, hstale, rfl, rfl⟩⟩
      intro p hp
      obtain rfl := Option.some.inj hp
      simp only [Bool.and_eq_true, decide_eq_true_eq] at hnewer
      exact ⟨fun htombstoned => htombstoned, Int.le_of_lt hnewer.2,
        fun hconfirmed => ⟨hconfirmed, rfl⟩, rfl⟩
    · rw [Except.ok.injEq, Prod.mk.injEq] at h
      exact h.2 ▸ .refl _
  rename_i hactive
  split at h
  · rw [Except.ok.injEq, Prod.mk.injEq] at h
    exact h.2 ▸ .refl _
  rename_i hnewer
  split at h
  · cases h
  rw [Except.ok.injEq, Prod.mk.injEq] at h
  obtain ⟨-, rfl⟩ := h
  have hlifecycle : previous.lifecycleState = .ACTIVE := by
    cases hstate : previous.lifecycleState with
    | ACTIVE => rfl
    | TOMBSTONED => exact absurd hstate hactive
  refine .put ?_ rfl
  rw [show scope.stores.get (remoteStore accountId (some previous) (input.storeId.getD []) input
    now).id = some previous from hw.own hget]
  refine ⟨hw.owned _ previous hget, ?_, fun hsound => ?_, fun hsound hstale _ =>
    .inr ⟨previous, rfl, remoteStore_current
      (hsound previous hat hlifecycle (Int.not_lt.mp hnewer)).2.2 hstale⟩⟩
  rotate_left
  · obtain ⟨hmarketplace, haccount, -⟩ :=
      hsound previous hat hlifecycle (Int.not_lt.mp hnewer)
    intro p hp
    obtain rfl := Option.some.inj hp
    exact ⟨fun htombstoned => absurd htombstoned hactive, Int.not_lt.mp hnewer,
      fun hconfirmed => remoteStore_identity hconfirmed (haccount hconfirmed), hmarketplace⟩
  · intro htombstoned
    by_cases hkind : input.kind = .STORE_TOMBSTONE
    · simp [remoteStore, hkind]
    · simp [remoteStore, hkind] at htombstoned

/-! Runs. -/

theorem ok_of_written {α : Type} {mutation : Mutation α}
    (h : mutation.toOption.map Prod.snd = some written) :
    ∃ answer, mutation = .ok (answer, written) := by
  cases mutation with
  | error error => cases h
  | ok result => exact ⟨result.1, congrArg Except.ok (Prod.ext rfl (Option.some.inj h))⟩

theorem CatalogCall.lawful (normalizeCredentials : NormalizeCredentials) (call : CatalogCall) (hw : WellFormed accountId scope) :
    LawfulStep accountId (call.Sound scope) (call.provisions normalizeCredentials accountId scope) scope
      (call.next normalizeCredentials accountId scope) := by
  cases hwritten : call.written normalizeCredentials accountId scope with
  | none =>
    rw [CatalogCall.next, hwritten]
    exact .refl _
  | some written =>
    rw [CatalogCall.next, hwritten, Option.getD_some]
    cases call with
    | save input drawn =>
      obtain ⟨answer, hok⟩ := ok_of_written hwritten
      exact save_lawful hw hok
    | importCredential input now =>
      obtain ⟨answer, hok⟩ := ok_of_written hwritten
      exact importCredential_lawful hw hok
    | applyBackupImport payload expectedPlan now =>
      obtain ⟨answer, hok⟩ := ok_of_written hwritten
      exact applyBackupImport_lawful hok
    | remove id =>
      obtain ⟨answer, hok⟩ := ok_of_written hwritten
      exact remove_lawful hw hok
    | noteVerification id expectedRevision part result now =>
      obtain ⟨answer, hok⟩ := ok_of_written hwritten
      exact noteVerification_lawful hw hok
    | confirmProviderIdentity id expectedRevision providerAccountId =>
      obtain ⟨answer, hok⟩ := ok_of_written hwritten
      exact confirmProviderIdentity_lawful hw hok
    | applyRemoteMetadata input now =>
      obtain ⟨answer, hok⟩ := ok_of_written hwritten
      exact applyRemoteMetadata_lawful hw hok

end Steps

section Runs

variable {normalizeCredentials : NormalizeCredentials}

/-- Every run keeps the scope well-formed. -/
theorem wellFormed_catalogFrom (normalizeCredentials : NormalizeCredentials) (calls : List CatalogCall) (hw : WellFormed accountId scope) :
    WellFormed accountId (catalogFrom normalizeCredentials accountId scope calls) := by
  induction calls generalizing scope with
  | nil => exact hw
  | cons call rest ih => exact ih ((call.lawful normalizeCredentials hw).wellFormed hw)

/-- Every call of the run keeps its condition in the scope it finds. -/
def SoundFrom (normalizeCredentials : NormalizeCredentials) (accountId : JsString) (scope : Scope) :
    List CatalogCall → Prop
  | [] => True
  | call :: rest =>
    call.Sound scope ∧
      SoundFrom normalizeCredentials accountId
        (call.next normalizeCredentials accountId scope) rest

/-- A sound run keeps every store within the laws. -/
theorem SoundFrom.kept {calls : List CatalogCall}
    (h : SoundFrom normalizeCredentials accountId scope calls) (hw : WellFormed accountId scope)
    (hp : AllProvided log scope) :
    AllProvided (log ++ provisionsFrom normalizeCredentials accountId scope calls)
        (catalogFrom normalizeCredentials accountId scope calls) ∧
      ∀ id store, scope.stores.get id = some store →
        ∃ store', (catalogFrom normalizeCredentials accountId scope calls).stores.get id =
          some store' ∧ Kept store store' := by
  induction calls generalizing scope log with
  | nil =>
    rw [provisionsFrom, List.append_nil]
    exact ⟨hp, fun id store hget => ⟨store, hget, .refl store⟩⟩
  | cons call rest ih =>
    obtain ⟨hcall, hrest⟩ := h
    have hstep := call.lawful normalizeCredentials hw
    obtain ⟨hprovided, hkept⟩ := ih hrest (hstep.wellFormed hw) (hstep.allProvided hcall hw hp)
    rw [List.append_assoc] at hprovided
    refine ⟨hprovided, fun id store hget => ?_⟩
    obtain ⟨next, hnext, hfirst⟩ := hstep.kept hcall hget
    obtain ⟨store', hstore', hlater⟩ := hkept id next hnext
    exact ⟨store', hstore', hfirst.trans hlater⟩

end Runs

/-! A store known from remote metadata, into which a packet is imported. -/

def samplePort : NormalizeCredentials := fun _ input _ => .ok input.toCredentials

def sampleSave : CatalogCall :=
  .save { marketplace := some .ozon, credentials := { token := some (units "key") } }
    ⟨units "credential-1", units "1", 1⟩

end SellerAgents.BridgeCore
